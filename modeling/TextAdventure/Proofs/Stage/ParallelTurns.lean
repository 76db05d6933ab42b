import TextAdventure.Proofs.Rulebook.Runs
import TextAdventure.Proofs.Stage.FreshStarts

/-!
# Turns on parallel stages

On parallel stages with the same store, on which the same level was started, the commands of the
game itself come to the same, and so do the turns that run them.
-/

namespace TextAdventure

/-- A key that names a command of the game itself, if it names a command at all. -/
def Registry.HasBuiltIn (registry : Registry) (key : Key) : Prop :=
  ∀ command, registry.command? key = some command → command.behavior.isBuiltIn = true

namespace Activity

variable {left right : Stage}

theorem blind_talk (operation : Operation) : Blind (talk operation) := by
  refine blind_session_bind fun left right h => ?_
  rw [h.world]
  split
  · exact blind_say _ h
  · exact blind_applyAll _ h

theorem blind_quit : Blind quit := by
  refine Blind.bind ?_ fun _ => blind_say _
  exact blind_editSession fun _ _ h => ⟨h.world, h.skipsSweep, rfl, h.phase, h.terminals⟩

/-- Whether the worlds can be kept is said, and not seen by anything else. -/
theorem blind_save (operation : Operation) : Blind (save operation) := by
  intro left right h
  obtain ⟨leftText, hleft⟩ := exists_perform_save operation left
  obtain ⟨rightText, hright⟩ := exists_perform_save operation right
  rw [hleft, hright]
  exact ⟨rfl, h.world, h.skipsSweep, h.isFinished, h.phase, h.terminals⟩

theorem agrees_load (operation : Operation) (h : left.Parallels right)
    (hstore : left.store = right.store) :
    Agrees ((load operation).perform left) ((load operation).perform right) := by
  by_cases hoffers : ∃ world, left.store.Offers operation.slot world
  · obtain ⟨world, hleft⟩ := hoffers
    have hright : right.store.Offers operation.slot world := hstore ▸ hleft
    rw [perform_load hleft, perform_load hright]
    exact ⟨rfl, rfl, rfl, rfl, h.phase, h.terminals⟩
  · have hleft := not_exists.mp hoffers
    have hright : ∀ world, ¬ right.store.Offers operation.slot world := hstore ▸ hleft
    obtain ⟨leftText, hleft⟩ := exists_perform_load hleft
    obtain ⟨rightText, hright⟩ := exists_perform_load hright
    rw [hleft, hright]
    exact ⟨rfl, h.world, h.skipsSweep, h.isFinished, h.phase, h.terminals⟩

theorem agrees_restart (h : left.Parallels right)
    (hlevel : left.session.level = right.session.level) :
    Agrees (restart.perform left) (restart.perform right) := by
  rw [restart, perform_bind, perform_bind, perform_session, perform_session]
  dsimp only
  rw [hlevel]
  cases right.session.level with
  | none => exact blind_throw _ h
  | some level => exact agrees_start level h.terminals

theorem agrees_startOver (h : left.Parallels right)
    (hlevel : left.session.level = right.session.level) :
    Agrees (startOver.perform left) (startOver.perform right) := by
  obtain ⟨hresult, hafter⟩ := agrees_restart h hlevel
  rw [perform_startOver, perform_startOver]
  generalize restart.perform left = leftOutcome at hresult hafter ⊢
  generalize restart.perform right = rightOutcome at hresult hafter ⊢
  obtain ⟨leftResult, leftAfter⟩ := leftOutcome
  obtain ⟨rightResult, rightAfter⟩ := rightOutcome
  obtain rfl : leftResult = rightResult := hresult
  cases leftResult with
  | error fault => exact ⟨rfl, hafter⟩
  | ok report =>
      refine ⟨rfl, ?_, rfl, hafter.isFinished, hafter.phase, hafter.terminals⟩
      exact congrArg (fun world => world.describeLocation.world) hafter.world

theorem agrees_runBehavior (handlers : Handlers) (operation : Operation) {behavior : Behavior}
    (hbuiltIn : behavior.isBuiltIn = true) (h : left.Parallels right)
    (hstore : left.store = right.store) (hlevel : left.session.level = right.session.level) :
    Agrees ((runBehavior handlers operation behavior).perform left)
      ((runBehavior handlers operation behavior).perform right) := by
  unfold runBehavior
  cases behavior with
  | talk => exact blind_talk operation h
  | wait => exact blind_say _ h
  | save => exact blind_save operation h
  | load => exact agrees_load operation h hstore
  | restart => exact agrees_startOver h hlevel
  | quit => exact blind_quit h
  | custom name => cases hbuiltIn
  | _ => exact blind_answer _ h

theorem agrees_run (handlers : Handlers) {operation : Operation}
    (hbuiltIn : left.session.world.registry.HasBuiltIn operation.command)
    (h : left.Parallels right) (hstore : left.store = right.store)
    (hlevel : left.session.level = right.session.level) :
    Agrees ((run handlers operation).perform left) ((run handlers operation).perform right) := by
  rw [run, perform_bind, perform_bind, perform_session, perform_session]
  dsimp only
  rw [← h.world]
  split
  · exact blind_say _ h
  next command hcommand =>
    exact agrees_runBehavior handlers operation (hbuiltIn command hcommand) h hstore hlevel

theorem blind_finishTurn (operation : Operation) : Blind (finishTurn operation) := by
  refine blind_session_bind fun left right h => ?_
  rw [h.skipsSweep]
  split
  · refine Blind.bind ?_ (fun _ => blind_pure none) h
    exact blind_editSession fun _ _ h => ⟨h.world, rfl, h.isFinished, h.phase, h.terminals⟩
  · refine Blind.bind ?_ (fun _ => ?_) h
    · refine blind_editSession fun left right h => ?_
      refine ⟨?_, h.skipsSweep, h.isFinished, h.phase, h.terminals⟩
      exact congrArg (fun world : World => { world with turns := world.turns + 1 }) h.world
    · exact (blind_sweep _).bind fun report => blind_pure (some report)

theorem agrees_runTurn (handlers : Handlers) {operation : Operation}
    (hbuiltIn : left.session.world.registry.HasBuiltIn operation.command)
    (h : left.Parallels right) (hstore : left.store = right.store)
    (hlevel : left.session.level = right.session.level) :
    Agrees ((runTurn handlers operation).perform left)
      ((runTurn handlers operation).perform right) := by
  rw [runTurn, perform_bind, perform_bind, perform_editSession, perform_editSession]
  have hrunning : left.running.Parallels right.running :=
    ⟨h.world, h.skipsSweep, h.isFinished, rfl, h.terminals⟩
  have hrun : Agrees ((run handlers operation).perform left.running)
      ((run handlers operation).perform right.running) :=
    agrees_run handlers hbuiltIn hrunning hstore hlevel
  refine hrun.endingIdle.bind ?_
  intro _ leftRan rightRan hran
  refine (blind_finishTurn operation hran).bind ?_
  intro report leftSwept rightSwept hswept
  exact blind_flush.bind (fun _ => blind_pure _) hswept

end Activity

end TextAdventure
