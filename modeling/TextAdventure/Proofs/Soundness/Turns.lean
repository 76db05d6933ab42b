import TextAdventure.Proofs.Soundness.Stages
import TextAdventure.Stage.Turn

/-!
# Sound turns

Every turn of a good stage ends on a good stage, whether it ends well or fails.  Only a load
and a restart leave a sweep to be skipped, and neither can fail after that; the end of the
turn skips it.
-/

namespace TextAdventure

namespace Activity

open Stage

variable {stage : Stage}

/-! ## Saving and loading -/

theorem ends_reporting {α : Type} {complaint : String} {activity : Activity α}
    {next : α → Activity Unit} {middle : α → Stage → Prop} {lost failed : Stage → Prop}
    {after : Unit → Stage → Prop} (h : Ends (activity.perform stage) middle lost)
    (hnext : ∀ value stage, middle value stage → Ends ((next value).perform stage) after failed)
    (hlost : ∀ text stage, lost stage → Ends ((say text).perform stage) after failed) :
    Ends ((reporting complaint activity next).perform stage) after failed := by
  simp only [reporting, ofStep, perform, ExceptT.mk, ExceptT.run, StateT.run] at h ⊢
  split
  next fault after heq =>
    rw [heq] at h
    exact hlost _ after h
  next value after heq =>
    rw [heq] at h
    exact hnext value after h

theorem ends_saveTo (h : stage.IsCalm) (hkeep : stage.store.CanKeep stage.session.world)
    (name : String) : Ends ((saveTo name).perform stage) (fun _ => IsCalm) IsCalm := by
  have hstore := h.store.save name h.world hkeep
  have hperform : (saveTo name).perform stage =
      ((stage.store.save name stage.session.world).1,
        { stage with store := (stage.store.save name stage.session.world).2 }) := rfl
  rw [hperform]
  generalize stage.store.save name stage.session.world = outcome at hstore ⊢
  obtain ⟨result, store⟩ := outcome
  have hafter : { stage with store := store }.IsCalm :=
    ⟨⟨h.world, h.level, hstore⟩, h.unskipped⟩
  cases result with
  | error fault => exact hafter
  | ok value => exact hafter

theorem ends_save (h : stage.IsCalm) (hkeep : stage.store.CanKeep stage.session.world)
    (operation : Operation) :
    Ends ((save operation).perform stage) (fun _ => IsCalm) IsCalm :=
  ends_reporting (ends_saveTo h hkeep operation.slot) (fun _ _ hsaved => hsaved.say _)
    fun _ _ hlost => hlost.say _

theorem restore_ok {session after : Session} {world : World}
    (h : session.restore world = .ok after) :
    after = { session with world := world, isFinished := false } := by
  unfold Session.restore at h
  cases hcheck : world.check with
  | error fault =>
      rw [hcheck] at h
      cases h
  | ok value =>
      rw [hcheck] at h
      cases h
      rfl

theorem keeps_loadFrom (name : String) : Keeps IsCalm (loadFrom name) := by
  intro stage h
  simp only [perform, loadFrom, ofStep, ExceptT.mk, ExceptT.run, StateT.run]
  split
  · exact h
  next world hload =>
    split
    · exact h
    next session hrestore =>
      rw [restore_ok hrestore]
      exact ⟨⟨h.store.load hload, h.level, h.store⟩, h.unskipped⟩

theorem ends_load (h : stage.IsCalm) (operation : Operation) :
    Ends ((load operation).perform stage) (fun _ => IsSteady) IsCalm := by
  refine ends_reporting (keeps_loadFrom operation.slot stage h) ?_
    fun _ _ hlost => (hlost.say _).toIsSteady
  intro _ loaded hloaded
  apply ends_editSession_bind
  apply ends_editSession_bind
  exact ⟨hloaded.world.describeLocation, hloaded.level, hloaded.store⟩

/-! ## Other commands -/

theorem ends_startOver (h : stage.IsCalm) :
    Ends (startOver.perform stage) (fun _ => IsSteady) IsCalm := by
  have hrestart : Ends ((discard restart).perform stage) (fun _ => IsGood) IsCalm :=
    (ends_restart h).bind fun _ _ hmiddle => hmiddle
  refine hrestart.bind ?_
  intro _ middle hmiddle
  apply ends_editSession_bind
  exact ⟨hmiddle.world.describeLocation, hmiddle.level, hmiddle.store⟩

theorem keeps_quit : Keeps IsCalm quit := by
  intro stage h
  apply ends_editSession_bind
  exact ⟨⟨h.world, h.level, h.store⟩, h.unskipped⟩

theorem keeps_isCalm_talk (operation : Operation) : Keeps IsCalm (talk operation) := by
  refine keeps_talk isCalm_isKeptBy fun stage h dialog haddress key hkey => ?_
  rw [List.mem_singleton.mp hkey]
  exact h.world.normal_of_address haddress

theorem keeps_answer {reply : World → Reply}
    (hreply : ∀ world : World, world.IsSound → (reply world).world.IsSound) :
    Keeps IsCalm (answer reply) := by
  intro stage h
  exact h.accept (hreply _ h.world)

theorem ends_runBehavior (handlers : Handlers) (h : stage.IsCalm)
    (hkeep : stage.store.CanKeep stage.session.world) (operation : Operation)
    {behavior : Behavior} (hbehavior : behavior.isBuiltIn = true) :
    Ends ((runBehavior handlers operation behavior).perform stage) (fun _ => IsSteady) IsCalm := by
  have hcalm : ∀ {activity : Activity Unit}, Keeps IsCalm activity →
      Ends (activity.perform stage) (fun _ => IsSteady) IsCalm :=
    fun hkeeps => (hkeeps stage h).weaken (fun _ _ hnext => hnext.toIsSteady)
      fun _ hnext => hnext
  unfold runBehavior
  cases behavior with
  | look => exact hcalm (keeps_answer fun _ hworld => hworld.describeLocation)
  | examine => exact hcalm (keeps_answer fun _ hworld => hworld.examine operation)
  | move => exact hcalm (keeps_answer fun _ hworld => hworld.moveAlong operation)
  | go => exact hcalm (keeps_answer fun _ hworld => hworld.go operation)
  | get => exact hcalm (keeps_answer fun _ hworld => hworld.get Arithmetic.binary64 operation)
  | drop => exact hcalm (keeps_answer fun _ hworld => hworld.drop operation)
  | put => exact hcalm (keeps_answer fun _ hworld => hworld.put operation)
  | inventory => exact hcalm (keeps_answer fun _ hworld => hworld.takeStock)
  | talk => exact hcalm (keeps_isCalm_talk operation)
  | wait => exact hcalm (keeps_say ignoresShow_isCalm _)
  | help => exact hcalm (keeps_answer fun _ hworld => hworld)
  | save =>
      exact (ends_save h hkeep operation).weaken (fun _ _ hnext => hnext.toIsSteady)
        fun _ hnext => hnext
  | load => exact ends_load h operation
  | restart => exact ends_startOver h
  | quit => exact hcalm keeps_quit
  | custom handler => cases hbehavior

theorem ends_run (handlers : Handlers) (h : stage.IsCalm)
    (hkeep : stage.store.CanKeep stage.session.world) (operation : Operation) :
    Ends ((run handlers operation).perform stage) (fun _ => IsSteady) IsCalm := by
  apply ends_session_bind
  split
  · exact (h.say _).toIsSteady
  next command hcommand =>
    exact ends_runBehavior handlers h hkeep operation (h.world.isBuiltIn hcommand)

/-! ## Whole turns -/

theorem ends_finishTurn (h : stage.IsSteady) (hidle : stage.session.phase = .idle)
    (operation : Operation) :
    Ends ((finishTurn operation).perform stage) (fun _ => IsGood) IsGood := by
  apply ends_session_bind
  split
  · exact ends_editSession_bind ⟨⟨⟨h.world, h.level, h.store⟩, rfl⟩, hidle⟩
  next hskip =>
    have hcounted : { stage with session := stage.session.countTurn }.IsGood :=
      ⟨⟨⟨⟨⟨h.world.good.entities, h.world.good.player, h.world.good.activeOnce,
        h.world.good.activeCommands⟩, h.world.standard⟩, h.level, h.store⟩,
        eq_false_of_ne_true hskip⟩, hidle⟩
    exact ends_editSession_bind ((keeps_sweep (some operation) _ hcounted).bind
      fun _ _ hswept => hswept)

theorem ends_runTurn (handlers : Handlers) (h : stage.IsGood)
    (hkeep : stage.store.CanKeep stage.session.world) (operation : Operation) :
    Ends ((runTurn handlers operation).perform stage) (fun _ => IsGood) IsGood := by
  have hrun := ends_run handlers (h.toIsCalm.withPhase .commandRunning) hkeep operation
  have hfinish : ∀ ran : Stage, ran.IsSteady ∧ ran.session.phase = .idle →
      Ends ((finishTurn operation).perform ran) (fun _ => IsGood) IsGood :=
    fun _ hran => ends_finishTurn hran.1 hran.2 operation
  refine ends_runTurn_of_ends_run ignoresShow_isGood ?_ hfinish
  exact hrun.weaken (fun _ _ hran => ⟨⟨hran.world, hran.level, hran.store⟩, rfl⟩)
    fun _ hran => hran.idled

/-- A turn leaves a good stage good, whatever is typed and wherever the terminal fails. -/
theorem ends_turn (handlers : Handlers) (h : stage.IsGood)
    (hkeep : stage.store.CanKeep stage.session.world) (line : String) :
    Ends ((turn handlers line).perform stage) (fun _ => IsGood) IsGood :=
  ends_turn_of_ends_runTurn ignoresShow_isGood h fun operation _ _ =>
    ends_runTurn handlers h hkeep operation

end Activity

/-! ## Runs -/

namespace Stage

/-- The stage after a line has been played, whether the turn ended well or failed. -/
def played (handlers : Handlers) (stage : Stage) (line : String) : Stage :=
  ((Activity.turn handlers line).perform stage).2

/-- The stage after lines have been played one after another. -/
def playedAll (handlers : Handlers) (stage : Stage) (lines : List String) : Stage :=
  lines.foldl (played handlers) stage

/-- Whenever a line is played, the store could keep the world of that moment. -/
def CanKeepAll (handlers : Handlers) : Stage → List String → Prop
  | _, [] => True
  | stage, line :: rest =>
      stage.store.CanKeep stage.session.world ∧
        CanKeepAll handlers (stage.played handlers line) rest

theorem IsGood.played {stage : Stage} (h : stage.IsGood) (handlers : Handlers)
    (hkeep : stage.store.CanKeep stage.session.world) (line : String) :
    (stage.played handlers line).IsGood :=
  Activity.Ends.atEnd (Activity.ends_turn handlers h hkeep line)

/-- A good stage is good after any lines, however often the terminal fails on the way.  What is
asked of the world is asked of every world that may take its place, because it is played next. -/
theorem isGood_playedAll {stage : Stage} (h : stage.IsGood) (handlers : Handlers)
    (lines : List String) (hkeep : stage.CanKeepAll handlers lines) :
    (stage.playedAll handlers lines).IsGood := by
  induction lines generalizing stage with
  | nil => exact h
  | cons line rest ih => exact ih (h.played handlers hkeep.1 line) hkeep.2

end Stage

/-- A cellar with a rat in it, that can save and load. -/
def Level.cellar : Level where
  name := "The Cellar"
  build := do
    Layout.create (Entity.location "Cellar")
    Layout.create (Entity.pawn "Rat" "Cellar" ⟨0x3FF0000000000000⟩)
    Layout.create (Entity.command "Save" "sa" .save)
    Layout.create (Entity.command "Load" "lo" .load)
    Layout.setPlayer "rat"
    Layout.activate "save"
    Layout.activate "load"

namespace Stage

/-- The cellar with a save folder and a terminal that refuses every display. -/
def darkCellar : Stage where
  session := { Session.fresh with
    world := Level.cellar.draft.2.world
    level := some Level.cellar }
  terminal := .scripted { Script.ofLines [] with displaysLeft := some 0 }
  store := .folder Folder.absent

theorem isGood_darkCellar : darkCellar.IsGood := by
  have hsound : Level.cellar.draft.2.world.IsSound := by decide +kernel
  have hlevel : ∀ level ∈ some Level.cellar, level.draft.2.world.IsSound := by
    rintro level hmem
    cases hmem
    exact hsound
  have hstore : darkCellar.store.HoldsOnly World.IsSound := by
    intro entry hentry
    cases hentry
  have hworld : darkCellar.session.world.IsSound := by
    simp only [darkCellar]
    exact hsound
  exact ⟨⟨⟨hworld, hlevel, hstore⟩, rfl⟩, rfl⟩

theorem isGood_playedAll_darkCellar :
    darkCellar.CanKeepAll [] ["save", "load"] ∧
      (darkCellar.playedAll [] ["save", "load"]).IsGood := by
  have hkeep : darkCellar.CanKeepAll [] ["save", "load"] := by
    refine ⟨?_, ?_, trivial⟩
    · decide +kernel
    · decide +kernel
  exact ⟨hkeep, isGood_playedAll isGood_darkCellar [] _ hkeep⟩

end Stage

end TextAdventure
