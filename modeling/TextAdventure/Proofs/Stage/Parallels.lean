import TextAdventure.Proofs.Stage.Logs
import TextAdventure.Proofs.Terminal.Supplies

/-!
# Parallel stages

Two stages run parallel when the same world is in play on them, as far into the turn, and the same
is left to read on terminals that refuse nothing.  What has been said or shown before, the stores
and the levels may differ.  Effects, dialogs, sweeps and most commands are blind to these: they end
in the same way on parallel stages, and leave them parallel.
-/

namespace TextAdventure

/-- Two stages between which the world in play and what is left to read make no difference. -/
structure Stage.Parallels (left right : Stage) : Prop where
  world : left.session.world = right.session.world
  skipsSweep : left.session.skipsSweep = right.session.skipsSweep
  isFinished : left.session.isFinished = right.session.isFinished
  phase : left.session.phase = right.session.phase
  terminals : left.terminal.Alike right.terminal

namespace Terminal

variable {left right : Terminal}

/-- Terminals that are alike give the same answer to a menu, and stay alike. -/
theorem Alike.exists_ask (h : left.Alike right) (menu : String) (count : Nat) :
    ∃ choice leftAfter rightAfter, left.ask menu count = (.ok choice, leftAfter) ∧
      right.ask menu count = (.ok choice, rightAfter) ∧ leftAfter.Alike rightAfter := by
  obtain ⟨leftAfter, hleft, hleftAfter, hleftSupply⟩ := h.reliable.exists_ask menu count
  obtain ⟨rightAfter, hright, hrightAfter, hrightSupply⟩ := h.alsoReliable.exists_ask menu count
  rw [← h.supply] at hright hrightSupply
  refine ⟨_, leftAfter, rightAfter, hleft, hright, ?_⟩
  exact ⟨hleftAfter, hrightAfter, hleftSupply.trans hrightSupply.symm⟩

end Terminal

namespace Activity

/-- Two outcomes with the same value or the same fault, on stages that run parallel. -/
structure Agrees {α : Type} (left right : Except Fault α × Stage) : Prop where
  result : left.1 = right.1
  stages : left.2.Parallels right.2

/-- An activity that agrees on all stages that run parallel. -/
def Blind {α : Type} (activity : Activity α) : Prop :=
  ∀ ⦃left right : Stage⦄, left.Parallels right →
    Agrees (activity.perform left) (activity.perform right)

variable {α β : Type} {activity twin : Activity α} {left right : Stage}

theorem Agrees.bind {next other : α → Activity β}
    (h : Agrees (activity.perform left) (twin.perform right))
    (hnext : ∀ value leftAfter rightAfter, leftAfter.Parallels rightAfter →
      Agrees ((next value).perform leftAfter) ((other value).perform rightAfter)) :
    Agrees ((activity >>= next).perform left) ((twin >>= other).perform right) := by
  rw [perform_bind, perform_bind]
  generalize activity.perform left = leftOutcome at h ⊢
  generalize twin.perform right = rightOutcome at h ⊢
  obtain ⟨leftResult, leftAfter⟩ := leftOutcome
  obtain ⟨rightResult, rightAfter⟩ := rightOutcome
  obtain ⟨rfl, hstages⟩ := h
  cases leftResult with
  | error fault => exact ⟨rfl, hstages⟩
  | ok value => exact hnext value leftAfter rightAfter hstages

theorem blind_pure (value : α) : Blind (pure value : Activity α) :=
  fun _ _ h => ⟨rfl, h⟩

theorem Blind.bind {next : α → Activity β} (h : Blind activity)
    (hnext : ∀ value, Blind (next value)) : Blind (activity >>= next) :=
  fun _ _ hstages => (h hstages).bind fun value _ _ hafter => hnext value hafter

theorem blind_session_bind {next : Session → Activity α}
    (h : ∀ ⦃left right : Stage⦄, left.Parallels right →
      Agrees ((next left.session).perform left) ((next right.session).perform right)) :
    Blind (session >>= next) := by
  intro left right hstages
  rw [perform_bind, perform_bind]
  exact h hstages

theorem blind_editSession {edit : Session → Session}
    (h : ∀ ⦃left right : Stage⦄, left.Parallels right →
      Stage.Parallels { left with session := edit left.session }
        { right with session := edit right.session }) :
    Blind (editSession edit) :=
  fun _ _ hstages => ⟨rfl, h hstages⟩

theorem blind_say (text : String) : Blind (say text) :=
  blind_editSession fun _ _ h => ⟨h.world, h.skipsSweep, h.isFinished, h.phase, h.terminals⟩

theorem blind_answer (reply : World → Reply) : Blind (answer reply) := by
  refine blind_editSession fun left right h => ?_
  refine ⟨?_, h.skipsSweep, h.isFinished, h.phase, h.terminals⟩
  exact congrArg (fun world => (reply world).world) h.world

theorem Agrees.endingIdle (h : Agrees (activity.perform left) (twin.perform right)) :
    Agrees ((endingIdle activity).perform left) ((endingIdle twin).perform right) := by
  rw [perform_endingIdle, perform_endingIdle]
  obtain ⟨hresult, hafter⟩ := h
  refine ⟨hresult, ?_⟩
  exact ⟨hafter.world, hafter.skipsSweep, hafter.isFinished, rfl, hafter.terminals⟩

/-! ## Showing -/

/-- On a terminal that refuses nothing, what has been said is shown, and all else stays. -/
theorem exists_perform_flush {stage : Stage} (h : stage.terminal.IsReliable) :
    ∃ shown, flush.perform stage =
        (.ok (), ⟨{ stage.session with output := [] }, shown, stage.store⟩) ∧
      shown.IsReliable ∧ shown.supply = stage.terminal.supply := by
  rw [flush, perform_bind, perform_session]
  dsimp only
  split
  · obtain ⟨shown, hdisplay, hshown⟩ := h.display stage.session.takeOutput.1 none
    rw [perform_bind, perform_editSession]
    refine ⟨shown, ?_, hshown, Terminal.supply_display hdisplay⟩
    exact Stage.perform_display hdisplay
  next hsilent =>
    have houtput : stage.session.output = [] := by simpa [Session.hasOutput] using hsilent
    refine ⟨stage.terminal, ?_, h, rfl⟩
    rw [← houtput]
    rfl

theorem blind_flush : Blind flush := by
  intro left right h
  obtain ⟨leftShown, hleft, hleftShown, hleftSupply⟩ :=
    exists_perform_flush h.terminals.reliable
  obtain ⟨rightShown, hright, hrightShown, hrightSupply⟩ :=
    exists_perform_flush h.terminals.alsoReliable
  rw [hleft, hright]
  refine ⟨rfl, h.world, h.skipsSweep, h.isFinished, h.phase, hleftShown, hrightShown, ?_⟩
  rw [hleftSupply, hrightSupply, h.terminals.supply]

end Activity

namespace Stage

open Activity

variable {left right : Stage}

/-! ## Dialogs and effects -/

theorem Parallels.apply (h : left.Parallels right) (effect : Effect) :
    Parallels { left with session := left.session.apply effect }
      { right with session := right.session.apply effect } := by
  have hworld := congrArg (fun world => effect.changeWorld world) h.world
  cases effect with
  | say text => exact ⟨h.world, h.skipsSweep, h.isFinished, h.phase, h.terminals⟩
  | endGame text => exact ⟨h.world, h.skipsSweep, rfl, h.phase, h.terminals⟩
  | _ => exact ⟨hworld, h.skipsSweep, h.isFinished, h.phase, h.terminals⟩

/-- Choosing an option leaves the flags and the phase alone, and changes the world by itself. -/
theorem Parallels.choose (h : left.Parallels right) {leftAfter rightAfter : Terminal}
    (hafter : leftAfter.Alike rightAfter) (key : Key) (index : Nat) (option : DialogOption) :
    Parallels { left with session := left.session.choose key index option, terminal := leftAfter }
      { right with
        session := right.session.choose key index option
        terminal := rightAfter } := by
  obtain ⟨⟨world, output, skipsSweep, isFinished, phase, level⟩, terminal, store⟩ := left
  obtain ⟨rfl, rfl, rfl, rfl, -⟩ := h
  unfold Session.choose
  split
  · split
    · exact ⟨rfl, rfl, rfl, rfl, hafter⟩
    · exact ⟨rfl, rfl, rfl, rfl, hafter⟩
  · split
    · exact ⟨rfl, rfl, rfl, rfl, hafter⟩
    · exact ⟨rfl, rfl, rfl, rfl, hafter⟩

theorem agrees_offerOptions (h : left.Parallels right) (key : Key) (dialog : Dialog) :
    Agrees (left.offerOptions key dialog) (right.offerOptions key dialog) := by
  obtain ⟨choice, leftAfter, rightAfter, hleft, hright, hafter⟩ :=
    h.terminals.exists_ask dialog.menu dialog.options.length
  rw [offerOptions, offerOptions, hleft, hright]
  have hasked : Parallels { left with terminal := leftAfter }
      { right with terminal := rightAfter } :=
    ⟨h.world, h.skipsSweep, h.isFinished, h.phase, hafter⟩
  cases choice with
  | none => exact ⟨rfl, hasked⟩
  | some index =>
      dsimp only
      cases dialog.options[index]? with
      | none => exact ⟨rfl, hasked⟩
      | some option => exact ⟨rfl, h.choose hafter key index option⟩

theorem agrees_hold (h : left.Parallels right) (key : Key) :
    Agrees (left.hold key) (right.hold key) := by
  rw [hold, hold, h.world]
  cases right.session.world.registry.dialog? key with
  | none => exact ⟨rfl, h⟩
  | some dialog =>
      dsimp only
      split
      · exact ⟨rfl, h.world, h.skipsSweep, h.isFinished, h.phase, h.terminals⟩
      · obtain ⟨hresult, hshown⟩ := blind_flush h
        generalize flush.perform left = leftOutcome at hresult hshown ⊢
        generalize flush.perform right = rightOutcome at hresult hshown ⊢
        obtain ⟨leftResult, leftAfter⟩ := leftOutcome
        obtain ⟨rightResult, rightAfter⟩ := rightOutcome
        obtain rfl : leftResult = rightResult := hresult
        cases leftResult with
        | error fault => exact ⟨rfl, hshown⟩
        | ok value => exact agrees_offerOptions hshown key dialog

theorem agrees_applyAll (h : left.Parallels right) (effects : List Effect) :
    Agrees (left.applyAll effects) (right.applyAll effects) := by
  fun_induction applyAll effects left generalizing right with
  | case1 left =>
      rw [applyAll_nil]
      exact ⟨rfl, h⟩
  | case2 left dialog rest fault after hhold =>
      obtain ⟨hresult, hheld⟩ := agrees_hold h dialog
      rw [hhold] at hresult hheld
      rw [applyAll]
      split
      next other rightAfter hright =>
        rw [hright] at hresult hheld
        cases hresult
        exact ⟨rfl, hheld⟩
      next chosen rightAfter hright =>
        rw [hright] at hresult
        cases hresult
  | case3 left dialog rest chosen after hhold _ ih =>
      obtain ⟨hresult, hheld⟩ := agrees_hold h dialog
      rw [hhold] at hresult hheld
      have hright : right.hold dialog = (.ok chosen, (right.hold dialog).2) :=
        Prod.ext hresult.symm rfl
      rw [applyAll_dialog hright]
      exact ih hheld
  | case4 left effect rest hplain ih =>
      rw [applyAll_plain hplain rest right]
      exact ih (h.apply effect)

end Stage

namespace Activity

/-! ## Sweeps -/

theorem blind_applyAll (effects : List Effect) : Blind (applyAll effects) :=
  fun _ _ h => Stage.agrees_applyAll h effects

theorem blind_runEvent (operation : Option Operation) (report : Report) (key : Key) :
    Blind (runEvent operation report key) := by
  refine blind_session_bind fun left right h => ?_
  rw [h.world]
  split
  · exact blind_pure _ h
  · split
    · exact (blind_applyAll _).bind (fun _ => blind_pure _) h
    · exact blind_pure _ h

theorem blind_runEvents (operation : Option Operation) (report : Report) (keys : List Key) :
    Blind (runEvents operation report keys) := by
  induction keys generalizing report with
  | nil => exact blind_pure report
  | cons key rest ih => exact (blind_runEvent operation report key).bind ih

theorem blind_sweepAll (operation : Option Operation) : Blind (sweepAll operation) := by
  refine blind_session_bind fun left right h => ?_
  rw [h.world]
  exact blind_runEvents operation _ _ h

theorem blind_sweep (operation : Option Operation) : Blind (sweep operation) := by
  refine blind_session_bind fun left right h => ?_
  rw [h.phase]
  split
  · exact blind_pure _ h
  · refine Blind.bind ?_ (fun _ _ _ h => (blind_sweepAll operation h).endingIdle) h
    exact blind_editSession fun _ _ h => ⟨h.world, h.skipsSweep, h.isFinished, rfl, h.terminals⟩

end Activity

end TextAdventure
