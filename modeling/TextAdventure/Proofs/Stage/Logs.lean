import TextAdventure.Proofs.Stage.Sweeps
import TextAdventure.Proofs.Terminal.Lines

/-!
# Logs of dialogs

The effects of a dialog's option may hold any dialogs, and those again any others, in cycles too.
What comes to happen is given by rules, one for each thing that a dialog or an effect can do, and
kept in a log: the dialogs in the order in which they are entered, each with the lines it hears
and with the dialogs that the effects of its option enter.  On a script the rules lead to an end
from everywhere, because a dialog whose effects are applied has heard a line.
-/

namespace TextAdventure

/-- What is read and which dialogs are entered, in order. -/
inductive Log where
  | done
  | line (text : String) (later : Log)
  | dialog (key : Key) (heard : List String) (inside later : Log)

namespace Log

/-- All lines that have been read, in order. -/
def lines : Log → List String
  | done => []
  | line text later => text :: lines later
  | dialog _ heard inside later => heard ++ lines inside ++ lines later

def append (first second : Log) : Log :=
  match first with
  | done => second
  | line text later => line text (append later second)
  | dialog key heard inside later => dialog key heard inside (append later second)

/-- A dialog from which others are entered has heard a line before. -/
def IsPaid : Log → Prop
  | done => True
  | line _ later => IsPaid later
  | dialog _ heard inside later => (inside ≠ done → heard ≠ []) ∧ IsPaid inside ∧ IsPaid later

theorem lines_append (first second : Log) :
    (first.append second).lines = first.lines ++ second.lines := by
  induction first with
  | done => rfl
  | line text later ih => rw [append, lines, lines, ih, List.cons_append]
  | dialog key heard inside later _ ih => rw [append, lines, lines, ih, ← List.append_assoc]

theorem IsPaid.append {first second : Log} (h : first.IsPaid) (hsecond : second.IsPaid) :
    (first.append second).IsPaid := by
  induction first with
  | done => exact hsecond
  | line text later ih => exact ih h
  | dialog key heard inside later _ ih => exact ⟨h.1, h.2.1, ih h.2.2⟩

end Log

namespace Stage

/-- A log tells of the lines that are gone at a later stage: they were the first ones to be read,
in this order and each once, and dialogs within dialogs were paid for with them. -/
def Tells (lines : List String) (log : Log) (after : Stage) : Prop :=
  ∃ rest, lines = log.lines ++ rest ∧ after.terminal.ReadsFrom rest ∧ log.IsPaid

/-- Two logs one after the other tell of what each of them tells of. -/
theorem Tells.append {rest : List String} {first second : Log} {after : Stage}
    (h : Tells rest second after) (hpaid : first.IsPaid) :
    Tells (first.lines ++ rest) (first.append second) after := by
  obtain ⟨left, rfl, hleft, hpaidLater⟩ := h
  refine ⟨left, ?_, hleft, hpaid.append hpaidLater⟩
  rw [Log.lines_append, List.append_assoc]

/-! ## Holding a dialog -/

/-- What holding a dialog comes to: the lines it hears, the effects that are chosen, and the stage
on which they are to be applied. -/
inductive Holds (key : Key) (stage : Stage) : List String → List Effect → Stage → Prop where
  | missing (hdialog : stage.session.world.registry.dialog? key = none) :
      Holds key stage [] [] stage
  | silent {dialog : Dialog} (hdialog : stage.session.world.registry.dialog? key = some dialog)
      (hoptions : dialog.options = []) :
      Holds key stage [] []
        { stage with session := stage.session.say "There is nothing more to say." }
  | ended {dialog : Dialog} {shown : Stage} {heard : List String} {after : Terminal}
      (hdialog : stage.session.world.registry.dialog? key = some dialog)
      (hoptions : dialog.options ≠ [])
      (hflush : Activity.flush.perform stage = (.ok (), shown))
      (hasks : Terminal.Asks dialog.menu dialog.options.length shown.terminal heard none after) :
      Holds key stage heard [] { shown with terminal := after }
  | chosen {dialog : Dialog} {shown : Stage} {heard : List String} {after : Terminal}
      {index : Nat} {option : DialogOption}
      (hdialog : stage.session.world.registry.dialog? key = some dialog)
      (hflush : Activity.flush.perform stage = (.ok (), shown))
      (hasks : Terminal.Asks dialog.menu dialog.options.length shown.terminal heard (some index)
        after)
      (hoption : dialog.options[index]? = some option) :
      Holds key stage heard option.effects
        { shown with session := shown.session.choose key index option, terminal := after }

variable {stage : Stage} {lines : List String}

/-- Effects come only from a choice that has been heard. -/
theorem Holds.heard_ne_nil {key : Key} {heard : List String} {effects : List Effect}
    {after : Stage} (h : Holds key stage heard effects after) (heffects : effects ≠ []) :
    heard ≠ [] := by
  cases h with
  | missing hdialog => exact absurd rfl heffects
  | silent hdialog hoptions => exact absurd rfl heffects
  | ended hdialog hoptions hflush hasks => exact absurd rfl heffects
  | chosen hdialog hflush hasks hoption => exact hasks.heard_ne_nil

theorem perform_display {text : String} {shown : Terminal}
    (h : stage.terminal.display text none = .ok shown) :
    (Activity.display text).perform stage = (.ok (), { stage with terminal := shown }) := by
  simp only [Activity.perform, Activity.display, Activity.ofStep, ExceptT.mk, ExceptT.run,
    StateT.run, h]

/-- Showing what has been said reads nothing. -/
theorem exists_flush (h : stage.terminal.ReadsFrom lines) :
    ∃ shown, Activity.flush.perform stage = (.ok (), shown) ∧ shown.terminal.ReadsFrom lines := by
  rw [Activity.flush, Activity.perform_bind, Activity.perform_session]
  dsimp only
  split
  · rw [Activity.perform_bind, Activity.perform_editSession]
    obtain ⟨shown, hdisplay, hshown⟩ := h.display stage.session.takeOutput.1 none
    exact ⟨_, perform_display hdisplay, hshown⟩
  · exact ⟨stage, rfl, h⟩

/-- A dialog can be held on any script. -/
theorem exists_holds (h : stage.terminal.ReadsFrom lines) (key : Key) :
    ∃ heard rest effects after, stage.hold key = (.ok effects, after) ∧
      Holds key stage heard effects after ∧ lines = heard ++ rest ∧
      after.terminal.ReadsFrom rest := by
  unfold hold
  split
  next hdialog => exact ⟨[], lines, [], stage, rfl, .missing hdialog, rfl, h⟩
  next dialog hdialog =>
    split
    next hoptions =>
      exact ⟨[], lines, [], _, rfl, .silent hdialog (List.isEmpty_iff.mp hoptions), rfl, h⟩
    next hoptions =>
      obtain ⟨shown, hflush, hshown⟩ := exists_flush h
      obtain ⟨heard, rest, choice, after, hask, hasks, hlines, hafter⟩ :=
        Terminal.exists_asks hshown dialog.menu dialog.options.length
      rw [hflush]
      dsimp only
      rw [offerOptions, hask]
      cases choice with
      | none =>
          have hnonempty : dialog.options ≠ [] := fun hnil => hoptions (List.isEmpty_iff.mpr hnil)
          exact ⟨heard, rest, [], _, rfl, .ended hdialog hnonempty hflush hasks, hlines, hafter⟩
      | some index =>
          have hoption := List.getElem?_eq_getElem hasks.index_lt
          dsimp only
          rw [hoption]
          exact ⟨heard, rest, _, _, rfl, .chosen hdialog hflush hasks hoption, hlines, hafter⟩

/-! ## Applying effects -/

/-- What applying effects comes to: the effects of a dialog's option are applied before those that
follow the dialog. -/
inductive Applies : List Effect → Stage → Log → Stage → Prop where
  | nil {stage : Stage} : Applies [] stage .done stage
  | plain {effect : Effect} {rest : List Effect} {stage after : Stage} {log : Log}
      (hplain : ∀ key, effect ≠ .initiateDialog key)
      (hrest : Applies rest { stage with session := stage.session.apply effect } log after) :
      Applies (effect :: rest) stage log after
  | dialog {key : Key} {rest chosen : List Effect} {stage held left after : Stage}
      {heard : List String} {inside later : Log}
      (hholds : Holds key stage heard chosen held)
      (hinside : Applies chosen held inside left)
      (hlater : Applies rest left later after) :
      Applies (.initiateDialog key :: rest) stage (.dialog key heard inside later) after

/-- A dialog in front of effects: its chosen effects are applied, and then the rest. -/
theorem applyAll_dialog {key : Key} {rest chosen : List Effect} {held : Stage}
    (h : stage.hold key = (.ok chosen, held)) :
    stage.applyAll (.initiateDialog key :: rest) = held.applyAll (chosen ++ rest) := by
  rw [applyAll]
  split
  next fault after hother => cases h.symm.trans hother
  next effects after hother =>
    cases h.symm.trans hother
    rfl

theorem applyAll_plain {effect : Effect} (h : ∀ key, effect ≠ .initiateDialog key)
    (rest : List Effect) (stage : Stage) :
    stage.applyAll (effect :: rest) =
      { stage with session := stage.session.apply effect }.applyAll rest := by
  rw [applyAll]
  exact h

/-- Effects that can be applied on a script, with a log that tells of it. -/
def CanApply (effects : List Effect) (stage : Stage) (lines : List String) : Prop :=
  ∃ log after, stage.applyAll effects = (.ok (), after) ∧ Applies effects stage log after ∧
    Tells lines log after

theorem canApply_nil (h : stage.terminal.ReadsFrom lines) : CanApply [] stage lines :=
  ⟨.done, stage, applyAll_nil stage, .nil, lines, rfl, h, trivial⟩

/-- A dialog can be applied in front of effects when its chosen effects can be applied, and the
rest after them. -/
theorem canApply_dialog {key : Key} {rest chosen : List Effect} {held : Stage}
    {heard left : List String} (hhold : stage.hold key = (.ok chosen, held))
    (hholds : Holds key stage heard chosen held) (hinside : CanApply chosen held left)
    (hlater : ∀ {middle : Stage} {remaining : List String}, middle.terminal.ReadsFrom remaining →
      remaining.length ≤ left.length → CanApply rest middle remaining) :
    CanApply (.initiateDialog key :: rest) stage (heard ++ left) := by
  obtain ⟨inside, middle, hchosen, happlies, remaining, rfl, hread, hpaid⟩ := hinside
  have hshorter : remaining.length ≤ (inside.lines ++ remaining).length := by
    rw [List.length_append]
    exact Nat.le_add_left _ _
  obtain ⟨later, after, hrest, happliesRest, last, rfl, hlast, hpaidLater⟩ := hlater hread hshorter
  refine ⟨.dialog key heard inside later, after, ?_, .dialog hholds happlies happliesRest, last, ?_,
    hlast, fun hinside => hholds.heard_ne_nil fun hnil => ?_, hpaid, hpaidLater⟩
  · rw [applyAll_dialog hhold, applyAll_append, hchosen]
    exact hrest
  · simp only [Log.lines, List.append_assoc]
  · subst hnil
    cases happlies
    exact hinside rfl

/-- If all effects can be applied on fewer lines, then so they can on these: a dialog with effects
to apply has heard a line. -/
theorem canApply_of_fewer
    (hfewer : ∀ {stage : Stage} {fewer : List String}, stage.terminal.ReadsFrom fewer →
      fewer.length < lines.length → ∀ effects, CanApply effects stage fewer)
    (effects : List Effect) {stage : Stage} {left : List String}
    (h : stage.terminal.ReadsFrom left) (hleft : left.length ≤ lines.length) :
    CanApply effects stage left := by
  induction effects generalizing stage left with
  | nil => exact canApply_nil h
  | cons effect rest ih =>
      by_cases hdialog : ∃ key, effect = .initiateDialog key
      · obtain ⟨key, rfl⟩ := hdialog
        obtain ⟨heard, remaining, chosen, held, hhold, hholds, rfl, hheld⟩ := exists_holds h key
        rw [List.length_append] at hleft
        -- The rest of the list has no more lines to read; the chosen effects, of which there may
        -- be more than before, have fewer.
        refine canApply_dialog hhold hholds ?_ fun hread hless => ih hread (by omega)
        by_cases hchosen : chosen = []
        · rw [hchosen]
          exact canApply_nil hheld
        · have hheard := List.length_pos_iff.mpr (hholds.heard_ne_nil hchosen)
          exact hfewer hheld (by omega) chosen
      · have hplain : ∀ key, effect ≠ .initiateDialog key := fun key heq => hdialog ⟨key, heq⟩
        have hrest : CanApply rest { stage with session := stage.session.apply effect } left := by
          apply ih
          · exact h
          · exact hleft
        obtain ⟨log, after, hrest, happlies, htells⟩ := hrest
        exact ⟨log, after, (applyAll_plain hplain rest stage).trans hrest, .plain hplain happlies,
          htells⟩

/-- Effects can be applied on every script, whatever dialogs they enter: the lines run out before
the dialogs go on forever. -/
theorem canApply (h : stage.terminal.ReadsFrom lines) (effects : List Effect) :
    CanApply effects stage lines := by
  induction hlength : lines.length using Nat.strongRecOn generalizing stage lines effects with
  | _ count ih =>
      subst hlength
      exact canApply_of_fewer (fun hread hfewer effects => ih _ hfewer hread effects rfl) effects h
        (Nat.le_refl _)

end Stage

end TextAdventure
