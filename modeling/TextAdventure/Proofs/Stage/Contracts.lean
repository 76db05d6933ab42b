import TextAdventure.Stage

/-!
# Contracts of activities

An activity ends in one of two ways, and a contract says what holds of the stage after each.
An invariant is a contract that promises for both ends what it asks at the start.
-/

namespace TextAdventure.Activity

variable {α β : Type}

/-- What holds at the end of an activity: `after` when it gives a value, `failed` when it does
not. -/
def Ends (outcome : Except Fault α × Stage) (after : α → Stage → Prop)
    (failed : Stage → Prop) : Prop :=
  match outcome with
  | (.ok value, stage) => after value stage
  | (.error _, stage) => failed stage

/-- However an activity ends, it keeps a property of the stage. -/
def Keeps (P : Stage → Prop) (activity : Activity α) : Prop :=
  ∀ stage, P stage → Ends (activity.perform stage) (fun _ => P) P

variable {activity : Activity α} {stage : Stage} {after : α → Stage → Prop}
  {failed : Stage → Prop} {P : Stage → Prop}

/-! ## Rules -/

theorem Ends.weaken {outcome : Except Fault α × Stage} (h : Ends outcome after failed)
    {later : α → Stage → Prop} {failedLater : Stage → Prop}
    (hafter : ∀ value next, after value next → later value next)
    (hfailed : ∀ next, failed next → failedLater next) : Ends outcome later failedLater := by
  obtain ⟨result, next⟩ := outcome
  cases result with
  | error fault => exact hfailed next h
  | ok value => exact hafter value next h

theorem Ends.and {outcome : Except Fault α × Stage} {also : α → Stage → Prop}
    {alsoFailed : Stage → Prop} (h : Ends outcome after failed)
    (hother : Ends outcome also alsoFailed) :
    Ends outcome (fun value next => after value next ∧ also value next)
      fun next => failed next ∧ alsoFailed next := by
  obtain ⟨result, next⟩ := outcome
  cases result with
  | error fault => exact ⟨h, hother⟩
  | ok value => exact ⟨h, hother⟩

/-- What is known of the value and the stage at the end includes that they are the ones there. -/
theorem Ends.self {outcome : Except Fault α × Stage} (h : Ends outcome after failed) :
    Ends outcome (fun value next => outcome = (.ok value, next) ∧ after value next) failed := by
  obtain ⟨result, next⟩ := outcome
  cases result with
  | error fault => exact h
  | ok value => exact ⟨rfl, h⟩

/-- What holds however an activity ends holds at its end. -/
theorem Ends.atEnd {outcome : Except Fault α × Stage} (h : Ends outcome (fun _ => P) P) :
    P outcome.2 := by
  obtain ⟨result, next⟩ := outcome
  cases result with
  | error fault => exact h
  | ok value => exact h

theorem Ends.bind {next : α → Activity β} {later : β → Stage → Prop}
    (h : Ends (activity.perform stage) after failed)
    (hnext : ∀ value middle, after value middle →
      Ends ((next value).perform middle) later failed) :
    Ends ((activity >>= next).perform stage) later failed := by
  rw [perform_bind]
  generalize activity.perform stage = outcome at h
  obtain ⟨result, middle⟩ := outcome
  cases result with
  | error fault => exact h
  | ok value => exact hnext value middle h

theorem ends_session_bind {next : Session → Activity α}
    (h : Ends ((next stage.session).perform stage) after failed) :
    Ends ((session >>= next).perform stage) after failed := by
  rw [perform_bind]
  exact h

theorem ends_editSession_bind {edit : Session → Session} {next : Unit → Activity α}
    (h : Ends ((next ()).perform { stage with session := edit stage.session }) after failed) :
    Ends ((editSession edit >>= next).perform stage) after failed := by
  rw [perform_bind]
  exact h

theorem Keeps.bind {next : α → Activity β} (h : Keeps P activity)
    (hnext : ∀ value, Keeps P (next value)) : Keeps P (activity >>= next) := by
  intro stage hstage
  exact (h stage hstage).bind fun value middle hmiddle => hnext value middle hmiddle

theorem keeps_pure (value : α) : Keeps P (pure value : Activity α) :=
  fun _ h => h

/-- The stage on which the phase is idle and all else is as it was. -/
def idled (stage : Stage) : Stage :=
  { stage with session := { stage.session with phase := .idle } }

theorem perform_endingIdle (activity : Activity α) (stage : Stage) :
    (endingIdle activity).perform stage =
      ((activity.perform stage).1, idled (activity.perform stage).2) := rfl

theorem ends_endingIdle
    (h : Ends (activity.perform stage) (fun value next => after value (idled next))
      fun next => failed (idled next)) :
    Ends ((endingIdle activity).perform stage) after failed := by
  rw [perform_endingIdle]
  generalize activity.perform stage = outcome at h ⊢
  obtain ⟨result, next⟩ := outcome
  cases result with
  | error fault => exact h
  | ok value => exact h

/-! ## What is shown -/

/-- A property in which what has been said and what the terminal does have no part. -/
def IgnoresShow (P : Stage → Prop) : Prop :=
  ∀ (stage : Stage) (output : List String) (terminal : Terminal), P stage →
    P ⟨{ stage.session with output := output }, terminal, stage.store⟩

theorem keeps_say (hP : IgnoresShow P) (text : String) : Keeps P (say text) :=
  fun stage h => hP stage _ stage.terminal h

theorem keeps_editTerminal (hP : IgnoresShow P) (edit : Terminal → Terminal) :
    Keeps P (editTerminal edit) :=
  fun stage h => hP stage stage.session.output (edit stage.terminal) h

theorem keeps_display (hP : IgnoresShow P) (text : String) : Keeps P (display text) := by
  intro stage h
  simp only [perform, display, ofStep, ExceptT.mk, ExceptT.run, StateT.run]
  split
  · exact h
  next terminal _ => exact hP stage stage.session.output terminal h

theorem keeps_flush (hP : IgnoresShow P) : Keeps P flush := by
  intro stage h
  apply ends_session_bind
  split
  · exact ends_editSession_bind (keeps_display hP _ _ (hP stage [] stage.terminal h))
  · exact h

end TextAdventure.Activity
