import TextAdventure.Session
import TextAdventure.Store
import TextAdventure.Terminal

/-!
# Stages

A session is played on a stage, with a terminal and a store.  An activity on the stage
may fail and leaves the stage as far as it got.  An activity is forward when it never
gives back anything that has been read.
-/

namespace TextAdventure

structure Stage where
  session : Session
  terminal : Terminal
  store : Store

namespace Stage

/-- How much the terminal still has to read. -/
def unread (stage : Stage) : Nat :=
  stage.terminal.unread

end Stage

abbrev Activity : Type → Type := ExceptT Fault (StateM Stage)

namespace Activity

variable {α β : Type}

/-- An activity given by what it comes to on a stage. -/
def ofStep (step : Stage → Except Fault α × Stage) : Activity α :=
  ExceptT.mk step

/-- What an activity comes to on a stage. -/
def perform (activity : Activity α) (stage : Stage) : Except Fault α × Stage :=
  activity.run.run stage

def editSession (edit : Session → Session) : Activity Unit :=
  modify fun stage => { stage with session := edit stage.session }

def session : Activity Session := do
  return (← get).session

def say (text : String) : Activity Unit :=
  editSession (·.say text)

/-- Let the world reply, and accept the reply. -/
def answer (reply : World → Reply) : Activity Unit :=
  editSession fun session => session.accept (reply session.world)

def display (text : String) : Activity Unit :=
  ofStep fun stage =>
    match stage.terminal.display text none with
    | .error fault => (.error fault, stage)
    | .ok terminal => (.ok (), { stage with terminal := terminal })

def readLine : Activity (Option String) :=
  ofStep fun stage =>
    match stage.terminal.readLine with
    | .error fault => (.error fault, stage)
    | .ok (line, terminal) => (.ok line, { stage with terminal := terminal })

def editTerminal (edit : Terminal → Terminal) : Activity Unit :=
  modify fun stage => { stage with terminal := edit stage.terminal }

/-- Show what has been said, if anything has; afterwards nothing is left to show even if
the display fails. -/
def flush : Activity Unit := do
  let session ← session
  if session.hasOutput then
    editSession fun session => session.takeOutput.2
    display session.takeOutput.1

/-- End an activity in the idle phase, however it ends. -/
def endingIdle (activity : Activity α) : Activity α :=
  ofStep fun stage =>
    let (result, after) := activity.perform stage
    (result, { after with session := { after.session with phase := .idle } })

/-! ## Forward activities -/

def Forward (activity : Activity α) : Prop :=
  ∀ stage, (activity.perform stage).2.unread ≤ stage.unread

theorem forward_pure (value : α) : Forward (pure value : Activity α) :=
  fun _ => Nat.le_refl _

theorem forward_throw (fault : Fault) : Forward (throw fault : Activity α) :=
  fun _ => Nat.le_refl _

theorem perform_bind (activity : Activity α) (next : α → Activity β) (stage : Stage) :
    (activity >>= next).perform stage =
      match activity.perform stage with
      | (.error fault, after) => (.error fault, after)
      | (.ok value, after) => (next value).perform after := by
  have hbind : (activity >>= next).perform stage =
      ExceptT.bindCont next (activity.perform stage).1 (activity.perform stage).2 := rfl
  rw [hbind]
  generalize activity.perform stage = outcome
  obtain ⟨result, after⟩ := outcome
  cases result <;> rfl

@[simp]
theorem perform_pure (value : α) (stage : Stage) :
    (pure value : Activity α).perform stage = (.ok value, stage) := rfl

@[simp]
theorem perform_session (stage : Stage) :
    session.perform stage = (.ok stage.session, stage) := rfl

@[simp]
theorem perform_editSession (edit : Session → Session) (stage : Stage) :
    (editSession edit).perform stage =
      (.ok (), { stage with session := edit stage.session }) := rfl

@[simp]
theorem perform_editTerminal (edit : Terminal → Terminal) (stage : Stage) :
    (editTerminal edit).perform stage =
      (.ok (), { stage with terminal := edit stage.terminal }) := rfl

theorem forward_bind {activity : Activity α} {next : α → Activity β} (h : Forward activity)
    (hnext : ∀ value, Forward (next value)) : Forward (activity >>= next) := by
  intro stage
  rw [perform_bind]
  have hfirst := h stage
  split
  next fault after heq =>
    rw [heq] at hfirst
    exact hfirst
  next value after heq =>
    rw [heq] at hfirst
    exact Nat.le_trans (hnext value after) hfirst

theorem forward_get : Forward (get : Activity Stage) :=
  fun _ => Nat.le_refl _

theorem forward_session : Forward session :=
  forward_bind forward_get fun _ => forward_pure _

theorem forward_editSession (edit : Session → Session) : Forward (editSession edit) :=
  fun _ => Nat.le_refl _

theorem forward_say (text : String) : Forward (say text) :=
  forward_editSession _

theorem forward_answer (reply : World → Reply) : Forward (answer reply) :=
  forward_editSession _

theorem forward_display (text : String) : Forward (display text) := by
  intro stage
  simp only [perform, display, ofStep, ExceptT.mk, ExceptT.run, StateT.run]
  split
  · exact Nat.le_refl _
  next terminal h => exact Nat.le_of_eq (Terminal.unread_display h)

theorem forward_flush : Forward flush := by
  refine forward_bind forward_session fun session => ?_
  split
  · exact forward_bind (forward_editSession _) fun _ => forward_display _
  · exact forward_pure _

theorem forward_endingIdle {activity : Activity α} (h : Forward activity) :
    Forward (endingIdle activity) :=
  fun stage => h stage

/-- A line that is read is no longer there to be read. -/
theorem unread_readLine {stage after : Stage} {line : String}
    (h : readLine.perform stage = (.ok (some line), after)) : after.unread < stage.unread := by
  simp only [perform, readLine, ofStep, ExceptT.mk, ExceptT.run, StateT.run] at h
  split at h
  · cases h
  next heard terminal hread =>
    cases h
    rcases Terminal.unread_readLine hread with hlt | ⟨hnone, _⟩
    · exact hlt
    · cases hnone

end Activity

end TextAdventure
