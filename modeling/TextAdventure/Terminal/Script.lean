import TextAdventure.Fault
import TextAdventure.Text.Numeral

/-!
# Scripted terminals

A terminal that reads prepared lines and keeps what it shows.  Its patience may be
limited: once the allowed number of displays or reads is used up, every further one
fails and changes nothing.  Choices may be prepared as bare indices of options.
-/

namespace TextAdventure

/-- The index of the option whose number is typed, among so many options. -/
def parseChoice (line : String) (count : Nat) : Option Nat :=
  match Text.readUnsigned? (Text.trim line) with
  | none => none
  | some choice => if 1 ≤ choice ∧ choice ≤ count then some (choice - 1) else none

structure Script where
  inputs : List String
  choices : Option (List Nat)
  displaysLeft : Option Nat
  readsLeft : Option Nat
  shown : List String
  clears : Nat
  isAtEnd : Bool
  completions : List String
  deriving DecidableEq, Repr

namespace Script

def ofLines (lines : List String) : Script where
  inputs := lines
  choices := none
  displaysLeft := none
  readsLeft := none
  shown := []
  clears := 0
  isAtEnd := false
  completions := []

def push (script : Script) (line : String) : Script :=
  { script with inputs := script.inputs ++ [line], isAtEnd := false }

def isClosed (script : Script) : Bool :=
  match script.choices with
  | none => script.isAtEnd
  | some choices => choices.isEmpty

/-- One less of what is allowed, unless nothing is left; no limit stays none. -/
def spend (fault : Fault) : Option Nat → Except Fault (Option Nat)
  | none => .ok none
  | some 0 => .error fault
  | some (left + 1) => .ok (some left)

def displayRefused : Fault := Fault.ofCause (.device "display refused")

def inputRefused : Fault := Fault.ofCause (.device "input refused")

def withQuery (text : String) : Option String → String
  | none => text
  | some query => text ++ "\n" ++ query

def display (script : Script) (text : String) (query : Option String) : Except Fault Script :=
  match spend displayRefused script.displaysLeft with
  | .error fault => .error fault
  | .ok left =>
      .ok { script with displaysLeft := left, shown := script.shown ++ [withQuery text query] }

/-- Take the next prepared line; without one the script is at its end. -/
def nextLine (script : Script) : Option String × Script :=
  match script.inputs with
  | [] => (none, { script with isAtEnd := true })
  | line :: rest => (some line, { script with inputs := rest, isAtEnd := false })

def readLine (script : Script) : Except Fault (Option String × Script) :=
  match spend inputRefused script.readsLeft with
  | .error fault => .error fault
  | .ok left => .ok { script with readsLeft := left }.nextLine

def nextChoice (script : Script) (count : Nat) : Option Nat × Script :=
  match script.choices with
  | none =>
      let (line, after) := script.nextLine
      (line.bind fun line => parseChoice line count, after)
  | some [] => (none, script)
  | some (choice :: rest) => (some choice, { script with choices := some rest })

def readChoice (script : Script) (count : Nat) : Except Fault (Option Nat × Script) :=
  match spend inputRefused script.readsLeft with
  | .error fault => .error fault
  | .ok left => .ok ({ script with readsLeft := left }.nextChoice count)

/-- How many lines and choices are still to be read. -/
def unread (script : Script) : Nat :=
  script.inputs.length + (script.choices.getD []).length

def transcript (script : Script) : String :=
  Text.unlines script.shown

def lastShown (script : Script) : String :=
  script.shown.getLast?.getD ""

theorem unread_display {script after : Script} {text : String} {query : Option String}
    (h : script.display text query = .ok after) : after.unread = script.unread := by
  unfold display at h
  split at h
  · cases h
  · cases h
    rfl

theorem unread_nextLine (script : Script) :
    script.nextLine.2.unread < script.unread ∨
      script.nextLine.1 = none ∧ script.nextLine.2.unread = script.unread ∧
        script.nextLine.2.isAtEnd = true ∧ script.nextLine.2.choices = script.choices := by
  unfold nextLine
  split
  next h => exact Or.inr ⟨rfl, rfl, rfl, rfl⟩
  next line rest h =>
    refine Or.inl ?_
    simp only [unread, h, List.length_cons]
    omega

theorem unread_nextChoice (script : Script) (count : Nat) :
    (script.nextChoice count).2.unread < script.unread ∨
      (script.nextChoice count).1 = none ∧
        (script.nextChoice count).2.unread = script.unread ∧
          (script.nextChoice count).2.isClosed = true := by
  unfold nextChoice
  split
  next h =>
    rcases unread_nextLine script with hlt | ⟨hnone, heq, hend, hchoices⟩
    · exact Or.inl hlt
    · refine Or.inr ⟨by simp [hnone], heq, ?_⟩
      simp [isClosed, hchoices, h, hend]
  next h => exact Or.inr ⟨rfl, rfl, by simp [isClosed, h]⟩
  next choice rest h =>
    refine Or.inl ?_
    simp only [unread, h, Option.getD_some, List.length_cons]
    omega

theorem unread_readLine {script after : Script} {line : Option String}
    (h : script.readLine = .ok (line, after)) :
    after.unread < script.unread ∨ line = none ∧ after.unread = script.unread := by
  unfold readLine at h
  split at h
  · cases h
  next left _ =>
    simp only [Except.ok.injEq] at h
    have hnext := unread_nextLine { script with readsLeft := left }
    rw [h] at hnext
    rcases hnext with hlt | ⟨hnone, heq, _, _⟩
    · exact Or.inl hlt
    · exact Or.inr ⟨hnone, heq⟩

theorem unread_readChoice {script after : Script} {count : Nat} {choice : Option Nat}
    (h : script.readChoice count = .ok (choice, after)) :
    after.unread < script.unread ∨
      choice = none ∧ after.unread = script.unread ∧ after.isClosed = true := by
  unfold readChoice at h
  split at h
  · cases h
  next left _ =>
    simp only [Except.ok.injEq] at h
    have hnext := unread_nextChoice { script with readsLeft := left } count
    rw [h] at hnext
    exact hnext

end Script

end TextAdventure
