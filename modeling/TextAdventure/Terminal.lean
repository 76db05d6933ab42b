import TextAdventure.Terminal.LineStream

/-!
# Terminals

What a session reads from and shows on: a script or a line stream.  Every read that
gives something leaves less to be read, and a read that gives nothing either used up
a line or found the input closed.
-/

namespace TextAdventure

inductive Terminal where
  | scripted (script : Script)
  | stream (stream : LineStream)
  deriving DecidableEq, Repr

namespace Terminal

/-- Show a text, and keep a query for the next read. -/
def display (text : String) (query : Option String) : Terminal → Except Fault Terminal
  | scripted script =>
      match script.display text query with
      | .error fault => .error fault
      | .ok after => .ok (scripted after)
  | stream lines => .ok (Terminal.stream (lines.display text query))

def readLine : Terminal → Except Fault (Option String × Terminal)
  | scripted script =>
      match script.readLine with
      | .error fault => .error fault
      | .ok (line, after) => .ok (line, scripted after)
  | stream lines => .ok (lines.readLine.1, Terminal.stream lines.readLine.2)

/-- Read the choice of one among so many options, by its index. -/
def readChoice (count : Nat) : Terminal → Except Fault (Option Nat × Terminal)
  | scripted script =>
      match script.readChoice count with
      | .error fault => .error fault
      | .ok (choice, after) => .ok (choice, scripted after)
  | stream lines =>
      .ok (lines.readLine.1.bind fun line => parseChoice line count,
        Terminal.stream lines.readLine.2)

def clear : Terminal → Terminal
  | scripted script => scripted { script with clears := script.clears + 1 }
  | stream lines => Terminal.stream lines.clear

def isClosed : Terminal → Bool
  | scripted script => script.isClosed
  | stream lines => lines.isClosed

/-- Offer words for completion; a line stream has no use for them. -/
def offer (words : List String) : Terminal → Terminal
  | scripted script => scripted { script with completions := words }
  | stream lines => Terminal.stream lines

/-- How much is still to be read. -/
def unread : Terminal → Nat
  | scripted script => script.unread
  | stream lines => lines.unread

theorem unread_display {terminal after : Terminal} {text : String} {query : Option String}
    (h : terminal.display text query = .ok after) : after.unread = terminal.unread := by
  cases terminal with
  | scripted script =>
      simp only [display] at h
      split at h
      · cases h
      next shown hshown =>
        cases h
        exact Script.unread_display hshown
  | stream lines =>
      cases h
      exact LineStream.unread_display lines text query

theorem unread_readLine {terminal after : Terminal} {line : Option String}
    (h : terminal.readLine = .ok (line, after)) :
    after.unread < terminal.unread ∨ line = none ∧ after.unread = terminal.unread := by
  cases terminal with
  | scripted script =>
      simp only [readLine] at h
      split at h
      · cases h
      next heard rest hread =>
        cases h
        exact Script.unread_readLine hread
  | stream lines =>
      cases h
      rcases LineStream.unread_readLine lines with hlt | ⟨hnone, heq, _⟩
      · exact Or.inl hlt
      · exact Or.inr ⟨hnone, heq⟩

theorem unread_readChoice {terminal after : Terminal} {count : Nat} {choice : Option Nat}
    (h : terminal.readChoice count = .ok (choice, after)) :
    after.unread < terminal.unread ∨
      choice = none ∧ after.unread = terminal.unread ∧ after.isClosed = true := by
  cases terminal with
  | scripted script =>
      simp only [readChoice] at h
      split at h
      · cases h
      next heard rest hread =>
        cases h
        exact Script.unread_readChoice hread
  | stream lines =>
      cases h
      rcases LineStream.unread_readLine lines with hlt | ⟨hnone, heq, hclosed⟩
      · exact Or.inl hlt
      · exact Or.inr ⟨by simp [hnone], heq, hclosed⟩

@[simp]
theorem unread_clear (terminal : Terminal) : terminal.clear.unread = terminal.unread := by
  cases terminal <;> rfl

@[simp]
theorem unread_offer (terminal : Terminal) (words : List String) :
    (terminal.offer words).unread = terminal.unread := by
  cases terminal <;> rfl

end Terminal

end TextAdventure
