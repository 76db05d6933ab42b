/-!
# Line handoff

Lines pass from the reading side to the game through a slot for one line.  The
reading side sends when the slot is free; the game takes what is in the slot.
-/

namespace TextAdventure

structure Handoff where
  unread : List String
  slot : Option String
  deriving DecidableEq, Repr

namespace Handoff

def ofLines (lines : List String) : Handoff := ⟨lines, none⟩

/-- The reading side puts its next line into a free slot. -/
def send (handoff : Handoff) : Handoff :=
  match handoff.slot, handoff.unread with
  | none, line :: rest => ⟨rest, some line⟩
  | _, _ => handoff

/-- The game empties the slot. -/
def take (handoff : Handoff) : Option String × Handoff :=
  (handoff.slot, ⟨handoff.unread, none⟩)

/-- Wait for a line; there is none when the slot is free and the reading side is done. -/
def receive (handoff : Handoff) : Option String × Handoff :=
  handoff.send.take

/-- All lines that have not been taken, in order. -/
def pending (handoff : Handoff) : List String :=
  handoff.slot.toList ++ handoff.unread

@[simp]
theorem pending_ofLines (lines : List String) : (ofLines lines).pending = lines := rfl

@[simp]
theorem pending_send (handoff : Handoff) : handoff.send.pending = handoff.pending := by
  obtain ⟨unread, slot⟩ := handoff
  cases slot <;> cases unread <;> rfl

/-- Receiving takes the first pending line, whatever has been sent before. -/
theorem receive_eq (handoff : Handoff) :
    handoff.receive.1 = handoff.pending.head? ∧
      handoff.receive.2.pending = handoff.pending.tail := by
  obtain ⟨unread, slot⟩ := handoff
  cases slot <;> cases unread <;> simp [receive, send, take, pending]

end Handoff

end TextAdventure
