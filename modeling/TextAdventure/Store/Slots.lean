import TextAdventure.Attributes
import TextAdventure.Store.SaveName
import TextAdventure.World

/-!
# Slots

Saved games kept as worlds, one for each name.
-/

namespace TextAdventure

structure Slots where
  saves : Attributes World
  deriving DecidableEq

namespace Slots

def empty : Slots := ⟨Attributes.empty⟩

def size (slots : Slots) : Nat :=
  slots.saves.entries.length

def isEmpty (slots : Slots) : Bool :=
  slots.saves.entries.isEmpty

/-- The names in use, in order. -/
def names (slots : Slots) : List String :=
  slots.saves.entries.map Prod.fst

/-- Keep a world under a name, in place of the one kept before. -/
def save (slots : Slots) (name : String) (world : World) : Except Fault Slots := do
  return ⟨slots.saves.insert (← Store.saveName name) world⟩

def load (slots : Slots) (name : String) : Except Fault World := do
  match slots.saves.get? (← Store.saveName name) with
  | none => throw (Store.missing name)
  | some world => return world

end Slots

end TextAdventure
