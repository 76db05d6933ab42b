import TextAdventure.Input.NounPhrase
import TextAdventure.Registry

/-!
# Scope

What an actor can refer to: first what it carries, then what is visible in its
location, then anything registered.
-/

namespace TextAdventure

inductive Tier where
  | inventory
  | location
  | everywhere
  deriving DecidableEq, Repr

structure Scope where
  inventory : List Key
  location : List Key
  deriving DecidableEq, Repr

namespace Scope

def empty : Scope := ⟨[], []⟩

def stacksOf (registry : Registry) (holder : Key) : List Stack :=
  match registry.container? holder with
  | none => []
  | some container => container.contents

/-- The items lying in a location that are not hidden; an unregistered one is visible. -/
def itemsIn (registry : Registry) (location : Key) : List Key :=
  ((stacksOf registry location).filter fun stack => !registry.isHidden stack.item).map Stack.item

/-- The other pawns in a location that are not hidden. -/
def companions (registry : Registry) (actor location : Key) : List Entity :=
  (registry.pawnsAt location).filter fun pawn => pawn.key ≠ actor && !pawn.isHidden

def visibleExits (registry : Registry) (location : Key) : List (Entity × Exit) :=
  (registry.exitsFrom location).filter fun pair => !pair.1.isHidden

def nearby (registry : Registry) (actor location : Key) : List Key :=
  itemsIn registry location ++
    (companions registry actor location).map Entity.key ++
    (visibleExits registry location).map fun pair => pair.1.key

def ofActor (registry : Registry) (actor : Key) : Scope where
  inventory := (stacksOf registry actor).map Stack.item
  location :=
    match registry.pawn? actor with
    | none => []
    | some pawn => nearby registry actor pawn.location

def contains (scope : Scope) (key : Key) : Bool :=
  key ∈ scope.inventory || key ∈ scope.location

/-- The registered thing named by the whole phrase, or else without its article. -/
def resolveAnywhere (registry : Registry) (phrase : NounPhrase) : Option Key :=
  match registry.named? phrase.text with
  | some entity => some entity.key
  | none => (registry.named? phrase.bare).map Entity.key

/-- The nearest thing that a phrase names. -/
def resolve (scope : Scope) (registry : Registry) (phrase : NounPhrase) : Option (Key × Tier) :=
  if phrase.isEmpty then none
  else
    match scope.inventory.find? phrase.names with
    | some key => some (key, .inventory)
    | none =>
        match scope.location.find? phrase.names with
        | some key => some (key, .location)
        | none => (resolveAnywhere registry phrase).map fun key => (key, .everywhere)

end Scope

end TextAdventure
