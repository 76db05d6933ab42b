import TextAdventure.Input.Operation
import TextAdventure.World

/-!
# Judging conditions

A predicate holds or fails in a world, given the operation under way.  A condition
that is not registered fails, even when it would be negated.
-/

namespace TextAdventure

/-- Whether a holder has the units asked for, and at least one. -/
def Registry.holdsAtLeast (registry : Registry) (holder item : Key) (quantity : UInt32) : Bool :=
  match registry.container? holder with
  | none => false
  | some container => max quantity 1 ≤ container.quantityOf item

namespace Predicate

def holds (world : World) (operation : Option Operation) : Predicate → Bool
  | always => true
  | statusSet key status =>
      match world.registry.get? key with
      | none => false
      | some entity => entity.isSet status
  | statusAtLeast key status value =>
      match world.registry.get? key with
      | none => false
      | some entity => value ≤ entity.status status
  | playerAt location => world.playerLocation? == some location
  | playerHolds item quantity => world.registry.holdsAtLeast world.player item quantity
  | containerHolds holder item quantity => world.registry.holdsAtLeast holder item quantity
  | entityExists key => (world.registry.get? key).isSome
  | commandIs command =>
      match operation with
      | none => false
      | some operation => operation.command == command
  | turnsElapsed turns => turns ≤ world.turns

end Predicate

namespace World

/-- Whether the condition of this name is registered and holds. -/
def meets (world : World) (operation : Option Operation) (condition : Key) : Bool :=
  match world.registry.condition? condition with
  | none => false
  | some condition => condition.predicate.holds world operation != condition.negated

end World

end TextAdventure
