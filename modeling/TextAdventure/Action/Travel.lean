import TextAdventure.Action.Look

/-!
# Travel

The player leaves a location by its first visible exit that matches a direction or
a phrase.
-/

namespace TextAdventure.World

/-- Where the first visible exit with a property leads. -/
def exitWhere (world : World) (suits : Entity → Exit → Bool) : Option Key :=
  world.playerLocation?.bind fun here =>
    ((Scope.visibleExits world.registry here).find? fun pair => suits pair.1 pair.2).map
      fun pair => pair.2.destination

/-- Take the player to a registered location and describe it. -/
def travel (world : World) (destination : Option Key) : Reply :=
  let stay := Reply.saying world "You can't go that way."
  match destination with
  | none => stay
  | some destination =>
      match world.registry.location? (Key.ofName destination.text) with
      | none => stay
      | some _ =>
          { world with registry := world.registry.movePawn world.player destination }.describeLocation

/-- Move in the direction that is the command itself. -/
def moveAlong (world : World) (operation : Operation) : Reply :=
  world.travel (world.exitWhere fun _ exit => exit.direction == some operation.command)

/-- Whether a phrase names an exit or its direction. -/
def phraseSuits (phrase : NounPhrase) (entity : Entity) (exit : Exit) : Bool :=
  phrase.names entity.key ||
    match exit.direction with
    | none => false
    | some direction => phrase.names direction

/-- Go where the direct phrase says, or the indirect one when that is empty. -/
def go (world : World) (operation : Operation) : Reply :=
  let phrase :=
    if operation.directPhrase.isEmpty then operation.indirectPhrase else operation.directPhrase
  if phrase.isEmpty then Reply.saying world "Go where?"
  else world.travel (world.exitWhere (phraseSuits phrase))

end TextAdventure.World
