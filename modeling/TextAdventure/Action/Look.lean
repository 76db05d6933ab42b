import TextAdventure.Action.Reply
import TextAdventure.Input.Scope

/-!
# Looking

Describe the player's location, or one thing in reach.  Only what is not hidden is
mentioned, in the order in which it is stored.
-/

namespace TextAdventure

/-- The stacks that show, each by name and count. -/
def Registry.visibleContents (registry : Registry) (container : Container) : List String :=
  (container.contents.filter fun stack => !registry.isHidden stack.item).map fun stack =>
    countedName (registry.displayName stack.item) stack.quantity

/-- What to call an exit: its direction, or else its name. -/
def exitLabel (entity : Entity) (exit : Exit) : String :=
  match exit.direction with
  | none => entity.name
  | some direction => direction.text

namespace World

def contentsParagraph (world : World) (location : Entity) : List String :=
  match location.container with
  | none => []
  | some container =>
      let names := world.registry.visibleContents container
      if names.isEmpty then [] else ["You see: " ++ Text.enumerate names ++ "."]

def exitsParagraph (world : World) (here : Key) : List String :=
  let exits := (Scope.visibleExits world.registry here).map fun pair => exitLabel pair.1 pair.2
  if exits.isEmpty then [] else ["Exits: " ++ Text.enumerate exits ++ "."]

/-- All that is said about a location: its name, its description, the things, the
pawns and the exits that show. -/
def paragraphsAt (world : World) (here : Key) (location : Entity) : List String :=
  [location.name] ++ location.description?.toList ++ world.contentsParagraph location ++
    ((Scope.companions world.registry world.player here).map fun pawn => pawn.name ++ " is here.") ++
    world.exitsParagraph here

/-- Describe where the player is, and count the visit. -/
def describeLocation (world : World) : Reply :=
  match world.playerLocation? with
  | none => Reply.saying world "You are nowhere at all."
  | some here =>
      match world.registry.location? (Key.ofName here.text) with
      | none => Reply.saying world "You are nowhere at all."
      | some location =>
          { world :=
              { world with
                registry := world.registry.adjustStatus here Entity.visitedStatus 1 }
            said := world.paragraphsAt here location }

/-- Whether the player can look at a thing: it shows, and is in reach or is the player
or its location. -/
def canSee (world : World) (key : Key) : Bool :=
  match world.registry.get? key with
  | none => false
  | some entity =>
      !entity.isHidden &&
        ((Scope.ofActor world.registry world.player).contains key || key == world.player ||
          world.playerLocation? == some key)

/-- What is seen of an entity: its description, and what an open item contains. -/
def appearance (world : World) (entity : Entity) : String :=
  let description :=
    entity.description?.getD ("You see nothing special about the " ++ entity.name ++ ".")
  match entity.kind, entity.container with
  | .item _, some container =>
      let names := world.registry.visibleContents container
      if names.isEmpty then description
      else description ++ " The " ++ entity.name ++ " contains: " ++ Text.enumerate names ++ "."
  | _, _ => description

def examine (world : World) (operation : Operation) : Reply :=
  if !operation.hasObject then Reply.saying world "Examine what?"
  else
    let unseen :=
      Reply.saying world ("You see no " ++ operation.typedOr "such thing" ++ " here.")
    match operation.direct with
    | none => unseen
    | some key =>
        if !world.canSee key then unseen
        else
          match world.registry.get? key with
          | none => ⟨world, []⟩
          | some entity => Reply.saying world (world.appearance entity)

end World

end TextAdventure
