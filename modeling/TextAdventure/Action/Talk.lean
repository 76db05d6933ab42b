import TextAdventure.Action.Reply

/-!
# Talking

To whom the player talks: a visible pawn in the same location, which opens its
dialog or has nothing to say.
-/

namespace TextAdventure

/-- What talking comes to: something said, or a dialog to hold. -/
inductive Address where
  | speech (text : String)
  | dialog (key : Key)
  deriving DecidableEq, Repr

namespace World

/-- The pawn of a key, when it shows, is not the player, and shares its location. -/
def companion? (world : World) (key : Key) : Option (Entity × Pawn) :=
  match world.registry.get? key with
  | none => none
  | some entity =>
      match entity.kind.pawn? with
      | none => none
      | some pawn =>
          if !entity.isHidden && key != world.player &&
              world.playerLocation? == some pawn.location then
            some (entity, pawn)
          else none

def address (world : World) (operation : Operation) : Address :=
  let useIndirect := operation.directPhrase.isEmpty
  let phrase := if useIndirect then operation.indirectPhrase else operation.directPhrase
  let target := if useIndirect then operation.indirect else operation.direct
  if phrase.isEmpty then .speech "Talk to whom?"
  else
    match target.bind world.companion? with
    | none => .speech ("There is no one here called " ++ phrase.text ++ ".")
    | some (entity, pawn) =>
        match pawn.dialog with
        | none => .speech (entity.name ++ " has nothing to say.")
        | some dialog => .dialog dialog

end World

end TextAdventure
