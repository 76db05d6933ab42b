import TextAdventure.Action.Reply
import TextAdventure.Input.Scope
import TextAdventure.Registry.Load

/-!
# Carrying

Getting, dropping and putting move units of one item between two containers.  What
to do is decided first, as a handling: either a refusal or a transfer.
-/

namespace TextAdventure

/-- Move units between two containers, or refuse when one is missing or holds too few. -/
def Registry.transfer? (registry : Registry) (source target item : Key) (quantity : UInt32) :
    Option Registry :=
  match registry.container? target with
  | none => none
  | some _ =>
      match registry.container? source with
      | none => none
      | some container =>
          match container.remove? item quantity with
          | none => none
          | some lighter =>
              some
                ((registry.mapContainer source fun _ => lighter).mapContainer target fun other =>
                  other.add item quantity)

/-- A typed number as a count of units, the largest count if it does not fit. -/
def clampCount (quantity : Int) : UInt32 :=
  if 0 ≤ quantity ∧ quantity < UInt32.size then UInt32.ofNat quantity.toNat
  else UInt32.ofNat (UInt32.size - 1)

/-- The units moved, in a sentence; a single one with its article. -/
def movedUnits (quantity : UInt32) (name : String) : String :=
  if quantity = 1 then "the " ++ name else toString quantity.toNat ++ " " ++ name

/-- What a carrying command comes to. -/
inductive Handling where
  | refusal (text : String)
  | transfer (registry : Registry) (text : String)
  | nothing
  deriving DecidableEq

namespace Handling

def carryOut (world : World) : Handling → Reply
  | refusal text => Reply.saying world text
  | transfer registry text => Reply.saying { world with registry := registry } text
  | nothing => ⟨world, []⟩

/-- Take an item that lies here, if the load stays within the limit. -/
def ofTaking (arithmetic : Arithmetic) (world : World) (here item : Key) (quantity : UInt32) :
    Handling :=
  let name := world.registry.displayName item
  match world.playerPawn? with
  | none => refusal ("You can't take the " ++ name ++ ".")
  | some pawn =>
      match world.registry.transfer? here world.player item quantity with
      | none => refusal ("You can't take the " ++ name ++ ".")
      | some after =>
          let load := after.carriedWeight arithmetic world.player
          if arithmetic.exceeds load (arithmetic.ofWeight pawn.maxWeight) then
            refusal ("The " ++ name ++ " is too heavy.")
          else transfer after ("You take " ++ movedUnits quantity name ++ ".")

/-- The count a get asks for; nothing or less counts as one. -/
def wanted (quantity : Int) : UInt32 :=
  if quantity ≤ 0 then 1 else clampCount quantity

def ofGet (arithmetic : Arithmetic) (world : World) (operation : Operation) : Handling :=
  if !operation.hasObject then refusal "Get what?"
  else
    let absent := refusal ("There is no " ++ operation.typedOr "such thing" ++ " here.")
    match world.playerLocation?, operation.direct with
    | some here, some item =>
        let available := world.registry.held here item
        let isVisible :=
          match world.registry.get? item with
          | none => false
          | some entity => !entity.isHidden
        if available = 0 ∨ isVisible = false then
          if 0 < world.registry.held world.player item then
            refusal ("You already have the " ++ world.registry.displayName item ++ ".")
          else absent
        else if available < wanted operation.quantity then
          refusal ("There aren't that many " ++ world.registry.displayName item ++ " here.")
        else ofTaking arithmetic world here item (wanted operation.quantity)
    | _, _ => absent

/-- The item a command speaks of, when the player holds at least one. -/
def heldItem? (world : World) (operation : Operation) : Option Key :=
  operation.direct.filter fun item => 0 < world.registry.held world.player item

def notHeld (operation : Operation) : Handling :=
  refusal ("You don't have any " ++ operation.typedOr "such thing" ++ ".")

def tooFew (count : UInt32) (name : String) : Handling :=
  refusal ("You only have " ++ toString count.toNat ++ " " ++ name ++ ".")

def ofDrop (world : World) (operation : Operation) : Handling :=
  if !operation.hasObject then refusal "Drop what?"
  else if operation.quantity ≤ 0 then
    refusal ("You can't drop " ++ toString operation.quantity ++ " of something.")
  else
    match heldItem? world operation with
    | none => notHeld operation
    | some item =>
        let name := world.registry.displayName item
        let quantity := clampCount operation.quantity
        if world.registry.held world.player item < quantity then
          tooFew (world.registry.held world.player item) name
        else
          let dropped := world.playerLocation?.bind fun here =>
            world.registry.transfer? world.player here item quantity
          match dropped with
          | none => refusal "You can't drop that here."
          | some after => transfer after ("You drop " ++ movedUnits quantity name ++ ".")

/-- Put units that the player holds into a thing that may be a container. -/
def ofPutting (world : World) (operation : Operation) (item : Key) (quantity : UInt32) :
    Handling :=
  let inReach := operation.indirect.filter (Scope.ofActor world.registry world.player).contains
  match inReach with
  | none => refusal ("There is no " ++ operation.indirectPhrase.text ++ " here.")
  | some target =>
      let name := world.registry.displayName target
      let isOpenItem :=
        match world.registry.get? target with
        | none => false
        | some entity => entity.kind.item?.isSome && entity.container.isSome
      if target = item ∨ isOpenItem = false then
        refusal ("You can't put things in the " ++ name ++ ".")
      else
        match world.registry.transfer? world.player target item quantity with
        | none => nothing
        | some after =>
            transfer after
              ("You put " ++ movedUnits quantity (world.registry.displayName item) ++ " " ++
                operation.preposition.getD "in" ++ " the " ++ name ++ ".")

def ofPut (world : World) (operation : Operation) : Handling :=
  if !operation.hasObject then refusal "Put what?"
  else if operation.indirectPhrase.isEmpty then refusal "Put it where?"
  else if operation.quantity ≤ 0 then
    refusal ("You can't put " ++ toString operation.quantity ++ " of something anywhere.")
  else
    match heldItem? world operation with
    | none => notHeld operation
    | some item =>
        let quantity := clampCount operation.quantity
        if world.registry.held world.player item < quantity then
          tooFew (world.registry.held world.player item) (world.registry.displayName item)
        else ofPutting world operation item quantity

end Handling

namespace World

def get (arithmetic : Arithmetic) (world : World) (operation : Operation) : Reply :=
  (Handling.ofGet arithmetic world operation).carryOut world

def drop (world : World) (operation : Operation) : Reply :=
  (Handling.ofDrop world operation).carryOut world

def put (world : World) (operation : Operation) : Reply :=
  (Handling.ofPut world operation).carryOut world

/-- The sentence about the weight carried and the most the player can carry. -/
def weightParagraph (world : World) : String :=
  let load := Weight.ofFloat (world.registry.carriedWeight Arithmetic.binary64 world.player)
  let limit := (world.playerPawn?.map Pawn.maxWeight).getD Weight.zero
  "Total weight " ++ load.toText ++ " of " ++ limit.toText ++ "."

/-- List all that the player carries, hidden things included. -/
def takeStock (world : World) : Reply :=
  let carried :=
    match world.playerPawn? with
    | none => []
    | some _ => Scope.stacksOf world.registry world.player
  if carried.isEmpty then Reply.saying world "You are empty-handed."
  else
    let names := carried.map fun stack =>
      countedName (world.registry.displayName stack.item) stack.quantity
    ⟨world, ["You are carrying: " ++ Text.enumerate names ++ ".", world.weightParagraph]⟩

end World

end TextAdventure
