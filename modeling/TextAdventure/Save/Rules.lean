import TextAdventure.Rule
import TextAdventure.Save.Record

/-!
# Packed rules

Predicates and effects as packed variants.
-/

namespace TextAdventure

open Save

namespace Key

/-- A key is kept as it is, not normalized again. -/
def pack (key : Key) : Packed :=
  Packed.ofText key.text

def unpack? (packed : Packed) : Option Key :=
  packed.text?.map Key.mk

end Key

namespace Save.Packed

def ofCount (count : UInt32) : Packed :=
  ofNat count.toNat

def count? (packed : Packed) : Option UInt32 := do
  let n ← packed.integer?
  if 0 ≤ n ∧ n < UInt32.size then some (UInt32.ofNat n.toNat) else none

def turns? (packed : Packed) : Option UInt64 := do
  let n ← packed.integer?
  if 0 ≤ n then some (UInt64.ofNat n.toNat) else none

def status? (packed : Packed) : Option Int64 := do
  let n ← packed.integer?
  if n < 0x8000000000000000 then some (Int64.ofInt n) else none

end Save.Packed

namespace Predicate

def variants : List String :=
  ["Always", "StatusSet", "StatusAtLeast", "PlayerAt", "PlayerHolds", "ContainerHolds",
    "EntityExists", "CommandIs", "TurnsElapsed"]

def pack : Predicate → Packed
  | always => Packed.ofText "Always"
  | statusSet entity status =>
      Packed.ofVariant "StatusSet"
        (Packed.ofRecord [("entity", entity.pack), ("key", Packed.ofText status)])
  | statusAtLeast entity status value =>
      Packed.ofVariant "StatusAtLeast"
        (Packed.ofRecord
          [("entity", entity.pack), ("key", Packed.ofText status),
            ("value", Packed.ofInt64 value)])
  | playerAt location => Packed.ofVariant "PlayerAt" location.pack
  | playerHolds item quantity =>
      Packed.ofVariant "PlayerHolds"
        (Packed.ofRecord [("item", item.pack), ("quantity", Packed.ofCount quantity)])
  | containerHolds holder item quantity =>
      Packed.ofVariant "ContainerHolds"
        (Packed.ofRecord
          [("holder", holder.pack), ("item", item.pack), ("quantity", Packed.ofCount quantity)])
  | entityExists entity => Packed.ofVariant "EntityExists" entity.pack
  | commandIs command => Packed.ofVariant "CommandIs" command.pack
  | turnsElapsed turns => Packed.ofVariant "TurnsElapsed" (.unsigned turns)

def unpackStatusSet? (depth : Nat) (packed : Packed) : Option Predicate := do
  match ← packed.fields? depth ["entity", "key"] with
  | [entity, status] =>
      return statusSet (← Packed.required Key.unpack? entity)
        (← Packed.required Packed.text? status)
  | _ => none

def unpackStatusAtLeast? (depth : Nat) (packed : Packed) : Option Predicate := do
  match ← packed.fields? depth ["entity", "key", "value"] with
  | [entity, status, value] =>
      return statusAtLeast (← Packed.required Key.unpack? entity)
        (← Packed.required Packed.text? status) (← Packed.required Packed.status? value)
  | _ => none

def unpackPlayerHolds? (depth : Nat) (packed : Packed) : Option Predicate := do
  match ← packed.fields? depth ["item", "quantity"] with
  | [item, quantity] =>
      return playerHolds (← Packed.required Key.unpack? item)
        (← Packed.required Packed.count? quantity)
  | _ => none

def unpackContainerHolds? (depth : Nat) (packed : Packed) : Option Predicate := do
  match ← packed.fields? depth ["holder", "item", "quantity"] with
  | [holder, item, quantity] =>
      return containerHolds (← Packed.required Key.unpack? holder)
        (← Packed.required Key.unpack? item) (← Packed.required Packed.count? quantity)
  | _ => none

def unpack? (depth : Nat) (packed : Packed) : Option Predicate := do
  match ← packed.variant? variants with
  | ("Always", content) => if Packed.isBare content then some always else none
  | ("StatusSet", some content) => unpackStatusSet? depth content
  | ("StatusAtLeast", some content) => unpackStatusAtLeast? depth content
  | ("PlayerAt", some content) => (Key.unpack? content).map playerAt
  | ("PlayerHolds", some content) => unpackPlayerHolds? depth content
  | ("ContainerHolds", some content) => unpackContainerHolds? depth content
  | ("EntityExists", some content) => (Key.unpack? content).map entityExists
  | ("CommandIs", some content) => (Key.unpack? content).map commandIs
  | ("TurnsElapsed", some content) => content.turns?.map turnsElapsed
  | _ => none

end Predicate

namespace Effect

def variants : List String :=
  ["Say", "SetStatus", "AdjustStatus", "ClearStatus", "MovePawn", "GiveItem", "TakeItem",
    "RemoveEntity", "EnableCommand", "DisableCommand", "InitiateDialog", "EndGame"]

def packTransfer (name : String) (holder item : Key) (quantity : UInt32) : Packed :=
  Packed.ofVariant name
    (Packed.ofRecord
      [("holder", holder.pack), ("item", item.pack), ("quantity", Packed.ofCount quantity)])

def pack : Effect → Packed
  | say text => Packed.ofVariant "Say" (Packed.ofText text)
  | setStatus entity status value =>
      Packed.ofVariant "SetStatus"
        (Packed.ofRecord
          [("entity", entity.pack), ("key", Packed.ofText status),
            ("value", Packed.ofInt64 value)])
  | adjustStatus entity status delta =>
      Packed.ofVariant "AdjustStatus"
        (Packed.ofRecord
          [("entity", entity.pack), ("key", Packed.ofText status),
            ("delta", Packed.ofInt64 delta)])
  | clearStatus entity status =>
      Packed.ofVariant "ClearStatus"
        (Packed.ofRecord [("entity", entity.pack), ("key", Packed.ofText status)])
  | movePawn pawn location =>
      Packed.ofVariant "MovePawn" (Packed.ofRecord [("pawn", pawn.pack), ("to", location.pack)])
  | giveItem holder item quantity => packTransfer "GiveItem" holder item quantity
  | takeItem holder item quantity => packTransfer "TakeItem" holder item quantity
  | removeEntity entity => Packed.ofVariant "RemoveEntity" entity.pack
  | enableCommand command => Packed.ofVariant "EnableCommand" command.pack
  | disableCommand command => Packed.ofVariant "DisableCommand" command.pack
  | initiateDialog dialog => Packed.ofVariant "InitiateDialog" dialog.pack
  | endGame text => Packed.ofVariant "EndGame" (Packed.ofText text)

/-- Unpack the change of a status; its amount has a name of its own. -/
def unpackStatusChange? (amountName : String) (make : Key → String → Int64 → Effect)
    (depth : Nat) (packed : Packed) : Option Effect := do
  match ← packed.fields? depth ["entity", "key", amountName] with
  | [entity, status, amount] =>
      return make (← Packed.required Key.unpack? entity)
        (← Packed.required Packed.text? status) (← Packed.required Packed.status? amount)
  | _ => none

def unpackClearStatus? (depth : Nat) (packed : Packed) : Option Effect := do
  match ← packed.fields? depth ["entity", "key"] with
  | [entity, status] =>
      return clearStatus (← Packed.required Key.unpack? entity)
        (← Packed.required Packed.text? status)
  | _ => none

def unpackMovePawn? (depth : Nat) (packed : Packed) : Option Effect := do
  match ← packed.fields? depth ["pawn", "to"] with
  | [pawn, location] =>
      return movePawn (← Packed.required Key.unpack? pawn) (← Packed.required Key.unpack? location)
  | _ => none

def unpackTransfer? (make : Key → Key → UInt32 → Effect) (depth : Nat) (packed : Packed) :
    Option Effect := do
  match ← packed.fields? depth ["holder", "item", "quantity"] with
  | [holder, item, quantity] =>
      return make (← Packed.required Key.unpack? holder) (← Packed.required Key.unpack? item)
        (← Packed.required Packed.count? quantity)
  | _ => none

def unpack? (depth : Nat) (packed : Packed) : Option Effect := do
  match ← packed.variant? variants with
  | ("Say", some content) => content.text?.map say
  | ("SetStatus", some content) => unpackStatusChange? "value" setStatus depth content
  | ("AdjustStatus", some content) => unpackStatusChange? "delta" adjustStatus depth content
  | ("ClearStatus", some content) => unpackClearStatus? depth content
  | ("MovePawn", some content) => unpackMovePawn? depth content
  | ("GiveItem", some content) => unpackTransfer? giveItem depth content
  | ("TakeItem", some content) => unpackTransfer? takeItem depth content
  | ("RemoveEntity", some content) => (Key.unpack? content).map removeEntity
  | ("EnableCommand", some content) => (Key.unpack? content).map enableCommand
  | ("DisableCommand", some content) => (Key.unpack? content).map disableCommand
  | ("InitiateDialog", some content) => (Key.unpack? content).map initiateDialog
  | ("EndGame", some content) => content.text?.map endGame
  | _ => none

end Effect

end TextAdventure
