import TextAdventure.Entity
import TextAdventure.Save.Rules
import TextAdventure.Weight.Conversion

/-!
# Packed entities

Entities as packed records.  Nothing is normalized or checked beyond the shape, so that an
entity comes back as it was.
-/

namespace TextAdventure

open Save

namespace Weight

def pack (weight : Weight) : Packed :=
  .double weight.bits

/-- A weight may be written as any number. -/
def unpack? : Packed → Option Weight
  | .double bits => some ⟨bits⟩
  | .single bits => some (ofSingle bits)
  | .unsigned value => some (ofInt value.toNat)
  | .signed value => some (ofInt value.toInt)
  | _ => none

end Weight

namespace Stack

def pack (stack : Stack) : Packed :=
  Packed.ofRecord [("item", stack.item.pack), ("quantity", Packed.ofCount stack.quantity)]

def unpack? (depth : Nat) (packed : Packed) : Option Stack := do
  match ← packed.fields? depth ["item", "quantity"] with
  | [item, quantity] =>
      return ⟨← Packed.required Key.unpack? item, ← Packed.required Packed.count? quantity⟩
  | _ => none

end Stack

namespace Container

def pack (container : Container) : Packed :=
  Packed.ofRecord [("stacks", Packed.ofList Stack.pack container.contents)]

def unpack? (depth : Nat) (packed : Packed) : Option Container := do
  match ← packed.fields? depth ["stacks"] with
  | [contents] => return ⟨← Packed.required (Packed.list? (Stack.unpack? (depth + 2))) contents⟩
  | _ => none

end Container

namespace Attributes

variable {α : Type}

def pack (packValue : α → Packed) (table : Attributes α) : Packed :=
  .map (table.entries.map fun entry => (Packed.ofText entry.1, packValue entry.2))

def unpackPair? (unpackValue? : Packed → Option α) (entry : Packed × Packed) :
    Option (String × α) := do
  return (← entry.1.text?, ← unpackValue? entry.2)

/-- Of entries with the same text the last counts. -/
def unpack? (unpackValue? : Packed → Option α) : Packed → Option (Attributes α)
  | .map entries => do return ofList (← entries.mapM (unpackPair? unpackValue?))
  | _ => none

end Attributes

namespace Item

def pack (item : Item) : Packed :=
  Packed.ofRecord [("weight", item.weight.pack)]

def unpack? (depth : Nat) (packed : Packed) : Option Item := do
  match ← packed.fields? depth ["weight"] with
  | [weight] => return ⟨← Packed.required Weight.unpack? weight⟩
  | _ => none

end Item

namespace Pawn

def pack (pawn : Pawn) : Packed :=
  Packed.ofRecord
    [("location", pawn.location.pack), ("max_weight", pawn.maxWeight.pack),
      ("dialog", Packed.ofOption Key.pack pawn.dialog)]

def unpack? (depth : Nat) (packed : Packed) : Option Pawn := do
  match ← packed.fields? depth ["location", "max_weight", "dialog"] with
  | [location, maxWeight, dialog] =>
      return ⟨← Packed.required Key.unpack? location,
        ← Packed.required Weight.unpack? maxWeight, ← Packed.optional Key.unpack? dialog⟩
  | _ => none

end Pawn

namespace Exit

def pack (exit : Exit) : Packed :=
  Packed.ofRecord
    [("origin", exit.origin.pack), ("destination", exit.destination.pack),
      ("direction", Packed.ofOption Key.pack exit.direction)]

def unpack? (depth : Nat) (packed : Packed) : Option Exit := do
  match ← packed.fields? depth ["origin", "destination", "direction"] with
  | [origin, destination, direction] =>
      return ⟨← Packed.required Key.unpack? origin, ← Packed.required Key.unpack? destination,
        ← Packed.optional Key.unpack? direction⟩
  | _ => none

end Exit

namespace Behavior

def variants : List String :=
  ["Look", "Examine", "Move", "Go", "Get", "Drop", "Put", "Inventory", "Talk", "Wait", "Help",
    "Save", "Load", "Restart", "Quit", "Custom"]

/-- The name of a behavior's variant. -/
def variantName : Behavior → String
  | look => "Look"
  | examine => "Examine"
  | move => "Move"
  | go => "Go"
  | get => "Get"
  | drop => "Drop"
  | put => "Put"
  | inventory => "Inventory"
  | talk => "Talk"
  | wait => "Wait"
  | help => "Help"
  | save => "Save"
  | load => "Load"
  | restart => "Restart"
  | quit => "Quit"
  | custom _ => "Custom"

/-- The behavior of a variant that carries nothing. -/
def ofVariantName? : String → Option Behavior
  | "Look" => some look
  | "Examine" => some examine
  | "Move" => some move
  | "Go" => some go
  | "Get" => some get
  | "Drop" => some drop
  | "Put" => some put
  | "Inventory" => some inventory
  | "Talk" => some talk
  | "Wait" => some wait
  | "Help" => some help
  | "Save" => some save
  | "Load" => some load
  | "Restart" => some restart
  | "Quit" => some quit
  | _ => none

def pack : Behavior → Packed
  | custom handler => Packed.ofVariant "Custom" (Packed.ofText handler)
  | behavior => Packed.ofText behavior.variantName

def unpack? (packed : Packed) : Option Behavior := do
  match ← packed.variant? variants with
  | ("Custom", some content) => content.text?.map custom
  | (name, content) => if Packed.isBare content then ofVariantName? name else none

end Behavior

namespace ActionWords

def pack (words : ActionWords) : Packed :=
  Packed.ofRecord
    [("aliases", Packed.ofList Packed.ofText words.aliases),
      ("prepositions", Packed.ofList Packed.ofText words.prepositions)]

def unpack? (depth : Nat) (packed : Packed) : Option ActionWords := do
  match ← packed.fields? depth ["aliases", "prepositions"] with
  | [aliases, prepositions] =>
      return ⟨← Packed.required (Packed.list? Packed.text?) aliases,
        ← Packed.required (Packed.list? Packed.text?) prepositions⟩
  | _ => none

end ActionWords

namespace Command

def pack (command : Command) : Packed :=
  Packed.ofRecord
    [("hotkey", Packed.ofText command.hotkey), ("behavior", command.behavior.pack),
      ("action", Packed.ofOption ActionWords.pack command.action),
      ("summary", Packed.ofText command.summary)]

def unpack? (depth : Nat) (packed : Packed) : Option Command := do
  match ← packed.fields? depth ["hotkey", "behavior", "action", "summary"] with
  | [hotkey, behavior, action, summary] =>
      return ⟨← Packed.required Packed.text? hotkey, ← Packed.required Behavior.unpack? behavior,
        ← Packed.optional (ActionWords.unpack? (depth + 1)) action,
        ← Packed.required Packed.text? summary⟩
  | _ => none

end Command

namespace Condition

def pack (condition : Condition) : Packed :=
  Packed.ofRecord
    [("predicate", condition.predicate.pack), ("negated", Packed.ofBool condition.negated)]

def unpack? (depth : Nat) (packed : Packed) : Option Condition := do
  match ← packed.fields? depth ["predicate", "negated"] with
  | [predicate, negated] =>
      return ⟨← Packed.required (Predicate.unpack? (depth + 1)) predicate,
        ← Packed.required Packed.bool? negated⟩
  | _ => none

end Condition

namespace Event

def pack (event : Event) : Packed :=
  Packed.ofRecord
    [("conditions", Packed.ofList Key.pack event.conditions),
      ("effects", Packed.ofList Effect.pack event.effects)]

def unpack? (depth : Nat) (packed : Packed) : Option Event := do
  match ← packed.fields? depth ["conditions", "effects"] with
  | [conditions, effects] =>
      return ⟨← Packed.required (Packed.list? Key.unpack?) conditions,
        ← Packed.required (Packed.list? (Effect.unpack? (depth + 2))) effects⟩
  | _ => none

end Event

namespace DialogOption

def pack (option : DialogOption) : Packed :=
  Packed.ofRecord
    [("text", Packed.ofText option.text), ("reply", Packed.ofText option.reply),
      ("effects", Packed.ofList Effect.pack option.effects),
      ("once", Packed.ofBool option.once)]

def unpack? (depth : Nat) (packed : Packed) : Option DialogOption := do
  match ← packed.fields? depth ["text", "reply", "effects", "once"] with
  | [text, reply, effects, once] =>
      return ⟨← Packed.required Packed.text? text, ← Packed.required Packed.text? reply,
        ← Packed.required (Packed.list? (Effect.unpack? (depth + 2))) effects,
        ← Packed.required Packed.bool? once⟩
  | _ => none

end DialogOption

namespace Dialog

def pack (dialog : Dialog) : Packed :=
  Packed.ofRecord
    [("prompt", Packed.ofText dialog.opening),
      ("options", Packed.ofList DialogOption.pack dialog.options)]

def unpack? (depth : Nat) (packed : Packed) : Option Dialog := do
  match ← packed.fields? depth ["prompt", "options"] with
  | [opening, options] =>
      return ⟨← Packed.required Packed.text? opening,
        ← Packed.required (Packed.list? (DialogOption.unpack? (depth + 2))) options⟩
  | _ => none

end Dialog

namespace Kind

def variants : List String :=
  ["Location", "Item", "Pawn", "Command", "Condition", "Event", "Exit", "Dialog"]

def pack : Kind → Packed
  | location => Packed.ofText "Location"
  | item record => Packed.ofVariant "Item" record.pack
  | pawn record => Packed.ofVariant "Pawn" record.pack
  | command record => Packed.ofVariant "Command" record.pack
  | condition record => Packed.ofVariant "Condition" record.pack
  | event record => Packed.ofVariant "Event" record.pack
  | exit record => Packed.ofVariant "Exit" record.pack
  | dialog record => Packed.ofVariant "Dialog" record.pack

def unpack? (depth : Nat) (packed : Packed) : Option Kind := do
  match ← packed.variant? variants with
  | ("Location", content) => if Packed.isBare content then some location else none
  | ("Item", some content) => (Item.unpack? depth content).map item
  | ("Pawn", some content) => (Pawn.unpack? depth content).map pawn
  | ("Command", some content) => (Command.unpack? depth content).map command
  | ("Condition", some content) => (Condition.unpack? depth content).map condition
  | ("Event", some content) => (Event.unpack? depth content).map event
  | ("Exit", some content) => (Exit.unpack? depth content).map exit
  | ("Dialog", some content) => (Dialog.unpack? depth content).map dialog
  | _ => none

end Kind

namespace Entity

def pack (entity : Entity) : Packed :=
  Packed.ofRecord
    [("name", Packed.ofText entity.name), ("key", entity.key.pack),
      ("notes", entity.notes.pack Packed.ofText), ("status", entity.statuses.pack Packed.ofInt64),
      ("kind", entity.kind.pack), ("container", Packed.ofOption Container.pack entity.container)]

def unpack? (depth : Nat) (packed : Packed) : Option Entity := do
  match ← packed.fields? depth ["name", "key", "notes", "status", "kind", "container"] with
  | [name, key, notes, statuses, kind, container] =>
      return ⟨← Packed.required Packed.text? name, ← Packed.required Key.unpack? key,
        ← Packed.required (Attributes.unpack? Packed.text?) notes,
        ← Packed.required (Attributes.unpack? Packed.status?) statuses,
        ← Packed.required (Kind.unpack? (depth + 1)) kind,
        ← Packed.optional (Container.unpack? (depth + 1)) container⟩
  | _ => none

end Entity

end TextAdventure
