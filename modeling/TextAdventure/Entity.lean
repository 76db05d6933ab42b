import TextAdventure.Attributes
import TextAdventure.Container
import TextAdventure.Rule
import TextAdventure.Weight

/-!
# Entities

Everything a world is made of is an entity: a name with its key, notes, statuses
above zero, perhaps a container, and a record that depends on its kind.  No
operation here changes the name or the key of an entity that exists.
-/

namespace TextAdventure

structure Item where
  weight : Weight
  deriving DecidableEq, Repr

structure Pawn where
  location : Key
  maxWeight : Weight
  dialog : Option Key
  deriving DecidableEq, Repr

structure Exit where
  origin : Key
  destination : Key
  direction : Option Key
  deriving DecidableEq, Repr

/-- What a command does when it runs. -/
inductive Behavior where
  | look
  | examine
  | move
  | go
  | get
  | drop
  | put
  | inventory
  | talk
  | wait
  | help
  | save
  | load
  | restart
  | quit
  | custom (handler : String)
  deriving DecidableEq, Repr

/-- The further words of a command that takes objects. -/
structure ActionWords where
  aliases : List String
  prepositions : List String
  deriving DecidableEq, Repr

structure Command where
  hotkey : String
  behavior : Behavior
  action : Option ActionWords
  summary : String
  deriving DecidableEq, Repr

namespace Command

def aliases (command : Command) : List String :=
  match command.action with
  | none => []
  | some words => words.aliases

def prepositions (command : Command) : List String :=
  match command.action with
  | none => []
  | some words => words.prepositions

def isAction (command : Command) : Bool :=
  command.action.isSome

/-- Whether a word is the hotkey, the case of the letters A to Z aside. -/
def hotkeyMatches (command : Command) (word : String) : Bool :=
  Text.lowerAscii command.hotkey == Text.lowerAscii (Text.trim word)

def hasAlias (command : Command) (phrase : String) : Bool :=
  command.aliases.any (Key.ofName phrase).matchesName

end Command

structure Condition where
  predicate : Predicate
  negated : Bool
  deriving DecidableEq, Repr

structure Event where
  conditions : List Key
  effects : List Effect
  deriving DecidableEq, Repr

structure DialogOption where
  text : String
  reply : String
  effects : List Effect
  once : Bool
  deriving DecidableEq, Repr

structure Dialog where
  opening : String
  options : List DialogOption
  deriving DecidableEq, Repr

inductive Kind where
  | location
  | item (record : Item)
  | pawn (record : Pawn)
  | command (record : Command)
  | condition (record : Condition)
  | event (record : Event)
  | exit (record : Exit)
  | dialog (record : Dialog)
  deriving DecidableEq, Repr

namespace Kind

def label : Kind → String
  | location => "location"
  | item _ => "item"
  | pawn _ => "pawn"
  | command _ => "command"
  | condition _ => "condition"
  | event _ => "event"
  | exit _ => "exit"
  | dialog _ => "dialog"

/-- Equality that compares weights as numbers. -/
def sameAs : Kind → Kind → Bool
  | item left, item right => left.weight.sameNumber right.weight
  | pawn left, pawn right =>
      left.location == right.location && left.maxWeight.sameNumber right.maxWeight &&
        left.dialog == right.dialog
  | left, right => left == right

def isLocation : Kind → Bool
  | location => true
  | _ => false

def item? : Kind → Option Item
  | item record => some record
  | _ => none

def pawn? : Kind → Option Pawn
  | pawn record => some record
  | _ => none

def command? : Kind → Option Command
  | command record => some record
  | _ => none

def condition? : Kind → Option Condition
  | condition record => some record
  | _ => none

def event? : Kind → Option Event
  | event record => some record
  | _ => none

def exit? : Kind → Option Exit
  | exit record => some record
  | _ => none

def dialog? : Kind → Option Dialog
  | dialog record => some record
  | _ => none

def mapPawn (f : Pawn → Pawn) : Kind → Kind
  | pawn record => pawn (f record)
  | kind => kind

def mapCommand (f : Command → Command) : Kind → Kind
  | command record => command (f record)
  | kind => kind

def mapCondition (f : Condition → Condition) : Kind → Kind
  | condition record => condition (f record)
  | kind => kind

def mapEvent (f : Event → Event) : Kind → Kind
  | event record => event (f record)
  | kind => kind

def mapExit (f : Exit → Exit) : Kind → Kind
  | exit record => exit (f record)
  | kind => kind

def mapDialog (f : Dialog → Dialog) : Kind → Kind
  | dialog record => dialog (f record)
  | kind => kind

end Kind

/-- The sum of two statuses, held within the range of 64 bits. -/
def addStatuses (left right : Int64) : Int64 :=
  Int64.ofInt (max (-0x8000000000000000) (min 0x7FFFFFFFFFFFFFFF (left.toInt + right.toInt)))

structure Entity where
  name : String
  key : Key
  notes : Attributes String
  statuses : Attributes Int64
  kind : Kind
  container : Option Container
  deriving DecidableEq

namespace Entity

def descriptionNote : String := "description"

def hiddenStatus : String := "hidden"

def visitedStatus : String := "visited"

/-- An entity with a trimmed name and nothing else to tell. -/
def ofKind (name : String) (kind : Kind) : Entity where
  name := Text.trim name
  key := Key.ofName (Text.trim name)
  notes := Attributes.empty
  statuses := Attributes.empty
  kind := kind
  container := none

def withContainer (entity : Entity) (container : Container) : Entity :=
  { entity with container := some container }

/-! ## One constructor for each kind -/

def location (name : String) : Entity :=
  (ofKind name .location).withContainer Container.empty

def item (name : String) (weight : Weight) : Entity :=
  ofKind name (.item ⟨weight⟩)

def pawn (name location : String) (maxWeight : Weight) : Entity :=
  (ofKind name (.pawn ⟨Key.ofName location, maxWeight, none⟩)).withContainer Container.empty

def exit (name origin destination : String) : Entity :=
  ofKind name (.exit ⟨Key.ofName origin, Key.ofName destination, none⟩)

def command (name hotkey : String) (behavior : Behavior) : Entity :=
  ofKind name (.command ⟨Text.trim hotkey, behavior, none, ""⟩)

/-- A command that may have aliases and prepositions. -/
def action (name hotkey : String) (behavior : Behavior) : Entity :=
  ofKind name (.command ⟨Text.trim hotkey, behavior, some ⟨[], []⟩, ""⟩)

def condition (name : String) (predicate : Predicate) : Entity :=
  ofKind name (.condition ⟨predicate, false⟩)

def event (name : String) : Entity :=
  ofKind name (.event ⟨[], []⟩)

def dialog (name opening : String) : Entity :=
  ofKind name (.dialog ⟨opening, []⟩)

/-! ## Notes, statuses and contents -/

def note? (entity : Entity) (note : String) : Option String :=
  entity.notes.get? note

def setNote (entity : Entity) (note text : String) : Entity :=
  { entity with notes := entity.notes.insert note text }

def description? (entity : Entity) : Option String :=
  entity.note? descriptionNote

/-- The value of a status; a status that is not set is zero. -/
def status (entity : Entity) (status : String) : Int64 :=
  (entity.statuses.get? status).getD 0

def isSet (entity : Entity) (status : String) : Bool :=
  0 < entity.status status

def clearStatus (entity : Entity) (status : String) : Entity :=
  { entity with statuses := entity.statuses.erase status }

/-- Set a status; a value at or below zero clears it. -/
def setStatus (entity : Entity) (status : String) (value : Int64) : Entity :=
  { entity with
    statuses :=
      if 0 < value then entity.statuses.insert status value
      else entity.statuses.erase status }

def adjustStatus (entity : Entity) (status : String) (delta : Int64) : Entity :=
  entity.setStatus status (addStatuses (entity.status status) delta)

def isHidden (entity : Entity) : Bool :=
  entity.isSet hiddenStatus

def mapContainer (f : Container → Container) (entity : Entity) : Entity :=
  { entity with container := entity.container.map f }

def mapKind (f : Kind → Kind) (entity : Entity) : Entity :=
  { entity with kind := f entity.kind }

/-- Equality that compares weights as numbers. -/
def sameAs (left right : Entity) : Bool :=
  left.name == right.name && left.key == right.key && left.notes == right.notes &&
    left.statuses == right.statuses && left.kind.sameAs right.kind &&
    left.container == right.container

/-! ## Building an entity step by step -/

def describe (entity : Entity) (text : String) : Entity :=
  entity.setNote descriptionNote text

def hide (entity : Entity) : Entity :=
  entity.setStatus hiddenStatus 1

def withDirection (entity : Entity) (direction : String) : Entity :=
  entity.mapKind (Kind.mapExit fun exit =>
    { exit with direction := some (Key.ofName direction) })

def mapAction (f : ActionWords → ActionWords) (entity : Entity) : Entity :=
  entity.mapKind (Kind.mapCommand fun command =>
    { command with action := command.action.map f })

def withAlias (entity : Entity) (phrase : String) : Entity :=
  entity.mapAction fun words => { words with aliases := words.aliases ++ [Text.trim phrase] }

def withPreposition (entity : Entity) (word : String) : Entity :=
  entity.mapAction fun words =>
    { words with prepositions := words.prepositions ++ [Text.normalize word] }

def withSummary (entity : Entity) (summary : String) : Entity :=
  entity.mapKind (Kind.mapCommand fun command => { command with summary := summary })

/-- Turn a condition into its opposite. -/
def negate (entity : Entity) : Entity :=
  entity.mapKind (Kind.mapCondition fun condition =>
    { condition with negated := !condition.negated })

def onlyWhen (entity : Entity) (condition : String) : Entity :=
  entity.mapKind (Kind.mapEvent fun event =>
    { event with conditions := event.conditions ++ [Key.ofName condition] })

def andThen (entity : Entity) (effect : Effect) : Entity :=
  entity.mapKind (Kind.mapEvent fun event => { event with effects := event.effects ++ [effect] })

def withOption (entity : Entity) (option : DialogOption) : Entity :=
  entity.mapKind (Kind.mapDialog fun dialog =>
    { dialog with options := dialog.options ++ [option] })

def withDialog (entity : Entity) (dialog : String) : Entity :=
  entity.mapKind (Kind.mapPawn fun pawn => { pawn with dialog := some (Key.ofName dialog) })

end Entity

end TextAdventure
