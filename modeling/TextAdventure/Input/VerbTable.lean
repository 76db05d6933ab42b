import TextAdventure.Input.Token
import TextAdventure.Registry

/-!
# Verb tables

The phrases that invoke the active commands, in the order of activation: the name
of each command, its hotkey and its aliases.
-/

namespace TextAdventure

inductive VerbForm where
  | name
  | hotkey
  | alternative
  deriving DecidableEq, Repr

structure VerbEntry where
  command : Key
  words : List String
  form : VerbForm
  deriving DecidableEq, Repr

namespace VerbEntry

/-- Whether the unquoted words at the start of the line are those of the entry. -/
def matchesStart : List String → List Token → Bool
  | [], _ => true
  | _ :: _, [] => false
  | word :: words, token :: tokens => token.isWord word && matchesStart words tokens

end VerbEntry

/-- A verb found at the start of a line, and how many tokens it takes up. -/
structure VerbMatch where
  command : Key
  consumed : Nat
  form : VerbForm
  deriving DecidableEq, Repr

structure VerbTable where
  entries : List VerbEntry
  deriving DecidableEq, Repr

namespace VerbTable

def entryOf (command : Key) (form : VerbForm) (phrase : String) : List VerbEntry :=
  let words := Text.lowerWords phrase
  if words.isEmpty then [] else [⟨command, words, form⟩]

def entriesOf (entity : Entity) (command : Command) : List VerbEntry :=
  entryOf entity.key .name entity.name ++
    entryOf entity.key .hotkey command.hotkey ++
    command.aliases.flatMap (entryOf entity.key .alternative)

/-- The entries of one active key; a key that is no registered command has none. -/
def entriesFor (registry : Registry) (key : Key) : List VerbEntry :=
  match registry.get? key with
  | none => []
  | some entity =>
      match entity.kind with
      | .command command => entriesOf entity command
      | _ => []

def ofActive (registry : Registry) (active : List Key) : VerbTable :=
  ⟨active.flatMap (entriesFor registry)⟩

def isEmpty (table : VerbTable) : Bool :=
  table.entries.isEmpty

/-- Keep the best entry so far unless the new one matches more words. -/
def prefer (tokens : List Token) (best : Option VerbEntry) (entry : VerbEntry) :
    Option VerbEntry :=
  if VerbEntry.matchesStart entry.words tokens then
    match best with
    | none => some entry
    | some other => if other.words.length < entry.words.length then some entry else best
  else best

/-- The first of the longest phrases that start the line. -/
def lookup (table : VerbTable) (tokens : List Token) : Option VerbMatch :=
  (table.entries.foldl (prefer tokens) none).map fun entry =>
    ⟨entry.command, entry.words.length, entry.form⟩

end VerbTable

end TextAdventure
