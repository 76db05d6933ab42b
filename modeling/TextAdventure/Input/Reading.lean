import TextAdventure.Input.Operation
import TextAdventure.Input.Scope
import TextAdventure.Input.VerbTable

/-!
# Readings of a line

A line is empty, starts with no known verb, or is read as an operation: the verb,
the direct phrase with its quantity, and after a preposition the indirect phrase.
-/

namespace TextAdventure

inductive Reading where
  | parsed (operation : Operation)
  | empty
  | unrecognized (word : String)
  deriving DecidableEq, Repr

/-- The tokens after a verb, divided at a preposition. -/
structure Division where
  direct : List Token
  preposition : Option String
  indirect : List Token
  deriving DecidableEq, Repr

namespace Division

/-- Divide at the first unquoted preposition. -/
def ofTokens (prepositions : List String) : List Token → Division
  | [] => ⟨[], none, []⟩
  | token :: rest =>
      if prepositions.any token.isWord then ⟨[], some token.text, rest⟩
      else
        let division := ofTokens prepositions rest
        { division with direct := token :: division.direct }

end Division

namespace Reading

def operation? : Reading → Option Operation
  | parsed operation => some operation
  | _ => none

def prepositionsOf (registry : Registry) (command : Key) : List String :=
  match registry.command? command with
  | none => []
  | some command => command.prepositions

def joined (tokens : List Token) : String :=
  Text.unwords (Token.texts tokens)

/-- The operation of a line whose verb has been found. -/
def operationOf (registry : Registry) (actor : Key) (line : String) (tokens : List Token)
    (verb : VerbMatch) : Operation :=
  let rest := tokens.drop verb.consumed
  let division := Division.ofTokens (prepositionsOf registry verb.command) rest
  let counted := (NounPhrase.ofTokens division.direct).takeQuantity
  let indirectPhrase := NounPhrase.ofTokens division.indirect
  let scope := Scope.ofActor registry actor
  { input := line
    tokens := Token.texts tokens
    verb := joined (tokens.take verb.consumed)
    command := verb.command
    rest := joined rest
    quantity := counted.1.getD 1
    isExplicit := counted.1.isSome
    preposition := division.preposition
    directPhrase := counted.2
    indirectPhrase := indirectPhrase
    direct := (scope.resolve registry counted.2).map Prod.fst
    indirect := (scope.resolve registry indirectPhrase).map Prod.fst }

/-- Read a line with the verbs of a table, on behalf of an actor. -/
def withVerbs (table : VerbTable) (registry : Registry) (actor : Key) (line : String) : Reading :=
  match Token.ofLine line with
  | [] => empty
  | first :: rest =>
      match table.lookup (first :: rest) with
      | none => unrecognized first.text
      | some verb => parsed (operationOf registry actor line (first :: rest) verb)

/-- Read a line with the active commands. -/
def ofLine (registry : Registry) (active : List Key) (actor : Key) (line : String) : Reading :=
  withVerbs (VerbTable.ofActive registry active) registry actor line

end Reading

end TextAdventure
