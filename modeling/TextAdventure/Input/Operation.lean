import TextAdventure.Input.NounPhrase

/-!
# Operations

An operation is a command to run, with the objects and words it was given.
-/

namespace TextAdventure

structure Operation where
  input : String
  tokens : List String
  /-- The verb as it was typed. -/
  verb : String
  command : Key
  /-- All that was typed after the verb. -/
  rest : String
  quantity : Int
  isExplicit : Bool
  preposition : Option String
  directPhrase : NounPhrase
  indirectPhrase : NounPhrase
  direct : Option Key
  indirect : Option Key
  deriving DecidableEq, Repr

namespace Operation

/-- The operation of a command named without any object. -/
def bare (command : String) : Operation where
  input := command
  tokens := [(Key.ofName command).text]
  verb := (Key.ofName command).text
  command := Key.ofName command
  rest := ""
  quantity := 1
  isExplicit := false
  preposition := none
  directPhrase := NounPhrase.empty
  indirectPhrase := NounPhrase.empty
  direct := none
  indirect := none

/-- The three parts of an operation by number; there is nothing beyond them. -/
def segment (operation : Operation) : Nat → String
  | 0 => operation.verb
  | 1 => operation.command.text
  | 2 => operation.rest
  | _ => ""

def hasObject (operation : Operation) : Bool :=
  !operation.directPhrase.isEmpty

/-- The direct phrase as it was typed, or a stand-in for a missing one. -/
def typedOr (operation : Operation) (standIn : String) : String :=
  if operation.directPhrase.isEmpty then standIn else operation.directPhrase.text

end Operation

end TextAdventure
