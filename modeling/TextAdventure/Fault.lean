import TextAdventure.Key

/-!
# Verdicts and faults

A verdict says whether a word may enter the vocabulary, and if not, why.  A fault
is the cause of a failed request, with an optional trace of where it arose.
-/

namespace TextAdventure

/-- The outcome of screening a word. -/
inductive Verdict where
  | passed
  | nameLength
  | hotkeyLength
  | aliasLength
  | invalidWhitespace
  | untypeableName
  | nameDuplication
  | nameDuplicatesHotkey
  | nameDuplicatesAlias
  | hotkeyDuplicatesName
  | hotkeyDuplication
  | hotkeyDuplicatesAlias
  | aliasDuplicatesName
  | aliasDuplicatesHotkey
  | aliasDuplication
  deriving DecidableEq, Repr

namespace Verdict

def isPassed (verdict : Verdict) : Bool :=
  verdict == passed

/-- The sentence that explains a verdict to the author of a level. -/
def reason : Verdict → String
  | passed => "passed validation"
  | nameLength => s!"names must be 1 to {Text.maxNameLength} characters long"
  | hotkeyLength => s!"hotkeys must be 1 to {Text.maxHotkeyLength} characters long"
  | aliasLength => s!"aliases must be 1 to {Text.maxNameLength} characters long"
  | invalidWhitespace => "whitespace is not allowed here"
  | untypeableName => "names must be words a player can type back"
  | nameDuplication => "that name is already in use"
  | nameDuplicatesHotkey => "that name is already a command hotkey"
  | nameDuplicatesAlias => "that name is already a command alias"
  | hotkeyDuplicatesName => "that hotkey is already an entity name"
  | hotkeyDuplication => "that hotkey is already in use"
  | hotkeyDuplicatesAlias => "that hotkey is already a command alias"
  | aliasDuplicatesName => "that alias is already an entity name"
  | aliasDuplicatesHotkey => "that alias is already a command hotkey"
  | aliasDuplication => "that alias is already in use"

end Verdict

/-- What a name was expected to denote. -/
inductive Role where
  | item
  | container
  | pawn
  deriving DecidableEq, Repr

namespace Role

def label : Role → String
  | item => "item"
  | container => "container"
  | pawn => "pawn"

end Role

/-- Why a request failed. -/
inductive Cause where
  | configuration (name : String) (verdict : Verdict)
  | unknownEntity (name : String)
  | wrongKind (name : String) (expected : Role)
  | invalidSaveName (name : String)
  | persistence (text : String)
  | serialization (text : String)
  | device (text : String)
  | internal (text : String)
  deriving DecidableEq, Repr

namespace Cause

def message : Cause → String
  | configuration name verdict =>
      "configuration error for '" ++ name ++ "': " ++ verdict.reason
  | unknownEntity name => "unknown entity: " ++ name
  | wrongKind name expected => "entity '" ++ name ++ "' is not a " ++ expected.label
  | invalidSaveName name => "invalid save name: " ++ name
  | persistence text => "persistence error: " ++ text
  | serialization text => "serialization error: " ++ text
  | device text => "I/O error: " ++ text
  | internal text => "internal error: " ++ text

end Cause

/-- Where a fault arose: the thing being worked on, and the steps under way. -/
structure Trace where
  source : Option String
  frames : List String
  deriving DecidableEq, Repr

namespace Trace

def heading (trace : Trace) : String :=
  match trace.source with
  | none => ""
  | some source => "in " ++ source

def frameLines (trace : Trace) : String :=
  String.join (trace.frames.map fun frame => "  while " ++ frame ++ "\n")

def text (trace : Trace) : String :=
  if trace.frames.isEmpty then trace.heading
  else trace.heading ++ "\n" ++ trace.frameLines

end Trace

structure Fault where
  cause : Cause
  trace : Option Trace
  deriving DecidableEq, Repr

namespace Fault

def ofCause (cause : Cause) : Fault :=
  ⟨cause, none⟩

def withTrace (fault : Fault) (trace : Trace) : Fault :=
  { fault with trace := some trace }

def message (fault : Fault) : String :=
  fault.cause.message

end Fault

end TextAdventure
