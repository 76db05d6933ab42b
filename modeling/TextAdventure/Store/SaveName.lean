import TextAdventure.Fault

/-!
# Names of saved games

A saved game may have any name that is also a plain file name.  Blanks at the ends and
the case of letters do not matter.
-/

namespace TextAdventure.Store

/-- The characters that a file name cannot have everywhere. -/
def isUnsafeChar (c : Char) : Bool :=
  c == '/' || c == '\\' || c == ':' || c == '\x00'

def isUnsafeName : List Char → Bool
  | [] => true
  | first :: rest => first == '.' || (first :: rest).any isUnsafeChar

/-- The form in which a name is kept, or the fault of one that cannot be. -/
def saveName (name : String) : Except Fault String :=
  if isUnsafeName (Text.trim name).toList then
    .error (Fault.ofCause (.invalidSaveName name))
  else .ok (Text.lower (Text.trim name))

/-- The fault of a name under which nothing is saved. -/
def missing (name : String) : Fault :=
  Fault.ofCause (.persistence ("no saved game named '" ++ Text.trim name ++ "'"))

end TextAdventure.Store
