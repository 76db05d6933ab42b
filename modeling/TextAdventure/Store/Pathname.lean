import TextAdventure.Store.Folder

/-!
# Paths

A path is a row of bytes that separators part into pieces, and it leads from one piece to the
next.  A saved game is a file in some folder, and its name is told from the path of the file.
-/

namespace TextAdventure

structure Pathname where
  bytes : List UInt8
  deriving DecidableEq, Repr

/-- A step of the way along a path. -/
inductive PathPart where
  | root
  | here
  | up
  | name (bytes : List UInt8)
  deriving DecidableEq, Repr

namespace Pathname

def separator : UInt8 := 0x2F

def dot : UInt8 := 0x2E

def ofText (text : String) : Pathname :=
  ⟨text.toUTF8.toList⟩

def isAbsolute (path : Pathname) : Bool :=
  path.bytes.head? == some separator

/-- What stands before, between and after the separators. -/
def pieces (path : Pathname) : List (List UInt8) :=
  path.bytes.splitOn separator

/-- The part at which a path starts, unless it starts with a name or two dots. -/
def start (path : Pathname) : List PathPart :=
  if path.isAbsolute then [.root]
  else if path.pieces.head? = some [dot] then [.here]
  else []

/-- The part that a piece stands for.  Nothing, or a dot, leads nowhere else. -/
def part? (piece : List UInt8) : Option PathPart :=
  if piece = [] ∨ piece = [dot] then none
  else if piece = [dot, dot] then some .up
  else some (.name piece)

def parts (path : Pathname) : List PathPart :=
  path.start ++ path.pieces.filterMap part?

/-- The path of a file in a folder.  An absolute path is the same in every folder. -/
def join (folder file : Pathname) : Pathname :=
  if file.isAbsolute then file
  else if folder.bytes = [] ∨ folder.bytes.getLast? = some separator then
    ⟨folder.bytes ++ file.bytes⟩
  else ⟨folder.bytes ++ separator :: file.bytes⟩

/-- The last part of a path, if that is a name. -/
def fileName? (path : Pathname) : Option (List UInt8) :=
  match path.parts.getLast? with
  | some (.name bytes) => some bytes
  | _ => none

/-- What stands before the last dot of a name and what stands after it.  A dot in front of
everything else parts nothing. -/
def partedAtDot? (name : List UInt8) : Option (List UInt8 × List UInt8) :=
  match name.reverse.dropWhile (· != dot) with
  | _ :: first :: rest =>
      some ((first :: rest).reverse, (name.reverse.takeWhile (· != dot)).reverse)
  | _ => none

/-- The name of the file without its extension. -/
def stem? (path : Pathname) : Option (List UInt8) := do
  let name ← path.fileName?
  match partedAtDot? name with
  | some (stem, _) => return stem
  | none => return name

def extension? (path : Pathname) : Option (List UInt8) := do
  let name ← path.fileName?
  let (_, extension) ← partedAtDot? name
  return extension

end Pathname

namespace Folder

/-- The extension of the files of saved games. -/
def extension : List UInt8 :=
  "sav".toUTF8.toList

/-- The path of the file in which a game is saved under a name. -/
def pathIn (directory : Pathname) (name : String) : Except Fault Pathname := do
  return directory.join (.ofText (← pathFor name))

/-- The name of the game that the file at a path is named for. -/
def slotAt? (path : Pathname) : Option String :=
  if path.extension? = some extension then do
    let stem ← path.stem?
    String.fromUTF8? ⟨stem.toArray⟩
  else none

/-- The names of the games in the folder at a path, told from the paths of its files, in order.
There are none where no folder is, and none is at an empty path. -/
def slotsIn (directory : Pathname) (place : Folder) : List String :=
  (place.opened.entries.filterMap fun entry =>
    slotAt? (directory.join (.ofText entry.1))).mergeSort fun left right => decide (left ≤ right)

end Folder

end TextAdventure
