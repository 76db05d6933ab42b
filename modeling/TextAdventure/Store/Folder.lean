import TextAdventure.Save.Worlds
import TextAdventure.Store.SaveName

/-!
# Save folders

Saved games kept as files of one folder, each named for its game.  The folder need not
exist before the first game is saved.
-/

namespace TextAdventure

/-- What a name in the folder stands for. -/
inductive FolderEntry where
  | file (bytes : List UInt8)
  | folder
  deriving DecidableEq, Repr

structure Folder where
  /-- What is in the folder by name; nothing if there is no such folder yet. -/
  contents : Option (Attributes FolderEntry)
  deriving DecidableEq

namespace Folder

def absent : Folder := ⟨none⟩

/-- The folder after it has been created, if that was necessary. -/
def opened (folder : Folder) : Attributes FolderEntry :=
  folder.contents.getD Attributes.empty

def fileName (saveName : String) : String :=
  saveName ++ ".sav"

/-- The name of the game that a file is named for. -/
def stem? (fileName : String) : Option String :=
  match fileName.toList.reverse with
  | 'v' :: 'a' :: 's' :: '.' :: first :: rest => some (String.ofList (first :: rest).reverse)
  | _ => none

/-- The longest file name, in bytes. -/
def maxFileName : Nat := 255

def pathFor (name : String) : Except Fault String := do
  return fileName (← Store.saveName name)

def unwritable (file : String) : Fault :=
  Fault.ofCause (.device ("failed to replace file '" ++ file ++ "'"))

def unreadable (file : String) : Fault :=
  Fault.ofCause (.device ("failed to read file '" ++ file ++ "'"))

/-- Put the bytes of a world into a file.  A folder of that name is in the way, and so is
a name that is too long. -/
def writeFile (contents : Attributes FolderEntry) (file : String) (world : World) :
    Except Fault (Attributes FolderEntry) :=
  match contents.get? file with
  | some .folder => .error (unwritable file)
  | _ =>
      if maxFileName < file.utf8ByteSize then .error (unwritable file)
      else .ok (contents.insert file (.file world.toBytes))

/-- Save a world.  The folder is created even if the file cannot be written. -/
def save (folder : Folder) (name : String) (world : World) : Except Fault Unit × Folder :=
  match pathFor name with
  | .error fault => (.error fault, folder)
  | .ok file =>
      match writeFile folder.opened file world with
      | .error fault => (.error fault, ⟨some folder.opened⟩)
      | .ok contents => (.ok (), ⟨some contents⟩)

/-- Load a world that can be played. -/
def load (folder : Folder) (name : String) : Except Fault World := do
  let file ← pathFor name
  match folder.opened.get? file with
  | none => throw (Store.missing name)
  | some .folder => throw (unreadable file)
  | some (.file bytes) =>
      let world ← World.ofBytes bytes
      world.check
      return world

/-- The names of the games that the files are named for, in order. -/
def names (folder : Folder) : List String :=
  (folder.opened.entries.filterMap fun entry => stem? entry.1).mergeSort
    fun left right => decide (left ≤ right)

end Folder

end TextAdventure
