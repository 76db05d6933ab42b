import TextAdventure.Store.Folder
import TextAdventure.Store.Slots

/-!
# Stores

Where a session saves its games: in slots or in a folder.
-/

namespace TextAdventure

inductive Store where
  | slots (saves : Slots)
  | folder (place : Folder)
  deriving DecidableEq

namespace Store

def save (name : String) (world : World) : Store → Except Fault Unit × Store
  | slots saves =>
      match saves.save name world with
      | .error fault => (.error fault, slots saves)
      | .ok after => (.ok (), slots after)
  | folder place =>
      let (result, after) := place.save name world
      (result, folder after)

def load (name : String) : Store → Except Fault World
  | slots saves => saves.load name
  | folder place => place.load name

def names : Store → List String
  | slots saves => saves.names
  | folder place => place.names

end Store

end TextAdventure
