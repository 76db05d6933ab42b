import TextAdventure.Key

/-!
# Rules

A predicate is a question about the world and the operation under way; an effect
is a change of it.  Both name entities by key.
-/

namespace TextAdventure

inductive Predicate where
  | always
  | statusSet (entity : Key) (status : String)
  | statusAtLeast (entity : Key) (status : String) (value : Int64)
  | playerAt (location : Key)
  | playerHolds (item : Key) (quantity : UInt32)
  | containerHolds (holder item : Key) (quantity : UInt32)
  | entityExists (entity : Key)
  | commandIs (command : Key)
  | turnsElapsed (turns : UInt64)
  deriving DecidableEq, Repr

inductive Effect where
  | say (text : String)
  | setStatus (entity : Key) (status : String) (value : Int64)
  | adjustStatus (entity : Key) (status : String) (delta : Int64)
  | clearStatus (entity : Key) (status : String)
  | movePawn (pawn location : Key)
  | giveItem (holder item : Key) (quantity : UInt32)
  | takeItem (holder item : Key) (quantity : UInt32)
  | removeEntity (entity : Key)
  | enableCommand (command : Key)
  | disableCommand (command : Key)
  | initiateDialog (dialog : Key)
  | endGame (text : String)
  deriving DecidableEq, Repr

end TextAdventure
