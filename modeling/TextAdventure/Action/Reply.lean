import TextAdventure.Input.Operation
import TextAdventure.World

/-!
# Replies

Most commands only change the world and say something.  A reply is both: the world
afterwards and the paragraphs said, in order.
-/

namespace TextAdventure

structure Reply where
  world : World
  said : List String
  deriving DecidableEq

namespace Reply

/-- Say one paragraph and change nothing. -/
def saying (world : World) (text : String) : Reply :=
  ⟨world, [text]⟩

/-- Put paragraphs in front of a reply. -/
def after (said : List String) (reply : Reply) : Reply :=
  { reply with said := said ++ reply.said }

end Reply

/-- A count of named things; a single one goes without its number. -/
def countedName (name : String) (quantity : UInt32) : String :=
  if quantity = 1 then name else toString quantity.toNat ++ " " ++ name

end TextAdventure
