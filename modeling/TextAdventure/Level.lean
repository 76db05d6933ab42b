import TextAdventure.Vocabulary
import TextAdventure.World

/-!
# Levels

A level is a name and a layout: a program that builds the starting world from the
empty one, may say something, and may fail half-way.  A layout can do no more than that.
Whether the game is over and whether a sweep is left out is not up to a level, so it makes no
difference that a session forgets both when the level has been built, and not before.
-/

namespace TextAdventure

/-- A world under construction, and what has been said while building it. -/
structure Draft where
  world : World
  said : List String
  deriving DecidableEq

def Draft.empty : Draft := ⟨World.empty, []⟩

abbrev Layout : Type → Type := ExceptT Fault (StateM Draft)

namespace Layout

def editWorld (edit : World → World) : Layout Unit :=
  modify fun draft => { draft with world := edit draft.world }

/-- Change the world by a step that may fail; a step that fails leaves it alone. -/
def tryWorld (step : World → Except Fault World) : Layout Unit := do
  match step (← get).world with
  | .error fault => throw fault
  | .ok world => editWorld fun _ => world

def tryRegistry (step : Registry → Except Fault Registry) : Layout Unit :=
  tryWorld fun world => do return { world with registry := ← step world.registry }

def create (entity : Entity) : Layout Unit :=
  tryRegistry (·.create entity)

def place (item holder : String) (quantity : UInt32) : Layout Unit :=
  tryRegistry (·.place item holder quantity)

def setPlayer (name : String) : Layout Unit :=
  tryWorld (·.setPlayer name)

def activate (name : String) : Layout Unit :=
  editWorld (·.activate name)

def deactivate (name : String) : Layout Unit :=
  editWorld (·.deactivate name)

def say (text : String) : Layout Unit :=
  modify fun draft => { draft with said := draft.said ++ [text] }

end Layout

structure Level where
  name : String
  build : Layout Unit

namespace Level

/-- Build the level, and say how that ended and how far it got. -/
def draft (level : Level) : Except Fault Unit × Draft :=
  level.build.run.run Draft.empty

end Level

end TextAdventure
