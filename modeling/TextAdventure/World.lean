import TextAdventure.Registry

/-!
# Worlds

A world is what a saved game keeps: the registry, the active commands in the order
of their activation, the key of the player's pawn, and the number of turns played.
-/

namespace TextAdventure

structure World where
  registry : Registry
  active : List Key
  player : Key
  turns : UInt64
  deriving DecidableEq

namespace World

def empty : World := ⟨Registry.empty, [], ⟨""⟩, 0⟩

/-- Equality that compares weights as numbers. -/
def sameAs (left right : World) : Bool :=
  left.registry.sameAs right.registry && left.active == right.active &&
    left.player == right.player && left.turns == right.turns

def playerPawn? (world : World) : Option Pawn :=
  world.registry.pawn? world.player

def playerLocation? (world : World) : Option Key :=
  world.playerPawn?.map Pawn.location

/-- Make a registered pawn the player. -/
def setPlayer (world : World) (name : String) : Except Fault World :=
  match world.registry.pawn? (Key.ofName name) with
  | none => .error (Fault.ofCause (.wrongKind name .pawn))
  | some _ => .ok { world with player := Key.ofName name }

/-- A world can be played when its player is a registered pawn. -/
def check (world : World) : Except Fault Unit :=
  match world.playerPawn? with
  | some _ => .ok ()
  | none =>
      .error (Fault.ofCause
        (.persistence ("snapshot player '" ++ world.player.text ++ "' is not a pawn")))

/-! ## Active commands -/

def isActive (world : World) (name : String) : Bool :=
  Key.ofName name ∈ world.active

/-- Make a registered command active, unless it is so already. -/
def activate? (world : World) (name : String) : Option World :=
  let key := Key.ofName name
  match world.registry.command? key with
  | none => none
  | some _ =>
      if key ∈ world.active then none else some { world with active := world.active ++ [key] }

def activate (world : World) (name : String) : World :=
  (world.activate? name).getD world

def deactivate (world : World) (name : String) : World :=
  { world with active := world.active.filter fun key => key ≠ Key.ofName name }

/-- Remove a registered entity that is not the player, and its activation. -/
def removeEntity (world : World) (key : Key) : World :=
  if key = world.player then world
  else if world.registry.contains key.text then
    { world with registry := world.registry.erase (Key.ofName key.text) }.deactivate key.text
  else world

/-- Move a registered pawn to a registered location. -/
def movePawn (world : World) (pawn location : Key) : World :=
  match world.registry.location? (Key.ofName location.text) with
  | none => world
  | some _ => { world with registry := world.registry.movePawn pawn location }

/-- The active commands that are registered, with their entities. -/
def activeCommands (world : World) : List (Entity × Command) :=
  world.active.filterMap fun key =>
    (world.registry.get? key).bind fun entity =>
      entity.kind.command?.map fun command => (entity, command)

end World

end TextAdventure
