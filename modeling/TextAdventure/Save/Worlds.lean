import TextAdventure.Save.Entities
import TextAdventure.World

/-!
# Saved worlds

The bytes of a saved game, and the world read back from them.  Bytes after the world are
ignored.
-/

namespace TextAdventure.World

open Save

def pack (world : World) : Packed :=
  Packed.ofRecord
    [("registry", Packed.ofList Entity.pack world.registry.entities),
      ("active", Packed.ofList Key.pack world.active), ("player", world.player.pack),
      ("turns", .unsigned world.turns)]

def unpack? (packed : Packed) : Option World := do
  match ← packed.fields? 0 ["registry", "active", "player", "turns"] with
  | [registry, active, player, turns] =>
      return ⟨Registry.ofList (← Packed.required (Packed.list? (Entity.unpack? 2)) registry),
        ← Packed.required (Packed.list? Key.unpack?) active,
        ← Packed.required Key.unpack? player, ← Packed.required Packed.turns? turns⟩
  | _ => none

def toBytes (world : World) : List UInt8 :=
  world.pack.write

def malformed : Fault :=
  Fault.ofCause (.serialization "malformed saved game")

def ofBytes (bytes : List UInt8) : Except Fault World :=
  match Packed.read bytes with
  | none => .error malformed
  | some (packed, _) =>
      match unpack? packed with
      | none => .error malformed
      | some world => .ok world

end TextAdventure.World
