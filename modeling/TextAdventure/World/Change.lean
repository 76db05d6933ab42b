import TextAdventure.World

/-!
# Changes of the world

What an effect does to the world.  Effects that speak, end the game or open a
dialog leave the world as it is; an effect that names nothing fitting does nothing.
-/

namespace TextAdventure.Effect

def changeWorld (world : World) : Effect → World
  | setStatus entity status value =>
      { world with registry := world.registry.setStatus entity status value }
  | adjustStatus entity status delta =>
      { world with registry := world.registry.adjustStatus entity status delta }
  | clearStatus entity status =>
      { world with registry := world.registry.clearStatus entity status }
  | movePawn pawn location => world.movePawn pawn location
  | giveItem holder item quantity =>
      match world.registry.place item.text holder.text quantity with
      | .error _ => world
      | .ok registry => { world with registry := registry }
  | takeItem holder item quantity =>
      { world with
        registry := world.registry.mapContainer holder fun container =>
          (container.remove? item quantity).getD container }
  | removeEntity entity => world.removeEntity entity
  | enableCommand command => world.activate command.text
  | disableCommand command => world.deactivate command.text
  | say _ => world
  | initiateDialog _ => world
  | endGame _ => world

end TextAdventure.Effect
