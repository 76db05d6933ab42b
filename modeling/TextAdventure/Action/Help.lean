import TextAdventure.Action.Reply

/-!
# Help

One line for each active command: its name, its hotkey, and its summary if it has one.
-/

namespace TextAdventure

def commandLine (entity : Entity) (command : Command) : String :=
  let head := "  " ++ entity.name ++ " (" ++ command.hotkey ++ ")"
  if command.summary.isEmpty then head else head ++ ": " ++ command.summary

def World.help (world : World) : Reply :=
  ⟨world, ["Commands:", Text.unlines (world.activeCommands.map fun pair =>
    commandLine pair.1 pair.2)]⟩

end TextAdventure
