import TextAdventure.Level

/-!
# Standard commands

The commands that every level may install, in the order in which help lists them.
-/

namespace TextAdventure.StandardCommands

/-- The directions, each with its hotkey. -/
def directions : List (String × String) :=
  [("north", "n"), ("south", "s"), ("east", "e"), ("west", "w"), ("up", "u"), ("down", "d")]

def directionCommand (direction : String × String) : Entity :=
  (Entity.command direction.1 direction.2 .move).withSummary ("go " ++ direction.1)

/-- Look about and move. -/
def wayfinding : List Entity :=
  [ (Entity.command "look" "l" .look).withSummary "describe your surroundings",
    ((Entity.action "examine" "x" .examine).withAlias "inspect").withSummary
      "look closely at something",
    ((Entity.action "go" "go" .go).withPreposition "to").withSummary "take an exit by name" ] ++
  directions.map directionCommand

/-- Handle things and talk. -/
def handling : List Entity :=
  [ (((Entity.action "get" "g" .get).withAlias "take").withAlias "pick up").withSummary
      "pick something up",
    (Entity.command "drop" "dr" .drop).withSummary "put something down",
    ((((Entity.action "put" "p" .put).withPreposition "in").withPreposition "into").withPreposition
      "on").withSummary "put something in a container",
    ((Entity.action "inventory" "i" .inventory).withAlias "inv").withSummary
      "list what you carry",
    ((Entity.action "talk" "t" .talk).withPreposition "to").withSummary "talk to someone",
    (Entity.command "wait" "z" .wait).withSummary "let time pass" ]

/-- Ask for help, keep the game and leave it. -/
def housekeeping : List Entity :=
  [ ((Entity.action "help" "h" .help).withAlias "?").withSummary "list commands",
    (Entity.command "save" "sv" .save).withSummary "save the game",
    ((Entity.action "load" "ld" .load).withAlias "restore").withSummary "load a saved game",
    (Entity.command "restart" "rs" .restart).withSummary "start over",
    ((Entity.action "quit" "q" .quit).withAlias "exit").withSummary "leave the game" ]

def all : List Entity :=
  wayfinding ++ handling ++ housekeeping

/-- Create every standard command and make it active. -/
def install : Layout Unit :=
  all.forM fun command => do
    Layout.create command
    Layout.activate command.key.text

end TextAdventure.StandardCommands
