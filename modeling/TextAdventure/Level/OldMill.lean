import TextAdventure.Level.StandardCommands

/-!
# The Old Mill

A small level: four locations, a miller who knows about a trapdoor, and a key that
wants to be brought out to the meadow.
-/

namespace TextAdventure.OldMill

def weighing (number : Float) : Weight :=
  Weight.ofFloat number

def locations : List Entity :=
  [ (Entity.location "Meadow").describe
      "Tall grass sways around you. A mill stands to the east, its wheel creaking.",
    (Entity.location "Mill").describe
      "Flour dust hangs in the air. A ladder leads up to the loft.",
    (Entity.location "Loft").describe "Sacks and crates crowd the low rafters.",
    (Entity.location "Cellar").describe "Cold stone walls drip with damp." ]

def exits : List Entity :=
  [ (Entity.exit "Mill Door" "Meadow" "Mill").withDirection "east",
    (Entity.exit "Meadow Path" "Mill" "Meadow").withDirection "west",
    (Entity.exit "Ladder" "Mill" "Loft").withDirection "up",
    (Entity.exit "Loft Hatch" "Loft" "Mill").withDirection "down",
    ((Entity.exit "Trapdoor" "Mill" "Cellar").withDirection "down").hide,
    (Entity.exit "Cellar Stairs" "Cellar" "Mill").withDirection "up" ]

def items : List Entity :=
  [ (Entity.item "Lantern" (weighing 1.0)).describe "A brass lantern, still lit.",
    Entity.item "Coin" (weighing 0.1),
    ((Entity.item "Sack" (weighing 0.5)).describe "A sturdy flour sack.").withContainer
      Container.empty,
    (Entity.item "Millstone" (weighing 40.0)).describe "A spare millstone, far too heavy.",
    (Entity.item "Cellar Key" (weighing 0.1)).describe "An iron key, cold to the touch." ]

/-- Where the items lie at the start, and how many. -/
def placements : List (String × String × UInt32) :=
  [ ("lantern", "meadow", 1), ("coin", "loft", 5), ("sack", "loft", 1),
    ("millstone", "mill", 1), ("cellar key", "cellar", 1) ]

def chatOptions : List DialogOption :=
  [ { text := "What's under the floor?"
      reply := "The old cellar. The trapdoor is by the millstone."
      effects := [.setStatus (Key.ofName "trapdoor") Entity.hiddenStatus 0]
      once := true },
    { text := "Lost anything?"
      reply := "My cellar key. Bring it out to the meadow for me."
      effects := []
      once := false },
    { text := "Goodbye."
      reply := "Mind the millstone."
      effects := []
      once := false } ]

def chat : Entity :=
  chatOptions.foldl Entity.withOption
    (Entity.dialog "Miller Chat" "The miller wipes flour from his hands.")

def pawns : List Entity :=
  [ ((Entity.pawn "Miller" "Mill" (weighing 20.0)).describe
      "A stout miller with floury sleeves.").withDialog "Miller Chat",
    Entity.pawn "Player" "Meadow" (weighing 10.0) ]

def conditions : List Entity :=
  [ Entity.condition "In Cellar" (.playerAt (Key.ofName "Cellar")),
    Entity.condition "In Meadow" (.playerAt (Key.ofName "Meadow")),
    Entity.condition "Has Key" (.playerHolds (Key.ofName "Cellar Key") 1),
    (Entity.condition "Unlit" (.playerHolds (Key.ofName "Lantern") 1)).negate ]

def events : List Entity :=
  [ (((Entity.event "Dark Cellar").onlyWhen "In Cellar").onlyWhen "Unlit").andThen
      (.say "It is very dark down here. You wish you had a light."),
    (((Entity.event "Homecoming").onlyWhen "Has Key").onlyWhen "In Meadow").andThen
      (.endGame
        "You bring the cellar key back to the meadow. The miller will be pleased.") ]

def layout : Layout Unit := do
  StandardCommands.install
  (locations ++ exits ++ items).forM Layout.create
  placements.forM fun placement => Layout.place placement.1 placement.2.1 placement.2.2
  (chat :: pawns).forM Layout.create
  (conditions ++ events).forM Layout.create
  Layout.setPlayer "player"

def level : Level := ⟨"The Old Mill", layout⟩

end TextAdventure.OldMill
