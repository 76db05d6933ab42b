import TextAdventure.Level.OldMill
import TextAdventure.Proofs.Action.Conservation
import TextAdventure.Proofs.Rulebook.Runs

/-!
# The Old Mill as it is laid out

What the rules of the mill amount to: only the trapdoor leads to the cellar, the only thing that
comes of a dialog is that the trapdoor is revealed, and only the homecoming ends the game.  The
rules are about records that play leaves as they are.
-/

namespace TextAdventure

namespace Effect

def isRemark : Effect → Bool
  | say _ => true
  | _ => false

def isEnding : Effect → Bool
  | endGame _ => true
  | _ => false

end Effect

namespace OldMill

def meadow : Key := ⟨"meadow"⟩

def cellar : Key := ⟨"cellar"⟩

def places : List Key := [meadow, ⟨"mill"⟩, ⟨"loft"⟩, cellar]

example : places = locations.map Entity.key := by decide +kernel

def trapdoor : Key := ⟨"trapdoor"⟩

def cellarKey : Key := ⟨"cellar key"⟩

def player : Key := ⟨"player"⟩

def hasKey : Key := ⟨"has key"⟩

def inMeadow : Key := ⟨"in meadow"⟩

/-- What the miller does when he tells about the trapdoor. -/
def revelation : Effect := .setStatus trapdoor Entity.hiddenStatus 0

/-- What every entity of the mill is like, as far as play leaves it alone. -/
structure Complies (entity : Entity) : Prop where
  builtIn : ∀ command ∈ entity.kind.command?, command.behavior.isBuiltIn = true
  exit : ∀ exit ∈ entity.kind.exit?,
    exit.destination ∈ places ∧ (exit.destination = cellar → entity.key = trapdoor)
  dialog : ∀ dialog ∈ entity.kind.dialog?, ∀ option ∈ dialog.options,
    ∀ effect ∈ option.effects, effect = revelation
  event : ∀ event ∈ entity.kind.event?, ∀ effect ∈ event.effects,
    effect.isRemark = true ∨
      effect.isEnding = true ∧ hasKey ∈ event.conditions ∧ inMeadow ∈ event.conditions
  condition : ∀ condition ∈ entity.kind.condition?,
    (entity.key = hasKey → condition = ⟨.playerHolds cellarKey 1, false⟩) ∧
      (entity.key = inMeadow → condition = ⟨.playerAt meadow, false⟩)

instance (entity : Entity) : Decidable (Complies entity) :=
  decidable_of_decidable_of_iff
    (p := (∀ command ∈ entity.kind.command?, command.behavior.isBuiltIn = true) ∧
      (∀ exit ∈ entity.kind.exit?,
        exit.destination ∈ places ∧ (exit.destination = cellar → entity.key = trapdoor)) ∧
      (∀ dialog ∈ entity.kind.dialog?, ∀ option ∈ dialog.options,
        ∀ effect ∈ option.effects, effect = revelation) ∧
      (∀ event ∈ entity.kind.event?, ∀ effect ∈ event.effects,
        effect.isRemark = true ∨
          effect.isEnding = true ∧ hasKey ∈ event.conditions ∧ inMeadow ∈ event.conditions) ∧
      ∀ condition ∈ entity.kind.condition?,
        (entity.key = hasKey → condition = ⟨.playerHolds cellarKey 1, false⟩) ∧
          (entity.key = inMeadow → condition = ⟨.playerAt meadow, false⟩))
    ⟨fun h => ⟨h.1, h.2.1, h.2.2.1, h.2.2.2.1, h.2.2.2.2⟩,
      fun h => ⟨h.builtIn, h.exit, h.dialog, h.event, h.condition⟩⟩

theorem Complies.leadsTo {before after : Entity} (h : Complies before)
    (hleads : before.LeadsTo after) : Complies after where
  builtIn := by
    rw [hleads.kind.command?_eq]
    exact h.builtIn
  exit := by
    rw [hleads.kind.exit?_eq, hleads.key]
    exact h.exit
  dialog := by
    intro dialog hdialog option hoption
    obtain ⟨whole, hwhole, hleft⟩ := hleads.kind.exists_dialog? hdialog
    exact h.dialog whole hwhole option (hleft.subset hoption)
  event := by
    rw [hleads.kind.event?_eq]
    exact h.event
  condition := by
    rw [hleads.kind.condition?_eq, hleads.key]
    exact h.condition

/-! ## The opening -/

/-- What the level places, as stacks. -/
def placedStacks : List Stack :=
  placements.map fun placement => ⟨Key.ofName placement.1, placement.2.2⟩

/-- The units of an item that the level places. -/
def placed (item : Key) : Nat :=
  Container.tally (Container.unit item) placedStacks

/-- What is found by going through a draft of the level once. -/
structure IsLaidOut (result : Except Fault Unit) (world : World) : Prop where
  completes : result.toOption = some ()
  rules : ∀ entity ∈ world.registry.entities, Complies entity
  player : world.player = OldMill.player
  place : world.playerLocation? = some meadow
  tidy : world.registry.IsTidy
  contents : (world.registry.keys.flatMap (Scope.stacksOf world.registry)).Perm placedStacks
  key : world.registry.held cellar cellarKey = 1
  alone : ∀ holder ∈ world.registry.keys, holder ≠ cellar →
    world.registry.held holder cellarKey = 0

instance (result : Except Fault Unit) (world : World) : Decidable (IsLaidOut result world) :=
  decidable_of_decidable_of_iff
    (p := result.toOption = some () ∧ (∀ entity ∈ world.registry.entities, Complies entity) ∧
      world.player = OldMill.player ∧
      world.playerLocation? = some meadow ∧ world.registry.IsTidy ∧
      (world.registry.keys.flatMap (Scope.stacksOf world.registry)).Perm placedStacks ∧
      world.registry.held cellar cellarKey = 1 ∧
      ∀ holder ∈ world.registry.keys, holder ≠ cellar →
        world.registry.held holder cellarKey = 0)
    ⟨fun h => ⟨h.1, h.2.1, h.2.2.1, h.2.2.2.1, h.2.2.2.2.1, h.2.2.2.2.2.1, h.2.2.2.2.2.2.1,
        h.2.2.2.2.2.2.2⟩,
      fun h => ⟨h.completes, h.rules, h.player, h.place, h.tidy, h.contents, h.key, h.alone⟩⟩

/-- The level is laid out to its end. -/
theorem isLaidOut : IsLaidOut OldMill.level.draft.1 OldMill.level.draft.2.world := by
  decide +kernel

end OldMill

end TextAdventure
