import TextAdventure.Action.Carry
import TextAdventure.Action.Travel
import TextAdventure.Proofs.Registry

/-!
# What replies make of the world

Describing a location counts a visit, and travelling moves the player and then describes where it
is; examining a thing and taking stock leave the world as it is.
-/

namespace TextAdventure.World

theorem playerLocation?_eq (world : World) :
    world.playerLocation? = (world.registry.pawn? world.player).map Pawn.location := rfl

/-! ## Looking -/

/-- Where there is something to describe, the visit is counted. -/
theorem world_describeLocation_cases (world : World) :
    world.describeLocation.world = world ∨
      ∃ here, world.describeLocation.world =
        { world with registry := world.registry.adjustStatus here Entity.visitedStatus 1 } := by
  unfold describeLocation
  split
  · exact Or.inl rfl
  · split
    · exact Or.inl rfl
    · exact Or.inr ⟨_, rfl⟩

/-- The player is the same pawn after its place has been described. -/
theorem playerPawn?_describeLocation (world : World) :
    world.describeLocation.world.playerPawn? = world.playerPawn? := by
  rcases world_describeLocation_cases world with hsame | ⟨here, hvisited⟩
  · rw [hsame]
  · rw [hvisited]
    have hkey (entity : Entity) :
        (entity.adjustStatus Entity.visitedStatus 1).key = entity.key := rfl
    exact Registry.view_modify_of_kind Kind.pawn? world.registry here world.player hkey
      fun _ => rfl

theorem world_examine (world : World) (operation : Operation) :
    (world.examine operation).world = world := by
  unfold examine
  split
  · rfl
  · dsimp only
    split
    · rfl
    · split
      · rfl
      · split
        · rfl
        · rfl

theorem world_takeStock (world : World) : world.takeStock.world = world := by
  unfold takeStock
  extract_lets carried
  split
  · rfl
  · rfl

/-! ## Travelling -/

theorem world_travel_cases (world : World) (destination : Option Key) :
    (world.travel destination).world = world ∨
      ∃ key, destination = some key ∧
        (world.travel destination).world =
          { world with
            registry := world.registry.movePawn world.player key }.describeLocation.world := by
  unfold travel
  dsimp only
  split
  · exact Or.inl rfl
  · split
    · exact Or.inl rfl
    · exact Or.inr ⟨_, rfl, rfl⟩

theorem world_go_cases (world : World) (operation : Operation) :
    (world.go operation).world = world ∨
      ∃ suits, (world.go operation).world = (world.travel (world.exitWhere suits)).world := by
  unfold go
  generalize (if operation.directPhrase.isEmpty then operation.indirectPhrase
    else operation.directPhrase) = phrase
  dsimp only
  split
  · exact Or.inl rfl
  · exact Or.inr ⟨_, rfl⟩

/-- Where the player is taken, an exit leads that shows where it is. -/
theorem exists_of_exitWhere {world : World} {suits : Entity → Exit → Bool} {destination : Key}
    (h : world.exitWhere suits = some destination) :
    ∃ here, world.playerLocation? = some here ∧
      ∃ pair ∈ Scope.visibleExits world.registry here, pair.2.destination = destination := by
  obtain ⟨here, hhere, hexit⟩ := Option.bind_eq_some_iff.mp h
  obtain ⟨pair, hfind, hdestination⟩ := Option.map_eq_some_iff.mp hexit
  exact ⟨here, hhere, pair, List.mem_of_find?_eq_some hfind, hdestination⟩

end TextAdventure.World
