import TextAdventure.Action.Help
import TextAdventure.Proofs.Action.Errands
import TextAdventure.Proofs.Action.Replies
import TextAdventure.Proofs.Rulebook.Entities
import TextAdventure.World.Change

/-!
# Effects and replies

Every effect and every reply leads a world to another with the same rulebook, and neither counts a
turn nor alters a dialog.
-/

namespace TextAdventure

/-- What becomes of a world within a turn. -/
structure World.LeadsTo (before after : World) : Prop where
  registry : before.registry.LeadsTo after.registry
  turns : after.turns = before.turns

namespace World.LeadsTo

theorem refl (world : World) : world.LeadsTo world :=
  ⟨.refl _, rfl⟩

theorem trans {first second third : World} (h : first.LeadsTo second)
    (hnext : second.LeadsTo third) : first.LeadsTo third :=
  ⟨h.registry.trans hnext.registry, hnext.turns.trans h.turns⟩

theorem withRegistry {world : World} {registry : Registry}
    (h : world.registry.LeadsTo registry) : world.LeadsTo { world with registry := registry } :=
  ⟨h, rfl⟩

end World.LeadsTo

/-- What becomes of a world as long as no option of a dialog is chosen. -/
structure World.PassesTo (before after : World) : Prop where
  registry : before.registry.PassesTo after.registry
  turns : after.turns = before.turns

namespace World.PassesTo

theorem leadsTo {before after : World} (h : before.PassesTo after) : before.LeadsTo after :=
  ⟨h.registry.toLeadsTo, h.turns⟩

theorem refl (world : World) : world.PassesTo world :=
  ⟨.refl _, rfl⟩

theorem trans {first second third : World} (h : first.PassesTo second)
    (hnext : second.PassesTo third) : first.PassesTo third :=
  ⟨h.registry.trans hnext.registry, hnext.turns.trans h.turns⟩

theorem withRegistry {world : World} {registry : Registry}
    (h : world.registry.PassesTo registry) : world.PassesTo { world with registry := registry } :=
  ⟨h, rfl⟩

/-! ## Effects -/

theorem activate (world : World) (name : String) : world.PassesTo (world.activate name) := by
  unfold World.activate activate?
  dsimp only
  split
  · exact .refl world
  · split
    · exact .refl world
    · exact ⟨.refl _, rfl⟩

theorem removeEntity (world : World) (key : Key) : world.PassesTo (world.removeEntity key) := by
  unfold World.removeEntity
  split
  · exact .refl world
  · split
    · exact ⟨.erase world.registry _, rfl⟩
    · exact .refl world

theorem movePawn (world : World) (pawn location : Key) :
    world.PassesTo (world.movePawn pawn location) := by
  unfold World.movePawn
  split
  · exact .refl world
  · exact withRegistry (.movePawn world.registry pawn location)

theorem changeWorld (world : World) (effect : Effect) :
    world.PassesTo (effect.changeWorld world) := by
  cases effect with
  | setStatus entity status value =>
      refine withRegistry (.modify _ _ (fun entity => ?_) (fun entity => ?_) _)
      · exact .setStatus entity status value
      · rfl
  | adjustStatus entity status delta =>
      exact withRegistry (.adjustStatus world.registry entity status delta)
  | clearStatus entity status =>
      refine withRegistry (.modify _ _ (fun entity => ?_) (fun entity => ?_) _)
      · exact .clearStatus entity status
      · rfl
  | movePawn pawn location => exact movePawn world pawn location
  | giveItem holder item quantity =>
      unfold Effect.changeWorld
      dsimp only
      split
      · exact .refl world
      next after hplace =>
        rw [Registry.eq_mapContainer_of_place hplace]
        exact withRegistry (.mapContainer world.registry _ _)
  | takeItem holder item quantity => exact withRegistry (.mapContainer world.registry _ _)
  | removeEntity entity => exact removeEntity world entity
  | enableCommand command => exact activate world command.text
  | disableCommand command => exact ⟨.refl _, rfl⟩
  | _ => exact .refl world

/-! ## Looking and travelling -/

theorem describeLocation (world : World) : world.PassesTo world.describeLocation.world := by
  rcases world_describeLocation_cases world with hsame | ⟨here, hvisited⟩
  · rw [hsame]
    exact .refl world
  · rw [hvisited]
    exact withRegistry (.adjustStatus world.registry here Entity.visitedStatus 1)

theorem examine (world : World) (operation : Operation) :
    world.PassesTo (world.examine operation).world := by
  rw [world_examine]
  exact .refl world

theorem travel (world : World) (destination : Option Key) :
    world.PassesTo (world.travel destination).world := by
  rcases world_travel_cases world destination with hsame | ⟨key, -, hmoved⟩
  · rw [hsame]
    exact .refl world
  · rw [hmoved]
    exact (withRegistry (.movePawn world.registry world.player key)).trans (describeLocation _)

theorem moveAlong (world : World) (operation : Operation) :
    world.PassesTo (world.moveAlong operation).world :=
  travel world _

theorem go (world : World) (operation : Operation) :
    world.PassesTo (world.go operation).world := by
  rcases world_go_cases world operation with hsame | ⟨suits, hgone⟩
  · rw [hsame]
    exact .refl world
  · rw [hgone]
    exact travel world _

/-! ## Carrying -/

theorem transfer {registry after : Registry} {source target item : Key} {quantity : UInt32}
    (h : registry.transfer? source target item quantity = some after) :
    registry.PassesTo after := by
  unfold Registry.transfer? at h
  split at h
  · cases h
  · split at h
    · cases h
    · split at h
      · cases h
      · cases h
        exact (Registry.PassesTo.mapContainer registry _ _).trans (.mapContainer _ _ _)

/-- An errand passes units between two containers, if it changes anything. -/
theorem errand (arithmetic : Arithmetic) (world : World) (errand : Errand) :
    world.PassesTo (errand.reply arithmetic world).world := by
  rcases Errand.world_reply_cases arithmetic world errand with hsame | hmoved
  · rw [hsame]
    exact .refl world
  · obtain ⟨after, source, target, item, hmoves, hworld⟩ := hmoved
    rw [hworld]
    exact withRegistry (transfer hmoves.transferred)

theorem get (arithmetic : Arithmetic) (world : World) (operation : Operation) :
    world.PassesTo (world.get arithmetic operation).world :=
  errand arithmetic world (.get operation)

theorem drop (world : World) (operation : Operation) :
    world.PassesTo (world.drop operation).world :=
  errand Arithmetic.binary64 world (.drop operation)

theorem put (world : World) (operation : Operation) : world.PassesTo (world.put operation).world :=
  errand Arithmetic.binary64 world (.put operation)

theorem takeStock (world : World) : world.PassesTo world.takeStock.world := by
  rw [world_takeStock]
  exact .refl world

end World.PassesTo

end TextAdventure
