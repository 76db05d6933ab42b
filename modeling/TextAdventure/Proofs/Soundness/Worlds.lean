import TextAdventure.Proofs.Registry
import TextAdventure.Proofs.Soundness.Entities
import TextAdventure.World.Change

/-!
# Sound worlds

A world is good when its entities are, its player is a registered pawn, and its active list
has every key once and only keys of registered commands.  It is sound when it is also made
of standard entities.  Every effect that names normal keys keeps a world sound.
-/

namespace TextAdventure.World

/-- A world that can be played.  That no two entities share a key is part of every registry. -/
structure IsGood (world : World) : Prop where
  entities : ∀ entity ∈ world.registry.entities, entity.IsGood
  player : world.playerPawn?.isSome = true
  activeOnce : world.active.Nodup
  activeCommands : ∀ key ∈ world.active, (world.registry.command? key).isSome = true

instance (world : World) : Decidable world.IsGood :=
  decidable_of_decidable_of_iff
    (p := (∀ entity ∈ world.registry.entities, entity.IsGood) ∧
      world.playerPawn?.isSome = true ∧ world.active.Nodup ∧
      ∀ key ∈ world.active, (world.registry.command? key).isSome = true)
    ⟨fun h => ⟨h.1, h.2.1, h.2.2.1, h.2.2.2⟩,
      fun h => ⟨h.entities, h.player, h.activeOnce, h.activeCommands⟩⟩

def IsStandard (world : World) : Prop :=
  ∀ entity ∈ world.registry.entities, entity.kind.IsStandard

structure IsSound (world : World) : Prop where
  good : world.IsGood
  standard : world.IsStandard

instance (world : World) : Decidable world.IsSound :=
  decidable_of_decidable_of_iff
    (p := world.IsGood ∧ ∀ entity ∈ world.registry.entities, entity.kind.IsStandard)
    ⟨fun h => ⟨h.1, h.2⟩, fun h => ⟨h.good, h.standard⟩⟩

namespace IsSound

variable {world : World}

theorem entities (h : world.IsSound) : ∀ entity ∈ world.registry.entities, entity.IsSound := by
  intro entity hentity
  exact ⟨h.good.entities entity hentity, h.standard entity hentity⟩

theorem standard_of_get? (h : world.IsSound) {key : Key} {entity : Entity}
    (hget : world.registry.get? key = some entity) : entity.kind.IsStandard :=
  h.standard entity (Registry.mem_of_get? hget)

theorem tidy_of_container? (h : world.IsSound) {key : Key} {container : Container}
    (hcontainer : world.registry.container? key = some container) :
    Container.IsTidy container.contents := by
  obtain ⟨entity, hget, hcontainer⟩ := Option.bind_eq_some_iff.mp hcontainer
  exact (h.good.entities entity (Registry.mem_of_get? hget)).tidy container hcontainer

theorem event_effects (h : world.IsSound) {key : Key} {event : Event}
    (hevent : world.registry.event? key = some event) :
    ∀ effect ∈ event.effects, effect.IsNormal := by
  obtain ⟨entity, hget, hkind⟩ := Option.bind_eq_some_iff.mp hevent
  have hstandard := h.standard_of_get? hget
  rw [Kind.eq_event_of_event? hkind] at hstandard
  exact hstandard.event_effects

theorem dialog_effects (h : world.IsSound) {key : Key} {dialog : Dialog}
    (hdialog : world.registry.dialog? key = some dialog) {option : DialogOption}
    (hoption : option ∈ dialog.options) : ∀ effect ∈ option.effects, effect.IsNormal := by
  obtain ⟨entity, hget, hkind⟩ := Option.bind_eq_some_iff.mp hdialog
  have hstandard := h.standard_of_get? hget
  rw [Kind.eq_dialog_of_dialog? hkind] at hstandard
  exact hstandard.dialog_effects hoption

theorem isBuiltIn (h : world.IsSound) {key : Key} {command : Command}
    (hcommand : world.registry.command? key = some command) :
    command.behavior.isBuiltIn = true := by
  obtain ⟨entity, hget, hkind⟩ := Option.bind_eq_some_iff.mp hcommand
  exact (h.standard_of_get? hget).builtIn command hkind

/-! ## Other registries for the same world -/

theorem withRegistry (h : world.IsSound) {registry : Registry}
    (hentities : ∀ entity ∈ registry.entities, entity.IsSound)
    (hplayer : (registry.pawn? world.player).isSome = true)
    (hactive : ∀ key ∈ world.active, (registry.command? key).isSome = true) :
    { world with registry := registry }.IsSound where
  good := ⟨fun entity hentity => (hentities entity hentity).good, hplayer, h.good.activeOnce,
    hactive⟩
  standard entity hentity := (hentities entity hentity).standard

theorem modify (h : world.IsSound) (key : Key) {edit : Entity → Entity}
    (hgentle : Entity.IsGentle edit) (hedit : ∀ entity, (edit entity).key = entity.key) :
    { world with registry := world.registry.modify key edit hedit }.IsSound := by
  apply h.withRegistry
  · exact Registry.forall_mem_modify h.entities key hedit hgentle.sound
  · exact (Registry.isSome_view_modify Kind.pawn? _ _ _ hedit hgentle.pawn).trans h.good.player
  · intro other hother
    exact (Registry.isSome_view_modify Kind.command? _ _ _ hedit hgentle.command).trans
      (h.good.activeCommands other hother)

theorem adjustStatus (h : world.IsSound) (key : Key) (status : String) (delta : Int64) :
    { world with registry := world.registry.adjustStatus key status delta }.IsSound :=
  h.modify key (Entity.isGentle_adjustStatus status delta) fun _ => rfl

theorem mapContainer (h : world.IsSound) (key : Key) {f : Container → Container}
    (hf : ∀ container, Container.IsTidy container.contents →
      Container.IsTidy (f container).contents) :
    { world with registry := world.registry.mapContainer key f }.IsSound :=
  h.modify key (Entity.isGentle_mapContainer hf) fun _ => rfl

theorem movePawnTo (h : world.IsSound) (pawn : Key) {location : Key}
    (hlocation : location.IsNormal) :
    { world with registry := world.registry.movePawn pawn location }.IsSound :=
  h.modify pawn (Entity.isGentle_movePawn hlocation) fun _ => rfl

theorem dropOption (h : world.IsSound) (dialog : Key) (index : Nat) :
    { world with registry := world.registry.dropOption dialog index }.IsSound :=
  h.modify dialog (Entity.isGentle_dropOption index) fun _ => rfl

/-! ## The active list -/

theorem activate (h : world.IsSound) (name : String) : (world.activate name).IsSound := by
  unfold World.activate activate?
  dsimp only
  split
  · exact h
  next command hcommand =>
    split
    · exact h
    next hfresh =>
      refine ⟨⟨h.good.entities, h.good.player, ?_, ?_⟩, h.standard⟩
      · refine List.nodup_append.mpr ⟨h.good.activeOnce, by simp, ?_⟩
        rintro key hkey other hother rfl
        rw [List.mem_singleton.mp hother] at hkey
        exact hfresh hkey
      · intro key hkey
        rcases List.mem_append.mp hkey with hold | hnew
        · exact h.good.activeCommands key hold
        · rw [List.mem_singleton.mp hnew]
          exact Option.isSome_iff_exists.mpr ⟨command, hcommand⟩

theorem deactivate (h : world.IsSound) (name : String) : (world.deactivate name).IsSound := by
  refine ⟨⟨h.good.entities, h.good.player, ?_, ?_⟩, h.standard⟩
  · exact h.good.activeOnce.sublist List.filter_sublist
  · intro key hkey
    exact h.good.activeCommands key (List.mem_filter.mp hkey).1

/-! ## Effects -/

/-- A normal key names the same entity as its text does, so that the player is spared and the
activation of what is removed goes with it. -/
theorem removeEntity (h : world.IsSound) {key : Key} (hkey : key.IsNormal) :
    (world.removeEntity key).IsSound := by
  unfold World.removeEntity
  split
  · exact h
  next hother =>
    split
    · have hplayer : ((world.registry.erase key).pawn? world.player).isSome = true := by
        rw [Registry.pawn?, Registry.get?_erase _ (Ne.symm hother)]
        exact h.good.player
      have hactive : ∀ other ∈ (world.deactivate key.text).active,
          ((world.registry.erase key).command? other).isSome = true := by
        intro other hmem
        obtain ⟨hbefore, hne⟩ := List.mem_filter.mp hmem
        rw [hkey] at hne
        rw [Registry.command?, Registry.get?_erase _ (of_decide_eq_true hne)]
        exact h.good.activeCommands other hbefore
      have hentities : ∀ entity ∈ (world.registry.erase key).entities, entity.IsSound := by
        intro entity hentity
        exact h.entities entity (List.mem_filter.mp hentity).1
      rw [hkey]
      exact (h.deactivate key.text).withRegistry hentities hplayer hactive
    · exact h

theorem movePawn (h : world.IsSound) (pawn : Key) {location : Key}
    (hlocation : location.IsNormal) : (world.movePawn pawn location).IsSound := by
  unfold World.movePawn
  split
  · exact h
  · exact h.movePawnTo pawn hlocation

theorem place (h : world.IsSound) {item holder : String} {quantity : UInt32}
    {after : Registry} (hplace : world.registry.place item holder quantity = .ok after) :
    { world with registry := after }.IsSound := by
  rw [Registry.eq_mapContainer_of_place hplace]
  apply h.mapContainer
  intro container htidy
  exact htidy.add _ _

theorem changeWorld (h : world.IsSound) {effect : Effect} (heffect : effect.IsNormal) :
    (effect.changeWorld world).IsSound := by
  cases effect with
  | setStatus entity status value =>
      exact h.modify entity (Entity.isGentle_setStatus status value) fun _ => rfl
  | adjustStatus entity status delta => exact h.adjustStatus entity status delta
  | clearStatus entity status =>
      exact h.modify entity (Entity.isGentle_clearStatus status) fun _ => rfl
  | movePawn pawn location => exact h.movePawn pawn (heffect location (by simp [Effect.keys]))
  | giveItem holder item quantity =>
      unfold Effect.changeWorld
      dsimp only
      split
      · exact h
      next after hplace => exact h.place hplace
  | takeItem holder item quantity =>
      apply h.mapContainer
      intro container htidy
      cases hlighter : container.remove? item quantity with
      | none => exact htidy
      | some lighter => exact htidy.remove? hlighter
  | removeEntity entity => exact h.removeEntity (heffect entity (by simp [Effect.keys]))
  | enableCommand command => exact h.activate command.text
  | disableCommand command => exact h.deactivate command.text
  | _ => exact h

end IsSound

end TextAdventure.World
