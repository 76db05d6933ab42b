import TextAdventure.Proofs.Action.Conservation
import TextAdventure.Proofs.Container.Stacks

/-!
# Exchanges of units

An errand leaves the world as it is, or it exchanges units of one item between two containers.  The
item's stack at the source loses the units and disappears with the last of them, its stack at the
target grows by them as far as a stack can, and nothing else changes.  Only a put has one container
for its source and its target: when the player is a thing and something is put into it.
-/

namespace TextAdventure

/-- What becomes of an entity in an exchange: at most its container changes, and only when it is
the source or the target. -/
inductive Entity.Exchanged (source target item : Key) (count : Nat) : Entity → Entity → Prop where
  | gives {entity : Entity} {contents lighter : List Stack} (hsource : entity.key = source)
      (htarget : entity.key ≠ target) (hcontainer : entity.container = some ⟨contents⟩)
      (hloses : Container.Loses item count contents lighter) :
      Exchanged source target item count entity { entity with container := some ⟨lighter⟩ }
  | receives {entity : Entity} {contents fuller : List Stack} (hsource : entity.key ≠ source)
      (htarget : entity.key = target) (hcontainer : entity.container = some ⟨contents⟩)
      (hgains : Container.Gains item count contents fuller) :
      Exchanged source target item count entity { entity with container := some ⟨fuller⟩ }
  | refills {entity : Entity} {contents between later : List Stack}
      (hsource : entity.key = source) (htarget : entity.key = target)
      (hcontainer : entity.container = some ⟨contents⟩)
      (hloses : Container.Loses item count contents between)
      (hgains : Container.Gains item count between later) :
      Exchanged source target item count entity { entity with container := some ⟨later⟩ }
  | stays {entity : Entity} (hsource : entity.key ≠ source) (htarget : entity.key ≠ target) :
      Exchanged source target item count entity entity

theorem Entity.mapContainer_of_container {entity : Entity} {container : Container}
    (h : entity.container = some container) (f : Container → Container) :
    entity.mapContainer f = { entity with container := some (f container) } := by
  rw [mapContainer, h, Option.map_some]

namespace Registry

variable {registry after : Registry} {source target item : Key} {quantity : UInt32}

/-- So many units of an item are exchanged between two registered holders, and nothing else is
different. -/
structure Exchanged (before after : Registry) (source target item : Key) (count : Nat) : Prop where
  source_mem : source ∈ before.keys
  target_mem : target ∈ before.keys
  entities : List.Forall₂ (Entity.Exchanged source target item count) before.entities
    after.entities

theorem container_of_container? {container : Container} {entity : Entity}
    (h : registry.container? entity.key = some container) (hentity : entity ∈ registry.entities) :
    entity.container = some container := by
  rwa [container?, get?_of_mem hentity] at h

theorem exchanged_transfer? (h : registry.transfer? source target item quantity = some after)
    (hquantity : quantity ≠ 0) :
    registry.Exchanged after source target item quantity.toNat := by
  obtain ⟨container, lighter, other, hsource, hlighter, htarget, rfl⟩ :=
    transfer?_eq_some_iff.mp h
  refine ⟨mem_keys_of_container? hsource, mem_keys_of_container? htarget, ?_⟩
  obtain ⟨rest, hrest, rfl⟩ := Option.map_eq_some_iff.mp hlighter
  have hloses := Container.loses_of_removeFrom? hquantity hrest
  have hgains := fun container => Container.gains_add hquantity container item
  simp only [mapContainer, modify, List.map_map, List.forall₂_map_right_iff, List.forall₂_same,
    Function.comp_apply]
  intro entity hentity
  have hcontainer : ∀ {container}, registry.container? entity.key = some container →
      entity.container = some container := fun hfound => container_of_container? hfound hentity
  unfold editEntry
  by_cases hgiver : entity.key = source
  · have hgives := hcontainer (hgiver ▸ hsource)
    rw [if_pos hgiver, Entity.mapContainer_of_container hgives]
    split
    next hreceiver => exact .refills hgiver hreceiver hgives hloses (hgains _)
    next hother => exact .gives hgiver hother hgives hloses
  · rw [if_neg hgiver]
    split
    next hreceiver =>
      have hreceives := hcontainer (hreceiver ▸ htarget)
      rw [Entity.mapContainer_of_container hreceives]
      exact .receives hgiver hreceiver hreceives (hgains _)
    next hother => exact .stays hgiver hother

end Registry

namespace Errand

variable {arithmetic : Arithmetic} {world : World} {errand : Errand} {after : Registry}
  {source target item : Key}

/-- What has happened when an errand has been carried out. -/
structure CarriedOut (arithmetic : Arithmetic) (world : World) (errand : Errand) (after : Registry)
    (source target item : Key) : Prop where
  source_eq : errand.source? world = some source
  target_eq : errand.target? world = some target
  item_eq : errand.operation.direct = some item
  positive : 0 < errand.requested
  exchanged : world.registry.Exchanged after source target item
    (min errand.requested.toNat maxCount)
  /-- What something is put into is a thing. -/
  isItem : ∀ operation, errand = put operation →
    ∃ record, world.registry.item? target = some record
  /-- Only by a put, and only into the player, do units come back to where they were. -/
  apart : source = target → target = world.player ∧ ∃ operation, errand = put operation
  /-- A get leaves the player within its limit. -/
  within : errand.isGet = true → ∃ pawn, after.pawn? world.player = some pawn ∧
    arithmetic.exceeds (after.carriedWeight arithmetic world.player)
      (arithmetic.ofWeight pawn.maxWeight) = false

/-! ## All or nothing -/

theorem toNat_count_eq_min (hpositive : 0 < errand.requested) :
    errand.count.toNat = min errand.requested.toNat maxCount :=
  toNat_clampCount hpositive.le

theorem count_ne_zero (hpositive : 0 < errand.requested) : errand.count ≠ 0 := by
  intro hzero
  have hcount := toNat_count_eq_min hpositive
  have hmax : maxCount = 4294967295 := rfl
  rw [hzero, UInt32.toNat_zero] at hcount
  omega

theorem Moves.carriedOut {text : String}
    (h : errand.Moves arithmetic world after source target item)
    (hhandling : errand.handling arithmetic world = .transfer after text)
    (hplace : world.playerLocation? ≠ some world.player) :
    errand.CarriedOut arithmetic world after source target item := by
  have hitem : ∀ operation, errand = put operation →
      ∃ record, world.registry.item? target = some record := by
    rintro operation rfl
    obtain ⟨other, record, hindirect, -, hrecord⟩ := exists_target_of_ofPut hhandling
    cases h.target_eq.symm.trans hindirect
    exact ⟨record, hrecord⟩
  refine ⟨h.source_eq, h.target_eq, h.item_eq, h.positive, ?_, hitem, ?_, ?_⟩
  · rw [← toNat_count_eq_min h.positive]
    exact Registry.exchanged_transfer? h.transferred (count_ne_zero h.positive)
  · rintro rfl
    cases errand with
    | get operation => exact absurd (h.source_eq.trans h.target_eq.symm) hplace
    | drop operation => exact absurd (h.target_eq.trans h.source_eq.symm) hplace
    | put operation => exact ⟨(Option.some.inj h.source_eq).symm, operation, rfl⟩
  · intro hget
    obtain ⟨pawn, hpawn, hwithin⟩ := h.within hget
    exact ⟨pawn, (Registry.pawn?_transfer? h.transferred world.player).trans hpawn, hwithin⟩

/-- While the player is not the place where it is, an errand leaves the world as it is or exchanges
the units it asks for, and changes nothing else. -/
theorem stays_or_carriedOut (arithmetic : Arithmetic)
    (hplace : world.playerLocation? ≠ some world.player) (errand : Errand) :
    (errand.reply arithmetic world).world = world ∨
      ∃ after source target item,
        errand.CarriedOut arithmetic world after source target item ∧
          (errand.reply arithmetic world).world = { world with registry := after } := by
  have hends := ends_handling arithmetic world errand
  rw [reply_eq_carryOut]
  generalize hhandling : errand.handling arithmetic world = handling at hends ⊢
  cases hends with
  | refused text => exact Or.inl rfl
  | moved text hmoves => exact Or.inr ⟨_, _, _, _, hmoves.carriedOut hhandling hplace, rfl⟩

/-- Asked for more coins than there can be, the miser drops all it has beside the one that lies
there. -/
theorem stays_or_carriedOut_vault :
    World.vault.playerLocation? ≠ some World.vault.player ∧
      ∃ after, (droppingCoins 5000000000).CarriedOut Arithmetic.binary64 World.vault after
        ⟨"miser"⟩ ⟨"vault"⟩ ⟨"coin"⟩ := by
  have hplace : World.vault.playerLocation? ≠ some World.vault.player := by decide +kernel
  refine ⟨hplace, ?_⟩
  rcases stays_or_carriedOut Arithmetic.binary64 hplace (droppingCoins 5000000000) with
    hsame | ⟨after, source, target, item, hcarried, -⟩
  · exact absurd hsame (by decide +kernel)
  · have hvault : (droppingCoins 5000000000).target? World.vault = some ⟨"vault"⟩ := by
      decide +kernel
    cases hcarried.source_eq
    cases hcarried.item_eq
    cases hvault.symm.trans hcarried.target_eq
    exact ⟨after, hcarried⟩

end Errand

/-! ## A thing that carries itself -/

/-- An apple, and a golem that carries two of them and itself. -/
def golemThings : List Entity :=
  [ Entity.item "Apple" Weight.zero,
    (Entity.item "Golem" Weight.zero).withContainer ⟨[⟨⟨"apple"⟩, 2⟩, ⟨⟨"golem"⟩, 1⟩]⟩ ]

def World.golem : World where
  registry := Registry.ofList golemThings
  active := []
  player := ⟨"golem"⟩
  turns := 0

namespace Errand

def fillingGolem : Errand :=
  .put { Operation.bare "put" with
    quantity := 2, directPhrase := ⟨["apple"]⟩, direct := some ⟨"apple"⟩,
    indirectPhrase := ⟨["golem"]⟩, indirect := some ⟨"golem"⟩ }

/-- The golem puts its apples into itself, which brings them behind itself in its only container. -/
theorem not_exchanged_fillingGolem :
    World.golem.registry.IsTidy ∧
      World.golem.playerLocation? ≠ some World.golem.player ∧
      (fillingGolem.reply Arithmetic.binary64 World.golem).world.registry ≠ World.golem.registry ∧
      ¬ ∃ source target item count, source ≠ target ∧
        World.golem.registry.Exchanged
          (fillingGolem.reply Arithmetic.binary64 World.golem).world.registry
          source target item count := by
  refine ⟨by decide +kernel, by decide +kernel, by decide +kernel, ?_⟩
  rintro ⟨source, target, item, count, hne, h⟩
  have hkeys : World.golem.registry.keys = [⟨"apple"⟩, ⟨"golem"⟩] := by decide +kernel
  obtain ⟨hsource, htarget, hentities⟩ := h
  have hentries : World.golem.registry.entities = golemThings := by decide +kernel
  rw [hkeys] at hsource htarget
  rw [hentries] at hentities
  have hkey : (Entity.item "Apple" Weight.zero).key = ⟨"apple"⟩ := by decide +kernel
  cases hentities with
  | cons happle _ =>
      -- The apple has no container, so that only the golem is left to give and to receive.
      cases happle with
      | stays hgives hreceives =>
          rw [hkey] at hgives hreceives
          have hgolem : ∀ holder : Key, holder ∈ [⟨"apple"⟩, (⟨"golem"⟩ : Key)] →
              ⟨"apple"⟩ ≠ holder → holder = ⟨"golem"⟩ := fun holder hholder hother =>
            List.mem_singleton.mp ((List.mem_cons.mp hholder).resolve_left hother.symm)
          exact hne ((hgolem source hsource hgives).trans (hgolem target htarget hreceives).symm)

end Errand

end TextAdventure
