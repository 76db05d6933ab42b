import Mathlib.Algebra.BigOperators.Group.Finset.Basic
import Mathlib.Algebra.BigOperators.Group.Finset.Piecewise
import Mathlib.Algebra.Order.BigOperators.Group.List
import Mathlib.Algebra.Order.Ring.Nat
import TextAdventure.Proofs.Action.Errands

/-!
# Conservation of units

An errand that moves units should move the number asked for, and the units of every item should
be as many afterwards as before.  Among tidy containers this holds exactly of the errands that
do not overflow: a number beyond the largest count is cut down to it before it is compared with
what is held, and a stack that would grow beyond the largest count stays there.
-/

namespace TextAdventure

theorem toNat_clampCount {quantity : Int} (h : 0 ≤ quantity) :
    (clampCount quantity).toNat = min quantity.toNat maxCount := by
  have hsize : UInt32.size = 4294967296 := rfl
  rw [clampCount, maxCount]
  split
  next hfits => rw [UInt32.toNat_ofNat_of_lt' (by omega)]; omega
  next hlarge => rw [UInt32.toNat_ofNat_of_lt' (by omega)]; omega

namespace Registry

/-- Every container has one stack of each item that it holds, and no stack is empty. -/
def IsTidy (registry : Registry) : Prop :=
  ∀ key ∈ registry.keys, Container.IsTidy (Scope.stacksOf registry key)

instance (registry : Registry) : Decidable registry.IsTidy :=
  inferInstanceAs (Decidable (∀ key ∈ registry.keys,
    Container.IsTidy (Scope.stacksOf registry key)))

/-- The units of an item in all containers together. -/
def units (registry : Registry) (item : Key) : Nat :=
  (registry.keys.map fun key =>
    Container.tally (Container.unit item) (Scope.stacksOf registry key)).sum

/-- So many units of an item have left the source for the target, and no others have moved. -/
structure HasMoved (before after : Registry) (source target item : Key) (count : Nat) : Prop where
  enough : count ≤ (before.held source item).toNat
  balance : ∀ holder other,
    (after.held holder other).toNat + (if holder = source ∧ other = item then count else 0) =
      (before.held holder other).toNat + (if holder = target ∧ other = item then count else 0)

variable {registry after : Registry} {source target item : Key} {quantity : UInt32}

theorem IsTidy.isTidy_stacksOf (h : registry.IsTidy) (key : Key) :
    Container.IsTidy (Scope.stacksOf registry key) := by
  by_cases hkey : key ∈ registry.keys
  · exact h key hkey
  · rw [Scope.stacksOf, container?, get?_eq_none_iff.mpr hkey]
    exact Container.isTidy_nil

theorem IsTidy.transfer? (h : registry.IsTidy) {source target item : Key} {quantity : UInt32}
    (htransfer : registry.transfer? source target item quantity = some after) : after.IsTidy := by
  obtain ⟨between, hpasses⟩ := exists_passes htransfer
  exact fun key _ => hpasses.isTidy_later h.isTidy_stacksOf key

theorem held_eq_zero_of_notMem_keys {holder : Key} (h : holder ∉ registry.keys) (item : Key) :
    registry.held holder item = 0 := by
  rw [Registry.held, container?, get?_eq_none_iff.mpr h]
  rfl

/-- One container has no more units than all of them together. -/
theorem IsTidy.held_le_units (h : registry.IsTidy) (holder item : Key) :
    (registry.held holder item).toNat ≤ registry.units item := by
  by_cases hholder : holder ∈ registry.keys
  · rw [held_eq_quantityIn, ← Container.tally_unit (h holder hholder).distinct, units]
    exact List.le_sum_of_mem (List.mem_map_of_mem hholder)
  · rw [held_eq_zero_of_notMem_keys hholder]
    exact Nat.zero_le _

/-- The target has room when it is the source or when its stack does not overflow. -/
theorem room_of_passes {between : Key → List Stack} (htidy : registry.IsTidy)
    (hpasses : Passes (Scope.stacksOf registry) between (Scope.stacksOf after) source target item
      quantity)
    (hroom : source = target ∨ (registry.held target item).toNat + quantity.toNat ≤ maxCount) :
    (Container.quantityIn item (between target)).toNat + quantity.toNat ≤ maxCount := by
  by_cases hsame : source = target
  · subst hsame
    have hbetween := hpasses.tally_between (Container.unit item) source
    rw [if_pos rfl, Container.tally_unit (htidy.isTidy_stacksOf source).distinct,
      Container.tally_unit (hpasses.isTidy_between htidy.isTidy_stacksOf source).distinct,
      Nat.nsmul_eq_mul, Container.mul_unit, if_pos rfl] at hbetween
    rw [hbetween]
    exact toNat_le_maxCount _
  · rw [hpasses.between_eq target (Ne.symm hsame), ← held_eq_quantityIn]
    exact hroom.resolve_left hsame

/-- A transfer with room for the units conserves every item. -/
theorem units_transfer? (htidy : registry.IsTidy)
    (h : registry.transfer? source target item quantity = some after)
    (hroom : source = target ∨ (registry.held target item).toNat + quantity.toNat ≤ maxCount)
    (other : Key) : after.units other = registry.units other := by
  obtain ⟨between, hpasses⟩ := exists_passes h
  have hmoved := hpasses.tally_eq (room_of_passes htidy hpasses hroom) (Container.unit other)
  obtain ⟨container, _, middle, hsource, -, htarget, -⟩ := transfer?_eq_some_iff.mp h
  have hsum := Finset.sum_congr rfl fun key (_ : key ∈ registry.keys.toFinset) => hmoved key
  rw [Finset.sum_add_distrib, Finset.sum_add_distrib, Finset.sum_ite_eq', Finset.sum_ite_eq',
    if_pos (List.mem_toFinset.mpr (mem_keys_of_container? hsource)),
    if_pos (List.mem_toFinset.mpr (mem_keys_of_container? htarget))] at hsum
  have hdistinct : registry.keys.Nodup := registry.distinct
  rw [units, units, keys_transfer? h, ← List.sum_toFinset _ hdistinct,
    ← List.sum_toFinset _ hdistinct]
  exact Nat.add_right_cancel hsum

/-- A transfer with room for the units moves them, and only them. -/
theorem hasMoved_transfer? (htidy : registry.IsTidy)
    (h : registry.transfer? source target item quantity = some after)
    (hroom : source = target ∨ (registry.held target item).toNat + quantity.toNat ≤ maxCount)
    (henough : quantity ≤ registry.held source item) :
    registry.HasMoved after source target item quantity.toNat := by
  obtain ⟨between, hpasses⟩ := exists_passes h
  refine ⟨UInt32.le_iff_toNat_le.mp henough, fun holder other => ?_⟩
  have hmoved := hpasses.tally_eq (room_of_passes htidy hpasses hroom) (Container.unit other)
    holder
  rw [Container.tally_unit (htidy.isTidy_stacksOf holder).distinct,
    Container.tally_unit (hpasses.isTidy_later htidy.isTidy_stacksOf holder).distinct,
    ← held_eq_quantityIn, ← held_eq_quantityIn, Nat.nsmul_eq_mul, Container.mul_unit] at hmoved
  have hmerge (place : Key) : (if holder = place then if item = other then quantity.toNat else 0
      else 0) = if holder = place ∧ other = item then quantity.toNat else 0 := by
    rw [ite_and]
    simp only [eq_comm]
  rw [hmerge, hmerge] at hmoved
  exact hmoved

/-! ## Contents that stay -/

/-- What lies in all containers stays as it is. -/
structure KeepsContents (before after : Registry) : Prop where
  keys : after.keys = before.keys
  contents : ∀ key, Scope.stacksOf after key = Scope.stacksOf before key

theorem keepsContents_modify (registry : Registry) (key : Key) {edit : Entity → Entity}
    (hedit : ∀ entity, (edit entity).key = entity.key)
    (hcontainer : ∀ entity, (edit entity).container = entity.container) :
    registry.KeepsContents (registry.modify key edit hedit) where
  keys := keys_modify registry key hedit
  contents := fun other => by
    rw [Scope.stacksOf, Scope.stacksOf, container?_modify registry key other hedit hcontainer]

theorem KeepsContents.held (h : registry.KeepsContents after) (holder item : Key) :
    after.held holder item = registry.held holder item := by
  rw [held_eq_quantityIn, held_eq_quantityIn, h.contents]

theorem KeepsContents.isTidy (h : registry.KeepsContents after) (htidy : registry.IsTidy) :
    after.IsTidy :=
  fun key _ => by
    rw [h.contents]
    exact htidy.isTidy_stacksOf key

theorem KeepsContents.units (h : registry.KeepsContents after) (item : Key) :
    after.units item = registry.units item := by
  rw [Registry.units, Registry.units, h.keys]
  simp only [h.contents]

end Registry

namespace Errand

variable {arithmetic : Arithmetic} {world : World} {errand : Errand}

/-- An errand is exact when it leaves the world as it is or moves the number of units asked for,
when no item becomes more or less, and when asking for more than is held is refused. -/
structure IsExact (arithmetic : Arithmetic) (world : World) (errand : Errand) : Prop where
  moved : (errand.reply arithmetic world).world = world ∨
    ∃ source target item, errand.source? world = some source ∧
      errand.target? world = some target ∧ errand.operation.direct = some item ∧
      0 < errand.requested ∧
      world.registry.HasMoved (errand.reply arithmetic world).world.registry source target item
        errand.requested.toNat
  conserved : ∀ item,
    (errand.reply arithmetic world).world.registry.units item = world.registry.units item
  refused : ∀ source item, errand.source? world = some source →
    errand.operation.direct = some item →
    (world.registry.held source item).toNat < errand.requested →
    ∃ text, errand.handling arithmetic world = .refusal text

/-- An errand overflows when it is carried out although the number asked for is beyond the
largest count, or would be together with what the target holds already. -/
def Overflows (arithmetic : Arithmetic) (world : World) (errand : Errand) : Prop :=
  ∃ after text source target item, errand.handling arithmetic world = .transfer after text ∧
    errand.source? world = some source ∧ errand.target? world = some target ∧
    errand.operation.direct = some item ∧
    (maxCount < errand.requested ∨
      source ≠ target ∧ maxCount < (world.registry.held target item).toNat + errand.requested)

theorem world_reply_of_refusal {text : String}
    (h : errand.handling arithmetic world = .refusal text) :
    (errand.reply arithmetic world).world = world := by
  rw [reply_eq_carryOut, h]
  rfl

theorem registry_reply_of_transfer {after : Registry} {text : String}
    (h : errand.handling arithmetic world = .transfer after text) :
    (errand.reply arithmetic world).world.registry = after := by
  rw [reply_eq_carryOut, h]
  rfl

theorem toNat_count (hpositive : 0 < errand.requested) (hfits : errand.requested ≤ maxCount) :
    errand.count.toNat = errand.requested.toNat := by
  rw [count, toNat_clampCount hpositive.le]
  omega

theorem Moves.isExact {after : Registry} {source target item : Key} {text : String}
    (h : errand.Moves arithmetic world after source target item)
    (hhandling : errand.handling arithmetic world = .transfer after text)
    (htidy : world.registry.IsTidy) (hfits : errand.requested ≤ maxCount)
    (hroom : source = target ∨
      (world.registry.held target item).toNat + errand.requested ≤ maxCount) :
    errand.IsExact arithmetic world := by
  have hcount := toNat_count h.positive hfits
  have hspace : source = target ∨
      (world.registry.held target item).toNat + errand.count.toNat ≤ maxCount :=
    hroom.imp_right fun hfew => by
      have := h.positive
      omega
  have hmoved := Registry.hasMoved_transfer? htidy h.transferred hspace h.enough
  constructor
  · refine Or.inr ⟨source, target, item, h.source_eq, h.target_eq, h.item_eq, h.positive, ?_⟩
    rw [registry_reply_of_transfer hhandling, ← hcount]
    exact hmoved
  · intro other
    rw [registry_reply_of_transfer hhandling]
    exact Registry.units_transfer? htidy h.transferred hspace other
  · intro holder other hholder hother hfew
    cases h.source_eq.symm.trans hholder
    cases h.item_eq.symm.trans hother
    have henough := hmoved.enough
    have := h.positive
    omega

/-- Units that leave their container change it. -/
theorem Moves.ne {after : Registry} {source target item : Key}
    (h : errand.Moves arithmetic world after source target item) (hne : source ≠ target)
    (hfits : errand.requested ≤ maxCount) : after ≠ world.registry := by
  intro hsame
  obtain ⟨between, hpasses⟩ := Registry.exists_passes h.transferred
  have htally := hpasses.tally_le (Container.unit item) source
  rw [if_pos rfl, if_neg hne, hsame, Nat.nsmul_eq_mul, Container.mul_unit, if_pos rfl,
    toNat_count h.positive hfits] at htally
  have := h.positive
  omega

theorem not_overflows_of_isExact (h : errand.IsExact arithmetic world) :
    ¬ errand.Overflows arithmetic world := by
  rintro ⟨after, text, source, target, item, hhandling, hsource, htarget, hitem, hlarge⟩
  have hfits : errand.requested ≤ maxCount := by
    refine not_lt.mp fun hbeyond => ?_
    have hheld := toNat_le_maxCount (world.registry.held source item)
    obtain ⟨other, hrefused⟩ := h.refused source item hsource hitem (by omega)
    cases hhandling.symm.trans hrefused
  obtain ⟨hne, hover⟩ := hlarge.resolve_left hfits.not_gt
  obtain ⟨_, _, _, hmoves⟩ := moves_of_transfer hhandling
  cases hmoves.source_eq.symm.trans hsource
  cases hmoves.target_eq.symm.trans htarget
  cases hmoves.item_eq.symm.trans hitem
  have hregistry := registry_reply_of_transfer hhandling
  rcases h.moved with hsame | ⟨_, _, _, hsource', htarget', hitem', hpositive, hmoved⟩
  · exact hmoves.ne hne hfits (hregistry.symm.trans (congrArg World.registry hsame))
  · cases hsource.symm.trans hsource'
    cases htarget.symm.trans htarget'
    cases hitem.symm.trans hitem'
    rw [hregistry] at hmoved
    have hbalance := hmoved.balance target item
    rw [if_neg fun heq => hne heq.1.symm, if_pos ⟨rfl, rfl⟩] at hbalance
    have hheld := toNat_le_maxCount (after.held target item)
    omega

/-- Among tidy containers an errand is exact if and only if it does not overflow. -/
theorem isExact_iff_not_overflows (arithmetic : Arithmetic) (htidy : world.registry.IsTidy)
    (errand : Errand) :
    errand.IsExact arithmetic world ↔ ¬ errand.Overflows arithmetic world := by
  refine ⟨not_overflows_of_isExact, fun hfits => ?_⟩
  have hends := ends_handling arithmetic world errand
  generalize hhandling : errand.handling arithmetic world = handling at hends
  cases hends with
  | refused text =>
      have hsame := world_reply_of_refusal hhandling
      refine ⟨Or.inl hsame, fun item => ?_, fun _ _ _ _ _ => ⟨text, hhandling⟩⟩
      rw [hsame]
  | moved text hmoves =>
      refine hmoves.isExact hhandling htidy (not_lt.mp fun hbeyond => hfits ?_) ?_
      · exact ⟨_, _, _, _, _, hhandling, hmoves.source_eq, hmoves.target_eq, hmoves.item_eq,
          Or.inl hbeyond⟩
      · refine or_iff_not_imp_left.mpr fun hne => not_lt.mp fun hover => hfits ?_
        exact ⟨_, _, _, _, _, hhandling, hmoves.source_eq, hmoves.target_eq, hmoves.item_eq,
          Or.inr ⟨hne, hover⟩⟩

end Errand

/-! ## A vault full of coins -/

/-- Someone in a vault holds as many coins as a stack can have, and one lies on the floor. -/
def World.vault : World where
  registry := Registry.ofList [
    (Entity.location "Vault").withContainer ⟨[⟨⟨"coin"⟩, 1⟩]⟩,
    Entity.item "Coin" Weight.zero,
    (Entity.pawn "Miser" "Vault" Weight.zero).withContainer ⟨[⟨⟨"coin"⟩, 4294967295⟩]⟩]
  active := []
  player := ⟨"miser"⟩
  turns := 0

namespace Errand

/-- Dropping a number of coins. -/
def droppingCoins (quantity : Int) : Errand :=
  .drop { Operation.bare "drop" with
    quantity := quantity, directPhrase := ⟨["coin"]⟩, direct := some ⟨"coin"⟩ }

/-- Seven coins of the miser reach the floor, and none gets lost. -/
theorem isExact_iff_not_overflows_vault :
    World.vault.registry.IsTidy ∧
      (droppingCoins 7).IsExact Arithmetic.binary64 World.vault := by
  have htidy : World.vault.registry.IsTidy := by decide +kernel
  refine ⟨htidy, (isExact_iff_not_overflows Arithmetic.binary64 htidy _).mpr ?_⟩
  rintro ⟨after, text, source, target, item, -, -, htarget, hitem, hlarge⟩
  have hvault : (droppingCoins 7).target? World.vault = some ⟨"vault"⟩ := by decide +kernel
  have hheld : World.vault.registry.held ⟨"vault"⟩ ⟨"coin"⟩ = 1 := by decide +kernel
  have hmax : maxCount = 4294967295 := rfl
  cases hvault.symm.trans htarget
  cases hitem
  rw [hheld, hmax] at hlarge
  rcases hlarge with hlarge | ⟨-, hlarge⟩
  · exact absurd hlarge (by decide)
  · exact absurd hlarge (by decide)

/-- Asked to drop more coins than there can be, the miser drops all it has instead of being
refused; and when it drops all it has, one coin is lost. -/
theorem not_isExact_droppingCoins :
    ¬ (droppingCoins 5000000000).IsExact Arithmetic.binary64 World.vault ∧
      ¬ (droppingCoins 4294967295).IsExact Arithmetic.binary64 World.vault := by
  constructor
  · intro h
    obtain ⟨text, hrefused⟩ := h.refused ⟨"miser"⟩ ⟨"coin"⟩ rfl rfl (by decide +kernel)
    exact absurd (world_reply_of_refusal hrefused) (by decide +kernel)
  · intro h
    have hconserved := h.conserved ⟨"coin"⟩
    revert hconserved
    decide +kernel

end Errand

end TextAdventure
