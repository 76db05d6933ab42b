import Mathlib.Algebra.BigOperators.Group.Finset.Piecewise
import Mathlib.Algebra.Order.Ring.NNRat
import TextAdventure.Proofs.Action.Errands
import TextAdventure.Proofs.Registry.Load

/-!
# The weight limit

What a player carries stays within its limit whatever errands it runs.  A get is made only
within the limit.  A drop or a put takes units out of the player's own container: afterwards
the player reaches nothing that it did not reach before, and the units that left are not
counted twice where they are now.
-/

namespace TextAdventure

variable {value : Weight → ℚ≥0}

namespace Registry

/-- The carried weight as an exact number. -/
def exactLoad (value : Weight → ℚ≥0) (registry : Registry) (holder : Key) : ℚ≥0 :=
  registry.carriedWeight (Arithmetic.exact value) holder

/-! ## Transfers out of a holder -/

section Transfer

variable {registry after : Registry} {source target item : Key} {quantity : UInt32}

theorem unitWeight_transfer? (value : Weight → ℚ≥0)
    (h : registry.transfer? source target item quantity = some after) :
    after.unitWeight value = registry.unitWeight value := by
  funext key
  rw [unitWeight, unitWeight, item?_transfer? h]

/-- A key contains after a transfer what it contained before, and the target also the item. -/
theorem mem_items_transfer? (h : registry.transfer? source target item quantity = some after)
    {key inner : Key} (hinner : inner ∈ (Scope.stacksOf after key).map Stack.item) :
    inner ∈ (Scope.stacksOf registry key).map Stack.item ∨
      inner = item ∧ item ∈ (Scope.stacksOf registry source).map Stack.item := by
  obtain ⟨between, hpasses⟩ := exists_passes h
  have hbetween : inner ∈ (between key).map Stack.item →
      inner ∈ (Scope.stacksOf registry key).map Stack.item := by
    intro hmem
    by_cases hkey : key = source
    · subst hkey
      exact Container.items_subset_of_removeFrom? hpasses.lightens hmem
    · exact hpasses.between_eq key hkey ▸ hmem
  by_cases hkey : key = target
  · subst hkey
    rw [hpasses.adds, Container.add] at hinner
    split at hinner
    · exact Or.inl (hbetween hinner)
    next hquantity =>
      rcases Container.mem_items_addTo hinner with rfl | hold
      · exact Or.inr ⟨rfl, Container.mem_items_of_removeFrom? hpasses.lightens hquantity⟩
      · exact Or.inl (hbetween hold)
  · exact Or.inl (hbetween (hpasses.later_eq key hkey ▸ hinner))

/-- The source of a transfer reaches nothing new. -/
theorem reaches_of_transfer? (h : registry.transfer? source target item quantity = some after)
    {key : Key} (hreaches : after.Reaches source key) : registry.Reaches source key := by
  induction hreaches with
  | refl => exact Relation.ReflTransGen.refl
  | tail _ hcontains ih =>
      obtain ⟨hmem, hsome⟩ := hcontains
      rw [item?_transfer? h] at hsome
      rcases mem_items_transfer? h hmem with hold | ⟨rfl, hsource⟩
      · exact ih.tail ⟨hold, hsome⟩
      · exact Relation.ReflTransGen.single ⟨hsource, hsome⟩

/-- A transfer takes the weight of the units from the source and adds at most as much to the
target. -/
theorem weigh_transfer?_le (value : Weight → ℚ≥0)
    (h : registry.transfer? source target item quantity = some after) (key : Key) :
    after.weigh value key +
        (if key = source then quantity.toNat • registry.unitWeight value item else 0) ≤
      registry.weigh value key +
        (if key = target then quantity.toNat • registry.unitWeight value item else 0) := by
  obtain ⟨between, hpasses⟩ := exists_passes h
  rw [weigh, weigh, unitWeight_transfer? value h]
  exact hpasses.tally_le (registry.unitWeight value) key

/-- Moving units out of a container never makes its holder's load heavier. -/
theorem exactLoad_transfer?_le (value : Weight → ℚ≥0)
    (h : registry.transfer? source target item quantity = some after) :
    after.exactLoad value source ≤ registry.exactLoad value source := by
  obtain ⟨reached, hreached, hbefore⟩ := carriedWeight_exact value registry source
  obtain ⟨later, hlater, hafter⟩ := carriedWeight_exact value after source
  have hsource : source ∈ reached := (hreached source).mpr Relation.ReflTransGen.refl
  have hsubset : later ⊆ reached := fun key hkey =>
    (hreached key).mpr (reaches_of_transfer? h ((hlater key).mp hkey))
  have hsum := Finset.sum_le_sum fun key (_ : key ∈ reached) => weigh_transfer?_le value h key
  rw [Finset.sum_add_distrib, Finset.sum_add_distrib, Finset.sum_ite_eq', Finset.sum_ite_eq',
    if_pos hsource] at hsum
  rw [exactLoad, exactLoad, hbefore, hafter]
  refine (Finset.sum_le_sum_of_subset hsubset).trans (le_of_add_le_add_right (hsum.trans ?_))
  split
  · exact le_rfl
  · exact add_le_add_right (zero_le) _

end Transfer

end Registry

/-! ## Errands -/

namespace World

/-- The weight that the player carries, as an exact number. -/
def load (value : Weight → ℚ≥0) (world : World) : ℚ≥0 :=
  world.registry.exactLoad value world.player

/-- The world after errands have been run one after another. -/
def afterErrands (arithmetic : Arithmetic) (world : World) (errands : List Errand) : World :=
  errands.foldl (fun before errand => (errand.reply arithmetic before).world) world

end World

namespace Errand

variable {world : World} {pawn : Pawn}

/-- Dropping or putting never makes the player's load heavier. -/
theorem load_reply_le (value : Weight → ℚ≥0) (world : World) {errand : Errand}
    (h : errand.isGet = false) :
    (errand.reply (Arithmetic.exact value) world).world.load value ≤ world.load value := by
  rcases world_reply_cases (Arithmetic.exact value) world errand with
    hsame | ⟨after, source, target, item, hmoves, hworld⟩
  · rw [hsame]
  · rw [hworld]
    have hsource : errand.source? world = some world.player := by
      cases errand with
      | get operation => cases h
      | drop operation => rfl
      | put operation => rfl
    cases hmoves.source_eq.symm.trans hsource
    exact Registry.exactLoad_transfer?_le value hmoves.transferred

/-- A player within its limit is the same pawn and within its limit after any errand. -/
theorem load_le_reply (value : Weight → ℚ≥0) (hpawn : world.playerPawn? = some pawn)
    (hload : world.load value ≤ value pawn.maxWeight) (errand : Errand) :
    (errand.reply (Arithmetic.exact value) world).world.playerPawn? = some pawn ∧
      (errand.reply (Arithmetic.exact value) world).world.load value ≤ value pawn.maxWeight := by
  rcases world_reply_cases (Arithmetic.exact value) world errand with
    hsame | ⟨after, source, target, item, hmoves, hworld⟩
  · rw [hsame]
    exact ⟨hpawn, hload⟩
  · constructor
    · rw [hworld]
      exact (Registry.pawn?_transfer? hmoves.transferred _).trans hpawn
    · cases hget : errand.isGet with
      | false => exact (load_reply_le value world hget).trans hload
      | true =>
          obtain ⟨other, hother, hwithin⟩ := hmoves.within hget
          cases hpawn.symm.trans hother
          rw [hworld]
          exact not_lt.mp (of_decide_eq_false hwithin)

/-- Whatever errands a player within its limit runs, it stays the same pawn and within its limit
after each of them, and a drop or a put never makes its load heavier. -/
theorem load_le_maxWeight_afterErrands (value : Weight → ℚ≥0)
    (hpawn : world.playerPawn? = some pawn)
    (hload : world.load value ≤ value pawn.maxWeight) (errands : List Errand) :
    (world.afterErrands (Arithmetic.exact value) errands).playerPawn? = some pawn ∧
      (world.afterErrands (Arithmetic.exact value) errands).load value ≤ value pawn.maxWeight ∧
      ∀ errand : Errand, errand.isGet = false →
        (world.afterErrands (Arithmetic.exact value) (errands ++ [errand])).load value ≤
          (world.afterErrands (Arithmetic.exact value) errands).load value := by
  induction errands generalizing world with
  | nil => exact ⟨hpawn, hload, fun errand hget => load_reply_le value world hget⟩
  | cons errand rest ih =>
      obtain ⟨hsame, hwithin⟩ := load_le_reply value hpawn hload errand
      exact ih hsame hwithin

end Errand

/-! ## An attic full of sacks -/

/-- The exact value of a finite weight, its sign aside. -/
def Weight.magnitude (weight : Weight) : ℚ≥0 :=
  let significand :=
    if weight.exponentField = 0 then weight.fractionField
    else weight.fractionField + 0x10000000000000
  (significand * 2 ^ max weight.exponentField 1 : ℕ) / (2 ^ 1075 : ℕ)

/-- In the attic lie sacks that hold a box, which holds sacks again, and a porter has a stone. -/
def World.attic : World where
  registry := Registry.ofList [
    (Entity.location "Attic").withContainer ⟨[⟨⟨"sack"⟩, 3⟩, ⟨⟨"stone"⟩, 4⟩]⟩,
    (Entity.item "Sack" ⟨0x3FE0000000000000⟩).withContainer ⟨[⟨⟨"box"⟩, 1⟩]⟩,
    (Entity.item "Box" ⟨0x4000000000000000⟩).withContainer ⟨[⟨⟨"sack"⟩, 2⟩]⟩,
    Entity.item "Stone" ⟨0x4008000000000000⟩,
    (Entity.pawn "Porter" "Attic" ⟨0x4020000000000000⟩).withContainer ⟨[⟨⟨"stone"⟩, 1⟩]⟩]
  active := []
  player := ⟨"porter"⟩
  turns := 0

theorem World.load_attic : World.attic.load Weight.magnitude = 3 := by
  have hporter : World.attic.registry.container? ⟨"porter"⟩ = some ⟨[⟨⟨"stone"⟩, 1⟩]⟩ := by decide
  have hstone : World.attic.registry.item? ⟨"stone"⟩ = some ⟨⟨0x4008000000000000⟩⟩ := by decide
  have hinside : World.attic.registry.container? ⟨"stone"⟩ = none := by decide
  have hload : World.attic.registry.loadOf ⟨"porter"⟩ =
      .cons ⟨0x4008000000000000⟩ 1 .nil .nil := by
    rw [Registry.loadOf, hporter]
    dsimp only
    rw [Registry.unpack]
    split
    next hnone => cases hstone.symm.trans hnone
    next item hitem =>
      cases hstone.symm.trans hitem
      simp [Registry.unpack, hinside]
  refine (congrArg (Load.total (Arithmetic.exact Weight.magnitude)) hload).trans ?_
  refine (Load.total_exact _).trans ?_
  change Load.exactTotal Weight.magnitude (.cons ⟨0x4008000000000000⟩ 1 .nil .nil) = 3
  decide +kernel

namespace Errand

/-- The porter takes two sacks, puts its stone into them, and drops one of them. -/
def sacking : List Errand := [
  .get { Operation.bare "get" with
    quantity := 2, directPhrase := ⟨["sack"]⟩, direct := some ⟨"sack"⟩ },
  .put { Operation.bare "put" with
    directPhrase := ⟨["stone"]⟩, direct := some ⟨"stone"⟩
    indirectPhrase := ⟨["sack"]⟩, indirect := some ⟨"sack"⟩ },
  .drop { Operation.bare "drop" with
    directPhrase := ⟨["sack"]⟩, direct := some ⟨"sack"⟩ }]

/-- Two sacks are light enough for the porter, and it stays within its limit. -/
theorem load_le_maxWeight_afterErrands_attic :
    World.attic.playerPawn? = some ⟨⟨"attic"⟩, ⟨0x4020000000000000⟩, none⟩ ∧
      World.attic.load Weight.magnitude ≤ Weight.magnitude ⟨0x4020000000000000⟩ ∧
      (World.attic.afterErrands (Arithmetic.exact Weight.magnitude) sacking).load
        Weight.magnitude ≤ Weight.magnitude ⟨0x4020000000000000⟩ := by
  have hpawn : World.attic.playerPawn? = some ⟨⟨"attic"⟩, ⟨0x4020000000000000⟩, none⟩ := by
    decide
  have hload : World.attic.load Weight.magnitude ≤ Weight.magnitude ⟨0x4020000000000000⟩ := by
    rw [World.load_attic]
    decide +kernel
  exact ⟨hpawn, hload,
    (load_le_maxWeight_afterErrands Weight.magnitude hpawn hload sacking).2.1⟩

end Errand

end TextAdventure
