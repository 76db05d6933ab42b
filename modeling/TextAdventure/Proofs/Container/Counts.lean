import Mathlib.Algebra.Order.Monoid.Canonical.Defs
import Mathlib.Algebra.Order.Monoid.Unbundled.Pow
import Mathlib.Algebra.BigOperators.Group.List.Basic
import TextAdventure.Proofs.Container

/-!
# Counting units

How adding to a container and removing from it change the count of each item and any sum over
the units.  Units are removed exactly; they are added exactly as far as the stack has room.
-/

namespace TextAdventure

/-- The largest count that a stack can have. -/
def maxCount : Nat := UInt32.size - 1

theorem toNat_le_maxCount (quantity : UInt32) : quantity.toNat ≤ maxCount :=
  Nat.le_pred_of_lt quantity.toNat_lt

theorem toNat_addCounts (left right : UInt32) :
    (addCounts left right).toNat = min (left.toNat + right.toNat) maxCount := by
  have hsize : UInt32.size = 4294967296 := rfl
  rw [addCounts, maxCount, UInt32.toNat_ofNat_of_lt' (by omega)]

namespace Container

variable {item other : Key} {quantity : UInt32}

/-! ## The count of one item -/

theorem quantityIn_cons (item : Key) (stack : Stack) (rest : List Stack) :
    quantityIn item (stack :: rest) =
      if stack.item = item then stack.quantity else quantityIn item rest := rfl

/-- Units can be removed exactly when so many are held. -/
theorem isSome_removeFrom?_iff {contents : List Stack} :
    (removeFrom? item quantity contents).isSome ↔ quantity ≤ quantityIn item contents := by
  induction contents with
  | nil =>
      rw [removeFrom?, quantityIn]
      split
      next hzero => simp [hzero]
      next hne =>
        have hpos : ¬ quantity ≤ 0 := fun hle => hne (UInt32.le_antisymm hle (UInt32.zero_le))
        simpa using hpos
  | cons stack rest ih =>
      rw [removeFrom?, quantityIn]
      split
      · split
        next hlt => simpa using hlt
        next hle =>
          split <;> simpa using hle
      · rw [Option.isSome_map, ih]

theorem quantityIn_eq_zero {contents : List Stack} (h : item ∉ contents.map Stack.item) :
    quantityIn item contents = 0 := by
  induction contents with
  | nil => rfl
  | cons stack rest ih =>
      have hne : stack.item ≠ item := fun heq => h (heq ▸ List.mem_cons_self)
      rw [quantityIn, if_neg hne, ih fun hmem => h (List.mem_cons_of_mem _ hmem)]

/-- The count of an item that has a stack is that of one of its stacks. -/
theorem exists_quantityIn_eq {contents : List Stack} (h : item ∈ contents.map Stack.item) :
    ∃ stack ∈ contents, stack.item = item ∧ stack.quantity = quantityIn item contents := by
  induction contents with
  | nil => cases h
  | cons first rest ih =>
      rw [quantityIn]
      split
      next hitem => exact ⟨first, List.mem_cons_self, hitem, rfl⟩
      next hother =>
        have hrest : item ∈ rest.map Stack.item :=
          (List.mem_cons.mp h).resolve_left fun heq => hother heq.symm
        obtain ⟨stack, hstack, hstacked⟩ := ih hrest
        exact ⟨stack, List.mem_cons_of_mem _ hstack, hstacked⟩

/-- An item of which no stack is empty has a stack exactly if there is a unit of it. -/
theorem mem_items_iff {contents : List Stack}
    (hfilled : ∀ stack ∈ contents, stack.item = item → stack.quantity ≠ 0) :
    item ∈ contents.map Stack.item ↔ quantityIn item contents ≠ 0 := by
  constructor
  · intro hmem hnone
    obtain ⟨stack, hstack, hitem, hquantity⟩ := exists_quantityIn_eq hmem
    exact hfilled stack hstack hitem (hquantity.trans hnone)
  · intro hheld
    exact Decidable.byContradiction fun hnot => hheld (quantityIn_eq_zero hnot)

theorem mem_items_of_removeFrom? {contents lighter : List Stack}
    (h : removeFrom? item quantity contents = some lighter) (hquantity : quantity ≠ 0) :
    item ∈ contents.map Stack.item := by
  refine Decidable.byContradiction fun hnot => hquantity ?_
  have hle := isSome_removeFrom?_iff.mp (Option.isSome_of_eq_some h)
  rw [quantityIn_eq_zero hnot] at hle
  exact UInt32.le_zero_iff.mp hle

/-! ## The counts of the other items -/

theorem quantityIn_addTo_of_ne (h : other ≠ item) (quantity : UInt32) (contents : List Stack) :
    quantityIn other (addTo item quantity contents) = quantityIn other contents := by
  induction contents with
  | nil => rw [addTo, quantityIn_cons, if_neg h.symm]
  | cons stack rest ih =>
      rw [addTo]
      split
      next hitem => rw [quantityIn_cons, quantityIn_cons, hitem, if_neg h.symm, if_neg h.symm]
      next => rw [quantityIn_cons, quantityIn_cons, ih]

theorem quantityIn_add_of_ne (h : other ≠ item) (quantity : UInt32) (contents : List Stack) :
    quantityIn other (add ⟨contents⟩ item quantity).contents = quantityIn other contents := by
  rw [add]
  split
  · rfl
  · exact quantityIn_addTo_of_ne h quantity contents

theorem quantityIn_removeFrom?_of_ne (h : other ≠ item) {contents lighter : List Stack}
    (hlighter : removeFrom? item quantity contents = some lighter) :
    quantityIn other lighter = quantityIn other contents := by
  induction contents generalizing lighter with
  | nil =>
      rw [removeFrom?] at hlighter
      split at hlighter
      · cases hlighter
        rfl
      · cases hlighter
  | cons stack rest ih =>
      rw [removeFrom?] at hlighter
      split at hlighter
      next hitem =>
        have hother : ¬ item = other := Ne.symm h
        split at hlighter
        · cases hlighter
        · split at hlighter
          · cases hlighter
            rw [quantityIn_cons, hitem, if_neg hother]
          · cases hlighter
            rw [quantityIn_cons, quantityIn_cons, hitem, if_neg hother, if_neg hother]
      next =>
        obtain ⟨later, hlater, rfl⟩ := Option.map_eq_some_iff.mp hlighter
        rw [quantityIn_cons, quantityIn_cons, ih hlater]

/-! ## Sums over units -/

section Tally

variable {M : Type} [AddCommMonoid M]

/-- The sum of a value of each unit. -/
def tally (value : Key → M) (contents : List Stack) : M :=
  (contents.map fun stack => stack.quantity.toNat • value stack.item).sum

theorem tally_nil (value : Key → M) : tally value [] = 0 := rfl

theorem tally_cons (value : Key → M) (stack : Stack) (rest : List Stack) :
    tally value (stack :: rest) = stack.quantity.toNat • value stack.item + tally value rest := by
  rw [tally, List.map_cons, List.sum_cons, tally]

theorem tally_append (value : Key → M) (left right : List Stack) :
    tally value (left ++ right) = tally value left + tally value right := by
  rw [tally, List.map_append, List.sum_append, tally, tally]

theorem tally_flatMap {α : Type} (value : Key → M) (f : α → List Stack) (list : List α) :
    tally value (list.flatMap f) = (list.map fun x => tally value (f x)).sum := by
  induction list with
  | nil => rfl
  | cons first rest ih => rw [List.flatMap_cons, tally_append, ih, List.map_cons, List.sum_cons]

theorem tally_perm (value : Key → M) {left right : List Stack} (h : left.Perm right) :
    tally value left = tally value right :=
  (h.map _).sum_eq

theorem tally_removeFrom? (value : Key → M) {contents after : List Stack}
    (hafter : removeFrom? item quantity contents = some after) :
    quantity.toNat • value item + tally value after = tally value contents := by
  induction contents generalizing after with
  | nil =>
      rw [removeFrom?] at hafter
      split at hafter
      next hzero =>
        cases hafter
        rw [hzero, tally_nil, add_zero]
        exact zero_nsmul _
      · cases hafter
  | cons stack rest ih =>
      rw [removeFrom?] at hafter
      split at hafter
      next hitem =>
        subst hitem
        split at hafter
        · cases hafter
        next henough =>
          split at hafter
          next hall =>
            cases hafter
            rw [tally_cons, hall]
          · cases hafter
            have hle : quantity ≤ stack.quantity := UInt32.not_lt.mp henough
            rw [tally_cons, tally_cons, ← add_assoc, ← add_nsmul, UInt32.toNat_sub_of_le _ _ hle,
              Nat.add_sub_cancel' (UInt32.le_iff_toNat_le.mp hle)]
      next hitem =>
        obtain ⟨lighter, hlighter, rfl⟩ := Option.map_eq_some_iff.mp hafter
        rw [tally_cons, tally_cons, ← ih hlighter, add_left_comm]

/-- Where the stack has room, adding adds all units. -/
theorem tally_addTo (value : Key → M) {contents : List Stack}
    (hroom : (quantityIn item contents).toNat + quantity.toNat ≤ maxCount) :
    tally value (addTo item quantity contents) =
      quantity.toNat • value item + tally value contents := by
  induction contents with
  | nil => rw [addTo, tally_cons]
  | cons stack rest ih =>
      rw [quantityIn] at hroom
      rw [addTo]
      split
      next hitem =>
        subst hitem
        rw [if_pos rfl] at hroom
        rw [tally_cons, tally_cons, toNat_addCounts, min_eq_left hroom, add_nsmul, ← add_assoc,
          add_comm (_ • _) (_ • _)]
      next hitem =>
        rw [if_neg hitem] at hroom
        rw [tally_cons, tally_cons, ih hroom, add_left_comm]

theorem tally_add (value : Key → M) {contents : List Stack}
    (hroom : (quantityIn item contents).toNat + quantity.toNat ≤ maxCount) :
    tally value (add ⟨contents⟩ item quantity).contents =
      quantity.toNat • value item + tally value contents := by
  rw [add]
  split
  next hzero =>
    rw [hzero]
    exact (zero_add _).symm.trans (congrArg (· + _) (zero_nsmul _).symm)
  · exact tally_addTo value hroom

/-- Adding never adds more than the units given. -/
theorem tally_addTo_le [PartialOrder M] [IsOrderedAddMonoid M] [CanonicallyOrderedAdd M]
    (value : Key → M) (item : Key) (quantity : UInt32) (contents : List Stack) :
    tally value (addTo item quantity contents) ≤
      quantity.toNat • value item + tally value contents := by
  induction contents with
  | nil => rw [addTo, tally_cons]
  | cons stack rest ih =>
      rw [addTo]
      split
      next hitem =>
        subst hitem
        rw [tally_cons, tally_cons, ← add_assoc, ← add_nsmul, toNat_addCounts]
        refine add_le_add_left ?_ _
        exact nsmul_le_nsmul_left (zero_le) ((min_le_left _ _).trans_eq (Nat.add_comm _ _))
      · rw [tally_cons, tally_cons, add_left_comm]
        exact add_le_add_right ih _

theorem tally_add_le [PartialOrder M] [IsOrderedAddMonoid M] [CanonicallyOrderedAdd M]
    (value : Key → M) (container : Container) (item : Key) (quantity : UInt32) :
    tally value (container.add item quantity).contents ≤
      quantity.toNat • value item + tally value container.contents := by
  rw [add]
  split
  next hzero =>
    rw [hzero]
    exact (zero_add _).symm.trans_le (add_le_add_left zero_le _)
  · exact tally_addTo_le value item quantity container.contents

end Tally

/-- One for each unit of an item, and nothing for other units. -/
def unit (item other : Key) : Nat :=
  if other = item then 1 else 0

theorem mul_unit (count : Nat) (item other : Key) :
    count * unit item other = if other = item then count else 0 := by
  rw [unit]
  split
  · exact Nat.mul_one count
  · exact Nat.mul_zero count

/-- Of stacks of different items the first one of an item has all its units. -/
theorem tally_unit {contents : List Stack} (hdistinct : (contents.map Stack.item).Nodup)
    (item : Key) : tally (unit item) contents = (quantityIn item contents).toNat := by
  induction contents with
  | nil => rfl
  | cons stack rest ih =>
      obtain ⟨hfresh, hrest⟩ := List.nodup_cons.mp hdistinct
      rw [tally_cons, ih hrest, quantityIn_cons, unit]
      split
      next hitem =>
        subst hitem
        rw [quantityIn_eq_zero hfresh]
        exact Nat.mul_one _
      · exact Nat.zero_add _

end Container

end TextAdventure
