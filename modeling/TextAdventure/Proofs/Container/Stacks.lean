import TextAdventure.Proofs.Container.Counts

/-!
# Stacks that grow and shrink

The first stack of an item grows by the units that are added, as far as a stack can, and loses the
units that are removed; it disappears with the last of them.  A stack that is new stands last, and
the others stay where they are.
-/

namespace TextAdventure

namespace Container

variable {item : Key} {count : Nat} {stack : Stack} {before after : List Stack}

/-- The first stack of an item loses units, and disappears if they are all it has. -/
inductive Loses (item : Key) (count : Nat) : List Stack → List Stack → Prop where
  | emptied {left right : List Stack} {quantity : UInt32} (hfirst : item ∉ left.map Stack.item)
      (hall : quantity.toNat = count) :
      Loses item count (left ++ ⟨item, quantity⟩ :: right) (left ++ right)
  | lessened {left right : List Stack} {quantity rest : UInt32}
      (hfirst : item ∉ left.map Stack.item) (hrest : rest ≠ 0)
      (hlost : rest.toNat + count = quantity.toNat) :
      Loses item count (left ++ ⟨item, quantity⟩ :: right) (left ++ ⟨item, rest⟩ :: right)

/-- The first stack of an item grows by units as far as it can; without one they are put last. -/
inductive Gains (item : Key) (count : Nat) : List Stack → List Stack → Prop where
  | grown {left right : List Stack} {quantity grown : UInt32}
      (hfirst : item ∉ left.map Stack.item)
      (hgrown : grown.toNat = min (quantity.toNat + count) maxCount) :
      Gains item count (left ++ ⟨item, quantity⟩ :: right) (left ++ ⟨item, grown⟩ :: right)
  | started {contents : List Stack} {quantity : UInt32}
      (hfresh : item ∉ contents.map Stack.item) (hstarted : quantity.toNat = min count maxCount) :
      Gains item count contents (contents ++ [⟨item, quantity⟩])

theorem notMem_items_cons (hother : stack.item ≠ item) {left : List Stack}
    (hfirst : item ∉ left.map Stack.item) : item ∉ (stack :: left).map Stack.item :=
  List.not_mem_cons_of_ne_of_not_mem hother.symm hfirst

theorem Loses.cons (h : Loses item count before after) (hother : stack.item ≠ item) :
    Loses item count (stack :: before) (stack :: after) := by
  cases h with
  | emptied hfirst hall => exact .emptied (notMem_items_cons hother hfirst) hall
  | lessened hfirst hrest hlost => exact .lessened (notMem_items_cons hother hfirst) hrest hlost

theorem Gains.cons (h : Gains item count before after) (hother : stack.item ≠ item) :
    Gains item count (stack :: before) (stack :: after) := by
  cases h with
  | grown hfirst hgrown => exact .grown (notMem_items_cons hother hfirst) hgrown
  | started hfresh hstarted => exact .started (notMem_items_cons hother hfresh) hstarted

theorem notMem_items_nil (item : Key) : item ∉ ([] : List Stack).map Stack.item :=
  List.not_mem_nil

theorem loses_of_removeFrom? {quantity : UInt32} (hquantity : quantity ≠ 0)
    (h : removeFrom? item quantity before = some after) :
    Loses item quantity.toNat before after := by
  induction before generalizing after with
  | nil =>
      rw [removeFrom?, if_neg hquantity] at h
      cases h
  | cons stack rest ih =>
      obtain ⟨own, held⟩ := stack
      rw [removeFrom?] at h
      split at h
      next hitem =>
        obtain rfl : own = item := hitem
        split at h
        · cases h
        next henough =>
          split at h
          next hall =>
            obtain rfl := Option.some.inj h
            exact .emptied (notMem_items_nil own) (congrArg UInt32.toNat hall)
          next hmore =>
            obtain rfl := Option.some.inj h
            have hle : quantity ≤ held := UInt32.not_lt.mp henough
            have hrest : held - quantity ≠ 0 := fun hzero =>
              hmore ((UInt32.sub_eq_iff_eq_add.mp hzero).trans (UInt32.zero_add quantity))
            refine .lessened (notMem_items_nil own) hrest ?_
            rw [UInt32.toNat_sub_of_le _ _ hle]
            exact Nat.sub_add_cancel (UInt32.le_iff_toNat_le.mp hle)
      next hother =>
        obtain ⟨lighter, hlighter, rfl⟩ := Option.map_eq_some_iff.mp h
        exact (ih hlighter).cons hother

theorem gains_addTo (item : Key) (quantity : UInt32) (contents : List Stack) :
    Gains item quantity.toNat contents (addTo item quantity contents) := by
  induction contents with
  | nil =>
      exact .started List.not_mem_nil (min_eq_left (toNat_le_maxCount quantity)).symm
  | cons stack rest ih =>
      obtain ⟨own, held⟩ := stack
      rw [addTo]
      split
      next hitem =>
        obtain rfl : own = item := hitem
        exact .grown (notMem_items_nil own) (toNat_addCounts held quantity)
      next hother => exact ih.cons hother

theorem gains_add {quantity : UInt32} (hquantity : quantity ≠ 0) (container : Container)
    (item : Key) :
    Gains item quantity.toNat container.contents (container.add item quantity).contents := by
  rw [add, if_neg hquantity]
  exact gains_addTo item quantity container.contents

/-! ## Items and counts -/

theorem quantityIn_append {left : List Stack} (hfirst : item ∉ left.map Stack.item)
    (right : List Stack) : quantityIn item (left ++ right) = quantityIn item right := by
  induction left with
  | nil => rfl
  | cons stack left ih =>
      obtain ⟨hother, hlater⟩ := List.ne_and_not_mem_of_not_mem_cons hfirst
      rw [List.cons_append, quantityIn_cons, if_neg hother.symm, ih hlater]

theorem quantityIn_append_cons {left : List Stack} (hfirst : item ∉ left.map Stack.item)
    (quantity : UInt32) (right : List Stack) :
    quantityIn item (left ++ ⟨item, quantity⟩ :: right) = quantity := by
  rw [quantityIn_append hfirst, quantityIn_cons, if_pos rfl]

theorem Gains.toNat_quantityIn (h : Gains item count before after) :
    (quantityIn item after).toNat = min ((quantityIn item before).toNat + count) maxCount := by
  cases h with
  | grown hfirst hgrown =>
      rw [quantityIn_append_cons hfirst, quantityIn_append_cons hfirst, hgrown]
  | started hfresh hstarted =>
      rw [quantityIn_append_cons hfresh, quantityIn_eq_zero hfresh, hstarted]
      exact congrArg (min · maxCount) (Nat.zero_add count).symm

/-- Only an item that there was none of comes in, and it comes in last. -/
theorem Gains.items_cases (h : Gains item count before after) :
    after.map Stack.item = before.map Stack.item ∨
      item ∉ before.map Stack.item ∧
        after.map Stack.item = before.map Stack.item ++ [item] := by
  cases h with
  | grown hfirst hgrown => exact Or.inl (by simp)
  | started hfresh hstarted => exact Or.inr ⟨hfresh, by simp⟩

/-- What is left and what was lost are together what there was. -/
theorem Loses.toNat_quantityIn (h : Loses item count before after)
    (hdistinct : (before.map Stack.item).Nodup) :
    (quantityIn item after).toNat + count = (quantityIn item before).toNat := by
  cases h with
  | @emptied left right quantity hfirst hall =>
      rw [List.map_append, List.map_cons, List.nodup_append, List.nodup_cons] at hdistinct
      obtain ⟨-, ⟨hlater, -⟩, -⟩ := hdistinct
      rw [quantityIn_append hfirst, quantityIn_eq_zero hlater, quantityIn_append_cons hfirst, hall]
      exact Nat.zero_add count
  | lessened hfirst hrest hlost =>
      rw [quantityIn_append_cons hfirst, quantityIn_append_cons hfirst, hlost]

theorem Loses.items_sublist (h : Loses item count before after) :
    (after.map Stack.item).Sublist (before.map Stack.item) := by
  cases h with
  | emptied hfirst hall =>
      rw [List.map_append, List.map_append, List.map_cons]
      exact (List.Sublist.refl _).append (List.sublist_cons_self _ _)
  | lessened hfirst hrest hlost =>
      rw [List.map_append, List.map_append]
      exact List.Sublist.refl _

/-! ## Stacks that are left out -/

/-- The stacks of all items but one. -/
theorem quantityIn_filter (item other : Key) (contents : List Stack) :
    quantityIn other (contents.filter fun stack => stack.item ≠ item) =
      if other = item then 0 else quantityIn other contents := by
  induction contents with
  | nil => exact (ite_self 0).symm
  | cons stack rest ih =>
      rw [List.filter_cons, quantityIn_cons]
      by_cases hitem : stack.item = item
      · rw [if_neg (by simpa using hitem), ih]
        split
        next => rfl
        next hother => rw [if_neg fun heq => hother (heq.symm.trans hitem)]
      · rw [if_pos (by simpa using hitem), quantityIn_cons, ih]
        split
        next hfound => rw [if_neg fun heq => hitem (hfound.trans heq)]
        next => rfl

theorem IsTidy.filter {contents : List Stack} (h : IsTidy contents) (keeps : Stack → Bool) :
    IsTidy (contents.filter keeps) :=
  ⟨h.distinct.sublist (List.filter_sublist.map _),
    fun stack hstack => h.filled stack (List.mem_of_mem_filter hstack)⟩

end Container

end TextAdventure
