import TextAdventure.Container

/-!
# Tidy containers

A container is tidy when each item has one stack and no stack is empty.  Adding and removing
keep it so.
-/

namespace TextAdventure

theorem addCounts_ne_zero {left right : UInt32} (h : left ≠ 0) : addCounts left right ≠ 0 := by
  intro hzero
  have hleft : left.toNat ≠ 0 := fun hnat => h (UInt32.toNat_inj.mp hnat)
  have hnat : (addCounts left right).toNat = 0 := congrArg UInt32.toNat hzero
  have hsize : UInt32.size = 4294967296 := rfl
  rw [addCounts, UInt32.toNat_ofNat_of_lt' (by omega)] at hnat
  omega

namespace Container

/-- Stacks of different items, each of at least one unit. -/
structure IsTidy (contents : List Stack) : Prop where
  distinct : (contents.map Stack.item).Nodup
  filled : ∀ stack ∈ contents, stack.quantity ≠ 0

instance (contents : List Stack) : Decidable (IsTidy contents) :=
  decidable_of_decidable_of_iff
    (p := (contents.map Stack.item).Nodup ∧ ∀ stack ∈ contents, stack.quantity ≠ 0)
    ⟨fun h => ⟨h.1, h.2⟩, fun h => ⟨h.distinct, h.filled⟩⟩

theorem isTidy_nil : IsTidy [] := ⟨List.nodup_nil, fun _ h => by cases h⟩

theorem isTidy_cons_iff {stack : Stack} {rest : List Stack} :
    IsTidy (stack :: rest) ↔
      (stack.item ∉ rest.map Stack.item ∧ stack.quantity ≠ 0) ∧ IsTidy rest := by
  constructor
  · intro h
    obtain ⟨hfirst, hrest⟩ := List.nodup_cons.mp h.distinct
    obtain ⟨hstack, hfilled⟩ := List.forall_mem_cons.mp h.filled
    exact ⟨⟨hfirst, hstack⟩, hrest, hfilled⟩
  · rintro ⟨⟨hfirst, hstack⟩, hrest, hfilled⟩
    exact ⟨List.nodup_cons.mpr ⟨hfirst, hrest⟩, List.forall_mem_cons.mpr ⟨hstack, hfilled⟩⟩

/-! ## Adding -/

theorem mem_items_addTo {item other : Key} {quantity : UInt32} {contents : List Stack}
    (h : other ∈ (addTo item quantity contents).map Stack.item) :
    other = item ∨ other ∈ contents.map Stack.item := by
  induction contents with
  | nil => exact Or.inl (List.mem_singleton.mp h)
  | cons stack rest ih =>
      rw [addTo] at h
      split at h
      · rcases List.mem_cons.mp h with hnew | hrest
        · exact Or.inl hnew
        · exact Or.inr (List.mem_cons_of_mem _ hrest)
      · rcases List.mem_cons.mp h with rfl | hrest
        · exact Or.inr List.mem_cons_self
        · rcases ih hrest with hnew | hold
          · exact Or.inl hnew
          · exact Or.inr (List.mem_cons_of_mem _ hold)

theorem IsTidy.addTo {contents : List Stack} (h : IsTidy contents) (item : Key)
    {quantity : UInt32} (hquantity : quantity ≠ 0) : IsTidy (addTo item quantity contents) := by
  induction contents with
  | nil => exact isTidy_cons_iff.mpr ⟨⟨List.not_mem_nil, hquantity⟩, isTidy_nil⟩
  | cons stack rest ih =>
      obtain ⟨⟨hfresh, hfilled⟩, hrest⟩ := isTidy_cons_iff.mp h
      rw [Container.addTo]
      split
      next hitem =>
        subst hitem
        exact isTidy_cons_iff.mpr ⟨⟨hfresh, addCounts_ne_zero hfilled⟩, hrest⟩
      next hitem =>
        refine isTidy_cons_iff.mpr ⟨⟨fun hmem => ?_, hfilled⟩, ih hrest⟩
        rcases mem_items_addTo hmem with heq | hold
        · exact hitem heq
        · exact hfresh hold

theorem IsTidy.add {container : Container} (h : IsTidy container.contents) (item : Key)
    (quantity : UInt32) : IsTidy (container.add item quantity).contents := by
  unfold Container.add
  split
  · exact h
  next hquantity => exact h.addTo item hquantity

/-! ## Removing -/

theorem items_subset_of_removeFrom? {item : Key} {quantity : UInt32}
    {contents after : List Stack} (h : removeFrom? item quantity contents = some after) :
    after.map Stack.item ⊆ contents.map Stack.item := by
  induction contents generalizing after with
  | nil =>
      rw [removeFrom?] at h
      split at h
      · cases h
        exact fun _ hmem => hmem
      · cases h
  | cons stack rest ih =>
      rw [removeFrom?] at h
      split at h
      next hitem =>
        split at h
        · cases h
        · split at h
          · cases h
            exact List.subset_cons_self _ _
          · cases h
            rw [List.map_cons, List.map_cons, hitem]
            exact fun _ hmem => hmem
      · obtain ⟨lighter, hrest, rfl⟩ := Option.map_eq_some_iff.mp h
        exact List.cons_subset_cons _ (ih hrest)

theorem IsTidy.removeFrom? {contents after : List Stack} (h : IsTidy contents) {item : Key}
    {quantity : UInt32} (hafter : removeFrom? item quantity contents = some after) :
    IsTidy after := by
  induction contents generalizing after with
  | nil =>
      rw [Container.removeFrom?] at hafter
      split at hafter
      · cases hafter
        exact h
      · cases hafter
  | cons stack rest ih =>
      obtain ⟨⟨hfresh, hfilled⟩, hrest⟩ := isTidy_cons_iff.mp h
      rw [Container.removeFrom?] at hafter
      split at hafter
      next hitem =>
        subst hitem
        split at hafter
        · cases hafter
        next henough =>
          split at hafter
          · cases hafter
            exact hrest
          next hmore =>
            cases hafter
            refine isTidy_cons_iff.mpr ⟨⟨hfresh, fun hzero => ?_⟩, hrest⟩
            exact hmore ((UInt32.sub_eq_iff_eq_add.mp hzero).trans (UInt32.zero_add quantity))
      · obtain ⟨lighter, hlighter, rfl⟩ := Option.map_eq_some_iff.mp hafter
        have hsubset := items_subset_of_removeFrom? hlighter
        exact isTidy_cons_iff.mpr ⟨⟨fun hmem => hfresh (hsubset hmem), hfilled⟩, ih hrest hlighter⟩

theorem IsTidy.remove? {container lighter : Container} (h : IsTidy container.contents)
    {item : Key} {quantity : UInt32} (hlighter : container.remove? item quantity = some lighter) :
    IsTidy lighter.contents := by
  obtain ⟨after, hafter, rfl⟩ := Option.map_eq_some_iff.mp hlighter
  exact h.removeFrom? hafter

end Container

end TextAdventure
