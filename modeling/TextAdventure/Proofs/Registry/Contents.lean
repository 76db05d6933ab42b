import TextAdventure.Proofs.Registry.Load

/-!
# Contents counted once

A load is added up term by term, a term for each stack of an item.  Listed instead of added, the
terms of the load of a holder are those of the containers that it reaches, each container counted
once, whatever else holds it.  So the carried weight is the sum over these containers wherever
terms can be added in any order.
-/

namespace TextAdventure

/-- So many units of one weight. -/
abbrev Load.Term : Type := Weight × UInt32

namespace Arithmetic

/-- Amounts that keep the terms they were added up of. -/
def itemized : Arithmetic where
  Amount := List Load.Term
  zero := []
  ofWeight weight := [(weight, 1)]
  times terms quantity := terms.map fun term => (term.1, quantity)
  add left right := left ++ right
  exceeds _ _ := false

variable {M : Type} [AddCommMonoid M]

/-- Amounts that can be added in any order, with weights read by a given function. -/
def summing (value : Weight → M) : Arithmetic where
  Amount := M
  zero := 0
  ofWeight := value
  times amount quantity := quantity.toNat • amount
  add left right := left + right
  exceeds _ _ := false

end Arithmetic

/-- What a term adds to a sum. -/
def Load.worth {M : Type} [AddCommMonoid M] (value : Weight → M) (term : Term) : M :=
  term.2.toNat • value term.1

/-! ## Terms of a load -/

namespace Load

def terms : Load → List Term
  | nil => []
  | cons weight quantity inside rest => (weight, quantity) :: (inside.terms ++ rest.terms)

theorem totalFrom_itemized (load : Load) (sum : List Term) :
    load.totalFrom Arithmetic.itemized sum = sum ++ load.terms := by
  induction load generalizing sum with
  | nil => exact (List.append_nil sum).symm
  | cons weight quantity inside rest ihInside ihRest =>
      have hinside : inside.totalFrom Arithmetic.itemized Arithmetic.itemized.zero =
          inside.terms := ihInside []
      refine (ihRest _).trans ?_
      rw [hinside, terms]
      change sum ++ [(weight, quantity)] ++ inside.terms ++ rest.terms = _
      rw [List.append_assoc, List.append_assoc, List.singleton_append]

theorem total_itemized (load : Load) : load.total Arithmetic.itemized = load.terms :=
  totalFrom_itemized load []

variable {M : Type} [AddCommMonoid M]

theorem totalFrom_summing (value : Weight → M) (load : Load) (sum : M) :
    load.totalFrom (Arithmetic.summing value) sum = sum + (load.terms.map (worth value)).sum := by
  induction load generalizing sum with
  | nil => exact (add_zero sum).symm
  | cons weight quantity inside rest ihInside ihRest =>
      have hinside : inside.totalFrom (Arithmetic.summing value) (Arithmetic.summing value).zero =
          (inside.terms.map (worth value)).sum :=
        (ihInside 0).trans (zero_add (inside.terms.map (worth value)).sum)
      refine (ihRest _).trans ?_
      rw [hinside, terms, List.map_cons, List.map_append, List.sum_cons, List.sum_append]
      change sum + worth value (weight, quantity) + (inside.terms.map (worth value)).sum +
        (rest.terms.map (worth value)).sum = _
      rw [add_assoc, add_assoc]

theorem total_summing (value : Weight → M) (load : Load) :
    load.total (Arithmetic.summing value) = (load.terms.map (worth value)).sum :=
  (totalFrom_summing value load 0).trans (zero_add (load.terms.map (worth value)).sum)

end Load

namespace Registry

open Load (Term worth)

variable {registry : Registry} {holder key : Key}

/-- The terms of some stacks, one for each that is of a registered item. -/
def termsOf (registry : Registry) (contents : List Stack) : List Term :=
  contents.filterMap fun stack =>
    (registry.item? stack.item).map fun item => (item.weight, stack.quantity)

/-- The terms of the stacks in the container of a key. -/
def termsIn (registry : Registry) (key : Key) : List Term :=
  registry.termsOf (Scope.stacksOf registry key)

theorem termsOf_cons {stack : Stack} {item : Item} (hitem : registry.item? stack.item = some item)
    (rest : List Stack) :
    registry.termsOf (stack :: rest) = (item.weight, stack.quantity) :: registry.termsOf rest := by
  rw [termsOf, List.filterMap_cons, hitem, Option.map_some, termsOf]

/-- Each stack met on the way is a term of the load, and so are the stacks in each key opened. -/
theorem Unpacking.terms_perm {seen : List Key} {contents : List Stack} {load : Load}
    {opened : List Key} (h : Unpacking registry seen contents load opened) :
    load.terms.Perm (registry.termsOf contents ++ opened.flatMap registry.termsIn) := by
  induction h with
  | nil seen => exact List.Perm.refl _
  | skip hitem _ ih => rwa [termsOf, List.filterMap_cons, hitem]
  | again hitem _ _ ih =>
      rw [termsOf_cons hitem]
      exact ih.cons _
  | opening hitem _ _ _ _ ihInside ih =>
      rw [termsOf_cons hitem, List.flatMap_append, List.flatMap_cons]
      exact ((ihInside.append ih).trans (List.perm_append_comm_assoc _ _ _)).cons _

/-! ## Containers within reach -/

/-- The container of a holder has a stack of a registered item that has a container itself. -/
structure Opens (registry : Registry) (holder key : Key) : Prop where
  stacked : ∃ stack ∈ Scope.stacksOf registry holder, stack.item = key
  isItem : (registry.item? key).isSome
  isContainer : (registry.container? key).isSome

theorem Opens.contains (h : registry.Opens holder key) : registry.Contains holder key :=
  ⟨List.mem_map.mpr h.stacked, h.isItem⟩

theorem isSome_container?_of_mem {stack : Stack} (h : stack ∈ Scope.stacksOf registry holder) :
    (registry.container? holder).isSome := by
  rw [Scope.stacksOf] at h
  split at h
  · cases h
  next container hcontainer => exact hcontainer ▸ rfl

/-- Whatever is reached inside a container is reached through containers. -/
theorem reaches_iff (hkey : (registry.container? key).isSome) :
    registry.Reaches holder key ↔ Relation.ReflTransGen registry.Opens holder key := by
  have hopens : registry.Opens ≤ registry.Contains := fun _ _ h => h.contains
  refine ⟨fun h => ?_, Relation.ReflTransGen.mono hopens holder key⟩
  induction h with
  | refl => exact Relation.ReflTransGen.refl
  | tail _ hcontains ih =>
      obtain ⟨stack, hstack, hitem⟩ := List.mem_map.mp hcontains.1
      exact (ih (isSome_container?_of_mem hstack)).tail ⟨⟨stack, hstack, hitem⟩, hcontains.2, hkey⟩

/-- Keys without a container have no part in what is collected of the containers. -/
theorem flatMap_termsIn_filter (registry : Registry) (keys : List Key) :
    (keys.filter fun key => (registry.container? key).isSome).flatMap registry.termsIn =
      keys.flatMap registry.termsIn := by
  induction keys with
  | nil => rfl
  | cons key keys ih =>
      rw [List.filter_cons, List.flatMap_cons]
      split
      next => rw [List.flatMap_cons, ih]
      next hnone =>
        have hempty : registry.termsIn key = [] := by
          rw [termsIn, Scope.stacksOf, Option.not_isSome_iff_eq_none.mp hnone]
          rfl
        rw [hempty, List.nil_append, ih]

/-- The terms of which the carried weight is added up are those of the containers that the holder
reaches through items that have containers, each container taken once. -/
theorem carriedWeight_terms (registry : Registry) (holder : Key) :
    ∃ containers : List Key, containers.Nodup ∧
      (∀ key, key ∈ containers ↔
        Relation.ReflTransGen registry.Opens holder key ∧ (registry.container? key).isSome) ∧
      (registry.carriedWeight Arithmetic.itemized holder).Perm
        (containers.flatMap registry.termsIn) ∧
      ∀ (M : Type) [AddCommMonoid M] (value : Weight → M),
        registry.carriedWeight (Arithmetic.summing value) holder =
          (containers.map fun key => ((registry.termsIn key).map (worth value)).sum).sum := by
  obtain ⟨opened, hopening, -⟩ :=
    exists_unpacking registry [holder] (Scope.stacksOf registry holder)
  have hopened := hopening.unpacks fun _ => 0
  have hfresh : holder ∉ opened := fun hmem =>
    hopened.fresh holder hmem (List.mem_singleton_self holder)
  have hterms : (registry.loadOf holder).terms.Perm
      (((holder :: opened).filter fun key => (registry.container? key).isSome).flatMap
        registry.termsIn) := by
    rw [flatMap_termsIn_filter, List.flatMap_cons, loadOf_eq]
    exact hopening.terms_perm
  refine ⟨(holder :: opened).filter fun key => (registry.container? key).isSome,
    (List.nodup_cons.mpr ⟨hfresh, hopened.distinct⟩).filter _, fun key => ?_, ?_, ?_⟩
  · rw [List.mem_filter, hopened.mem_iff_reaches]
    exact and_congr_left reaches_iff
  · rw [carriedWeight, Load.total_itemized]
    exact hterms
  · intro M _ value
    rw [carriedWeight, Load.total_summing, (hterms.map (worth value)).sum_eq, List.map_flatMap,
      List.flatMap, List.sum_flatten, List.map_map]
    rfl

end Registry

end TextAdventure
