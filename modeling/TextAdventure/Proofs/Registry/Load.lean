import Mathlib.Algebra.BigOperators.Group.Finset.Basic
import Mathlib.Algebra.Order.BigOperators.Group.Finset
import Mathlib.Algebra.Order.Field.Rat
import Mathlib.Logic.Relation
import TextAdventure.Input.Scope
import TextAdventure.Proofs.Container.Counts
import TextAdventure.Registry.Load

/-!
# Exact loads

With weights read as exact numbers the carried weight of a holder does not depend on the
order of the stacks: it is the sum, over all keys that the holder reaches through items inside
items, of the weight of what each of them contains.  Each container is counted once, however
many units of it there are and however the containers hold each other.
-/

namespace TextAdventure

/-- Exact numbers, with weights read by a given function. -/
def Arithmetic.exact (value : Weight → ℚ≥0) : Arithmetic where
  Amount := ℚ≥0
  zero := 0
  ofWeight := value
  times amount count := count.toNat • amount
  add left right := left + right
  exceeds left right := decide (right < left)

variable {value : Weight → ℚ≥0}

/-! ## Totals -/

namespace Load

/-- The exact weight of a load. -/
def exactTotal (value : Weight → ℚ≥0) : Load → ℚ≥0
  | nil => 0
  | cons weight quantity inside rest =>
      quantity.toNat • value weight + exactTotal value inside + exactTotal value rest

theorem totalFrom_exact (load : Load) (sum : ℚ≥0) :
    load.totalFrom (Arithmetic.exact value) sum = sum + load.exactTotal value := by
  induction load generalizing sum with
  | nil => exact (add_zero sum).symm
  | cons weight quantity inside rest ihInside ihRest =>
      have hinside : inside.totalFrom (Arithmetic.exact value) (Arithmetic.exact value).zero =
          inside.exactTotal value := (ihInside 0).trans (zero_add (inside.exactTotal value))
      refine (ihRest _).trans ?_
      rw [hinside, exactTotal]
      change sum + quantity.toNat • value weight + inside.exactTotal value +
        rest.exactTotal value = _
      rw [← add_assoc, ← add_assoc]

theorem total_exact (load : Load) :
    load.total (Arithmetic.exact value) = load.exactTotal value :=
  (totalFrom_exact load 0).trans (zero_add (load.exactTotal value))

end Load

namespace Registry

/-! ## What contents weigh -/

/-- The weight of one unit; only items weigh anything. -/
def unitWeight (value : Weight → ℚ≥0) (registry : Registry) (key : Key) : ℚ≥0 :=
  match registry.item? key with
  | none => 0
  | some item => value item.weight

/-- The weight of what the container of a key has, without what is inside it. -/
def weigh (value : Weight → ℚ≥0) (registry : Registry) (key : Key) : ℚ≥0 :=
  Container.tally (registry.unitWeight value) (Scope.stacksOf registry key)

theorem stacksOf_eq_getD (registry : Registry) (key : Key) :
    Scope.stacksOf registry key = ((registry.container? key).map Container.contents).getD [] := by
  rw [Scope.stacksOf]
  cases registry.container? key <;> rfl

/-! ## Reach -/

/-- A holder contains an item. -/
def Contains (registry : Registry) (holder key : Key) : Prop :=
  key ∈ (Scope.stacksOf registry holder).map Stack.item ∧ (registry.item? key).isSome

/-- A holder reaches itself and all items inside what it reaches. -/
def Reaches (registry : Registry) : Key → Key → Prop :=
  Relation.ReflTransGen registry.Contains

/-- What it means that unpacking stacks, after some keys have been seen, gives a load and
opens these keys. -/
structure Unpacks (value : Weight → ℚ≥0) (registry : Registry) (seen : List Key)
    (contents : List Stack) (load : Load) (opened : List Key) : Prop where
  distinct : opened.Nodup
  fresh : ∀ key ∈ opened, key ∉ seen
  /-- Only items in the stacks are opened, and what they reach. -/
  reached : ∀ key ∈ opened, ∃ stack ∈ contents, (registry.item? stack.item).isSome ∧
    registry.Reaches stack.item key
  /-- Every item in the stacks has been seen or is opened. -/
  covered : ∀ stack ∈ contents, (registry.item? stack.item).isSome →
    stack.item ∈ opened ∨ stack.item ∈ seen
  /-- The same holds of the items inside the keys that are opened. -/
  closed : ∀ key ∈ opened, ∀ inner, registry.Contains key inner → inner ∈ opened ∨ inner ∈ seen
  total : load.exactTotal value = Container.tally (registry.unitWeight value) contents +
    (opened.map (registry.weigh value)).sum

namespace Unpacks

variable {registry : Registry} {seen met : List Key} {stack : Stack} {rest : List Stack}
  {load inside : Load} {opened within : List Key} {item : Item}

theorem nil : Unpacks value registry seen [] .nil [] where
  distinct := List.nodup_nil
  fresh := fun _ h => by cases h
  reached := fun _ h => by cases h
  covered := fun _ h => by cases h
  closed := fun _ h => by cases h
  total := (add_zero (0 : ℚ≥0)).symm

/-- A stack of something that is no item is left out. -/
theorem skip (hitem : registry.item? stack.item = none)
    (h : Unpacks value registry seen rest load opened) :
    Unpacks value registry seen (stack :: rest) load opened where
  distinct := h.distinct
  fresh := h.fresh
  reached key hkey := by
    obtain ⟨other, hother, hreaches⟩ := h.reached key hkey
    exact ⟨other, List.mem_cons_of_mem _ hother, hreaches⟩
  covered other hother hsome := by
    rcases List.mem_cons.mp hother with rfl | hrest
    · rw [hitem] at hsome
      cases hsome
    · exact h.covered other hrest hsome
  closed := h.closed
  total := by
    rw [h.total, Container.tally_cons, unitWeight, hitem, nsmul_zero, zero_add]

/-- A stack of an item that has been seen counts without its contents. -/
theorem again (hitem : registry.item? stack.item = some item) (hseen : stack.item ∈ seen)
    (h : Unpacks value registry seen rest load opened) :
    Unpacks value registry seen (stack :: rest)
      (.cons item.weight stack.quantity .nil load) opened where
  distinct := h.distinct
  fresh := h.fresh
  reached key hkey := by
    obtain ⟨other, hother, hreaches⟩ := h.reached key hkey
    exact ⟨other, List.mem_cons_of_mem _ hother, hreaches⟩
  covered other hother hsome := by
    rcases List.mem_cons.mp hother with rfl | hrest
    · exact Or.inr hseen
    · exact h.covered other hrest hsome
  closed := h.closed
  total := by
    rw [Load.exactTotal, Load.exactTotal, h.total, Container.tally_cons, unitWeight, hitem,
      add_zero, add_assoc]

/-- A stack of a new item counts with its contents, which are opened first. -/
theorem opening (hitem : registry.item? stack.item = some item) (hseen : stack.item ∉ seen)
    (hinside : Unpacks value registry (stack.item :: seen) (Scope.stacksOf registry stack.item)
      inside within)
    (hmet : ∀ key, key ∈ met ↔ key ∈ within ∨ key ∈ stack.item :: seen)
    (h : Unpacks value registry met rest load opened) :
    Unpacks value registry seen (stack :: rest)
      (.cons item.weight stack.quantity inside load) (stack.item :: within ++ opened) where
  distinct := by
    refine List.nodup_append.mpr ⟨List.nodup_cons.mpr ⟨fun hmem => ?_, hinside.distinct⟩,
      h.distinct, fun key hkey other hother heq => ?_⟩
    · exact hinside.fresh _ hmem List.mem_cons_self
    · refine h.fresh other hother ((hmet other).mpr ?_)
      rcases List.mem_cons.mp (heq ▸ hkey) with rfl | hwithin
      · exact Or.inr List.mem_cons_self
      · exact Or.inl hwithin
  fresh key hkey hmem := by
    rcases List.mem_append.mp hkey with hleft | hright
    · rcases List.mem_cons.mp hleft with rfl | hwithin
      · exact hseen hmem
      · exact hinside.fresh key hwithin (List.mem_cons_of_mem _ hmem)
    · exact h.fresh key hright ((hmet key).mpr (Or.inr (List.mem_cons_of_mem _ hmem)))
  reached key hkey := by
    have hsome : (registry.item? stack.item).isSome := hitem ▸ rfl
    rcases List.mem_append.mp hkey with hleft | hright
    · refine ⟨stack, List.mem_cons_self, hsome, ?_⟩
      rcases List.mem_cons.mp hleft with rfl | hwithin
      · exact Relation.ReflTransGen.refl
      · obtain ⟨inner, hinner, hsomeInner, hreaches⟩ := hinside.reached key hwithin
        exact Relation.ReflTransGen.head ⟨List.mem_map_of_mem hinner, hsomeInner⟩ hreaches
    · obtain ⟨other, hother, hreaches⟩ := h.reached key hright
      exact ⟨other, List.mem_cons_of_mem _ hother, hreaches⟩
  covered other hother hsome := by
    rcases List.mem_cons.mp hother with rfl | hrest
    · exact Or.inl List.mem_cons_self
    · rcases h.covered other hrest hsome with hopened | hold
      · exact Or.inl (List.mem_append_right _ hopened)
      · rcases (hmet _).mp hold with hwithin | hcons
        · exact Or.inl (List.mem_append_left _ (List.mem_cons_of_mem _ hwithin))
        · rcases List.mem_cons.mp hcons with heq | hbefore
          · exact Or.inl (heq ▸ List.mem_cons_self)
          · exact Or.inr hbefore
  closed key hkey inner hinner := by
    have hmetCase : inner ∈ within ∨ inner ∈ stack.item :: seen →
        inner ∈ stack.item :: within ++ opened ∨ inner ∈ seen := by
      rintro (hwithin | hcons)
      · exact Or.inl (List.mem_append_left _ (List.mem_cons_of_mem _ hwithin))
      · rcases List.mem_cons.mp hcons with heq | hbefore
        · exact Or.inl (heq ▸ List.mem_cons_self)
        · exact Or.inr hbefore
    rcases List.mem_append.mp hkey with hleft | hright
    · rcases List.mem_cons.mp hleft with rfl | hwithin
      · obtain ⟨hmem, hsome⟩ := hinner
        obtain ⟨other, hother, rfl⟩ := List.mem_map.mp hmem
        exact hmetCase (hinside.covered other hother hsome)
      · exact hmetCase (hinside.closed key hwithin inner hinner)
    · rcases h.closed key hright inner hinner with hopened | hold
      · exact Or.inl (List.mem_append_right _ hopened)
      · exact hmetCase ((hmet inner).mp hold)
  total := by
    have hunit : registry.unitWeight value stack.item = value item.weight := by
      rw [unitWeight, hitem]
    rw [Load.exactTotal, hinside.total, h.total, Container.tally_cons, hunit, List.map_append,
      List.map_cons, List.sum_append, List.sum_cons, weigh]
    ac_rfl

end Unpacks

/-- How stacks are unpacked into a load after some keys have been seen, and which keys are opened
in their order. -/
inductive Unpacking (registry : Registry) : List Key → List Stack → Load → List Key → Prop where
  | nil (seen : List Key) : Unpacking registry seen [] .nil []
  | skip {seen : List Key} {stack : Stack} {rest : List Stack} {load : Load} {opened : List Key}
      (hitem : registry.item? stack.item = none) (h : Unpacking registry seen rest load opened) :
      Unpacking registry seen (stack :: rest) load opened
  | again {seen : List Key} {stack : Stack} {rest : List Stack} {load : Load} {opened : List Key}
      {item : Item} (hitem : registry.item? stack.item = some item) (hseen : stack.item ∈ seen)
      (h : Unpacking registry seen rest load opened) :
      Unpacking registry seen (stack :: rest) (.cons item.weight stack.quantity .nil load) opened
  | opening {seen met : List Key} {stack : Stack} {rest : List Stack} {load inside : Load}
      {opened within : List Key} {item : Item} (hitem : registry.item? stack.item = some item)
      (hseen : stack.item ∉ seen)
      (hinside : Unpacking registry (stack.item :: seen) (Scope.stacksOf registry stack.item)
        inside within)
      (hmet : ∀ key, key ∈ met ↔ key ∈ within ∨ key ∈ stack.item :: seen)
      (h : Unpacking registry met rest load opened) :
      Unpacking registry seen (stack :: rest) (.cons item.weight stack.quantity inside load)
        (stack.item :: within ++ opened)

/-- The keys that are opened are those seen afterwards and not before. -/
theorem exists_unpacking (registry : Registry) (seen : List Key) (contents : List Stack) :
    ∃ opened, Unpacking registry seen contents (registry.unpack seen contents).1 opened ∧
      ∀ key, key ∈ (registry.unpack seen contents).2.1 ↔ key ∈ opened ∨ key ∈ seen := by
  fun_induction registry.unpack seen contents with
  | case1 seen => exact ⟨[], .nil seen, fun key => by simp⟩
  | case2 seen stack rest hitem ih =>
      obtain ⟨opened, hopened, hlater⟩ := ih
      exact ⟨opened, .skip hitem hopened, hlater⟩
  | case3 seen stack rest item hitem hseen load later heq ih =>
      rw [heq] at ih
      obtain ⟨opened, hopened, hlater⟩ := ih
      exact ⟨opened, .again hitem hseen hopened, hlater⟩
  | case4 seen stack rest item hitem hseen within _ inside met heqInside _ load later heq ihInside
      ih =>
      rw [heqInside] at ihInside
      rw [heq] at ih
      obtain ⟨below, hbelow, hmet⟩ := ihInside
      obtain ⟨opened, hopened, hlater⟩ := ih
      have hinside : Unpacking registry (stack.item :: seen)
          (Scope.stacksOf registry stack.item) inside below := by
        rw [stacksOf_eq_getD]
        exact hbelow
      refine ⟨_, .opening hitem hseen hinside hmet hopened, fun key => ?_⟩
      rw [hlater, hmet, List.mem_append, List.mem_cons, List.mem_cons]
      tauto

theorem Unpacking.unpacks {registry : Registry} {seen : List Key} {contents : List Stack}
    {load : Load} {opened : List Key} (h : Unpacking registry seen contents load opened)
    (value : Weight → ℚ≥0) : Unpacks value registry seen contents load opened := by
  induction h with
  | nil seen => exact .nil
  | skip hitem _ ih => exact ih.skip hitem
  | again hitem hseen _ ih => exact ih.again hitem hseen
  | opening hitem hseen _ hmet _ ihInside ih => exact ihInside.opening hitem hseen hmet ih

/-- Together with the holder, the keys opened in its container are all it reaches. -/
theorem Unpacks.mem_iff_reaches {registry : Registry} {holder : Key} {load : Load}
    {opened : List Key}
    (h : Unpacks value registry [holder] (Scope.stacksOf registry holder) load opened)
    (key : Key) : key ∈ holder :: opened ↔ registry.Reaches holder key := by
  constructor
  · intro hkey
    rcases List.mem_cons.mp hkey with rfl | hmem
    · exact Relation.ReflTransGen.refl
    · obtain ⟨stack, hstack, hsome, hreaches⟩ := h.reached key hmem
      exact Relation.ReflTransGen.head ⟨List.mem_map_of_mem hstack, hsome⟩ hreaches
  · intro hreaches
    have hinner {inner : Key} (hmem : inner ∈ opened ∨ inner ∈ [holder]) :
        inner ∈ holder :: opened :=
      hmem.elim (List.mem_cons_of_mem holder) fun hholder =>
        List.mem_cons.mpr (Or.inl (List.mem_singleton.mp hholder))
    induction hreaches with
    | refl => exact List.mem_cons_self
    | tail _ hcontains ih =>
        rcases List.mem_cons.mp ih with rfl | hmem
        · obtain ⟨stack, hstack, rfl⟩ := List.mem_map.mp hcontains.1
          exact hinner (h.covered stack hstack hcontains.2)
        · exact hinner (h.closed _ hmem _ hcontains)

theorem loadOf_eq (registry : Registry) (holder : Key) :
    registry.loadOf holder = (registry.unpack [holder] (Scope.stacksOf registry holder)).1 := by
  rw [loadOf, Scope.stacksOf]
  cases registry.container? holder with
  | none => rw [unpack]
  | some container => rfl

/-- The carried weight in exact numbers: what each key that the holder reaches contains,
counted once. -/
theorem carriedWeight_exact (value : Weight → ℚ≥0) (registry : Registry) (holder : Key) :
    ∃ reached : Finset Key, (∀ key, key ∈ reached ↔ registry.Reaches holder key) ∧
      registry.carriedWeight (Arithmetic.exact value) holder =
        ∑ key ∈ reached, registry.weigh value key := by
  obtain ⟨opened, hopening, -⟩ :=
    exists_unpacking registry [holder] (Scope.stacksOf registry holder)
  have hopened := hopening.unpacks value
  have hfresh : holder ∉ opened := fun hmem =>
    hopened.fresh holder hmem (List.mem_singleton_self holder)
  refine ⟨(holder :: opened).toFinset, fun key => ?_, ?_⟩
  · rw [List.mem_toFinset]
    exact hopened.mem_iff_reaches key
  · rw [carriedWeight, loadOf_eq, Load.total_exact, hopened.total,
      List.sum_toFinset _ (List.nodup_cons.mpr ⟨hfresh, hopened.distinct⟩), List.map_cons,
      List.sum_cons, weigh]

end Registry

end TextAdventure
