import TextAdventure.Registry

/-!
# Loads

The load of a holder is what its container holds, with the contents of the
containers inside, each container unpacked where it is first met.  The carried
weight is the total of the load, added up in the order of the stacks.
-/

namespace TextAdventure

/-- Stacks of items in order, each with the load inside the item. -/
inductive Load where
  | nil
  | cons (weight : Weight) (quantity : UInt32) (inside rest : Load)
  deriving DecidableEq, Repr

namespace Load

/-- Add a load to a sum: first a stack's own weight, then what is inside, then the rest. -/
def totalFrom (arithmetic : Arithmetic) (sum : arithmetic.Amount) : Load → arithmetic.Amount
  | nil => sum
  | cons weight quantity inside rest =>
      let own := arithmetic.times (arithmetic.ofWeight weight) quantity
      let contents := totalFrom arithmetic arithmetic.zero inside
      totalFrom arithmetic (arithmetic.add (arithmetic.add sum own) contents) rest

def total (arithmetic : Arithmetic) (load : Load) : arithmetic.Amount :=
  totalFrom arithmetic arithmetic.zero load

end Load

namespace Registry

/-- How many registered keys have not been unpacked yet. -/
def unseen (registry : Registry) (seen : List Key) : Nat :=
  (registry.keys.filter fun key => key ∉ seen).length

theorem unseen_le {registry : Registry} {seen later : List Key} (h : seen ⊆ later) :
    registry.unseen later ≤ registry.unseen seen := by
  unfold unseen
  simp only [← List.countP_eq_length_filter]
  refine List.countP_mono_left fun key _ hkey => ?_
  simp only [decide_eq_true_eq] at hkey ⊢
  exact fun hmem => hkey (h hmem)

theorem countP_lt_of_imp {α : Type} {p q : α → Bool} {x : α} :
    ∀ {xs : List α}, x ∈ xs → (∀ y, q y = true → p y = true) → p x = true → q x = false →
      xs.countP q < xs.countP p
  | y :: rest, hmem, himp, hp, hq => by
      have hrest : rest.countP q ≤ rest.countP p :=
        List.countP_mono_left fun z _ hz => himp z hz
      simp only [List.countP_cons]
      rcases List.mem_cons.mp hmem with rfl | hmem
      · simp only [hp, hq]
        simp
        omega
      · have ih := countP_lt_of_imp hmem himp hp hq
        have hy : (if q y then 1 else 0) ≤ (if p y then 1 else 0) := by
          split
          next hqy => exact Nat.le_of_eq (if_pos (himp y hqy)).symm
          · exact Nat.zero_le _
        omega

theorem unseen_cons_lt {registry : Registry} {seen : List Key} {key : Key}
    (hkey : key ∈ registry.keys) (hseen : key ∉ seen) :
    registry.unseen (key :: seen) < registry.unseen seen := by
  unfold unseen
  simp only [← List.countP_eq_length_filter]
  refine countP_lt_of_imp (x := key) hkey (fun other hother => ?_) (by simpa using hseen) (by simp)
  simp only [List.mem_cons, not_or, decide_eq_true_eq] at hother ⊢
  exact hother.2

theorem mem_keys_of_item? {registry : Registry} {key : Key} {item : Item}
    (h : registry.item? key = some item) : key ∈ registry.keys := by
  refine Decidable.byContradiction fun hnot => ?_
  rw [item?, get?_eq_none_iff.mpr hnot] at h
  cases h

/-- Unpack stacks in order.  Besides the load this gives the keys seen afterwards. -/
def unpack (registry : Registry) (seen : List Key) (contents : List Stack) :
    Load × { later : List Key // seen ⊆ later } :=
  match contents with
  | [] => (.nil, ⟨seen, fun _ h => h⟩)
  | stack :: rest =>
      match hitem : registry.item? stack.item with
      | none => registry.unpack seen rest
      | some item =>
          if hseen : stack.item ∈ seen then
            let (load, later) := registry.unpack seen rest
            (.cons item.weight stack.quantity .nil load, later)
          else
            let within := ((registry.container? stack.item).map Container.contents).getD []
            have : registry.unseen (stack.item :: seen) < registry.unseen seen :=
              unseen_cons_lt (mem_keys_of_item? hitem) hseen
            let (inside, met) := registry.unpack (stack.item :: seen) within
            have : registry.unseen met.1 < registry.unseen seen :=
              Nat.lt_of_le_of_lt (unseen_le met.2) this
            let (load, later) := registry.unpack met.1 rest
            (.cons item.weight stack.quantity inside load,
              ⟨later.1, fun _ h => later.2 (met.2 (List.mem_cons_of_mem _ h))⟩)
termination_by (registry.unseen seen, contents.length)

def loadOf (registry : Registry) (holder : Key) : Load :=
  match registry.container? holder with
  | none => .nil
  | some container => (registry.unpack [holder] container.contents).1

/-- The weight of all that a holder carries, contents of contents included. -/
def carriedWeight (arithmetic : Arithmetic) (registry : Registry) (holder : Key) :
    arithmetic.Amount :=
  (registry.loadOf holder).total arithmetic

end Registry

end TextAdventure
