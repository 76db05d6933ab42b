import Mathlib.Data.List.Induction
import Mathlib.Logic.Function.Basic
import TextAdventure.Proofs.Container.Stacks

/-!
# Histories of a container

A container agrees with a ledger that only counts: whatever is added and removed, both have the
same counts and give the same answers.  The stacks of the container stand in the order in which
their items came in, counted from the last time that there was none.
-/

namespace TextAdventure.Container

/-! ## Changes -/

/-- What can be asked of a container. -/
inductive Change where
  | add (item : Key) (quantity : UInt32)
  | remove (item : Key) (quantity : UInt32)
  | removeAll (item : Key)
  deriving DecidableEq, Repr

/-- What is answered: nothing, whether so many units were there, or how many there were. -/
inductive Answer where
  | added
  | removed (enough : Bool)
  | cleared (count : Nat)
  deriving DecidableEq, Repr

/-- A container that holds fewer units than are to be removed stays as it is. -/
def carryOut (container : Container) : Change → Container × Answer
  | .add item quantity => (container.add item quantity, .added)
  | .remove item quantity =>
      match container.remove? item quantity with
      | none => (container, .removed false)
      | some lighter => (lighter, .removed true)
  | .removeAll item => (container.removeAll item, .cleared (container.quantityOf item).toNat)

/-- How many units there are of each item. -/
abbrev Ledger := Key → Nat

namespace Ledger

def blank : Ledger := fun _ => 0

def carryOut (ledger : Ledger) : Change → Ledger × Answer
  | .add item quantity =>
      (Function.update ledger item (min (ledger item + quantity.toNat) maxCount), .added)
  | .remove item quantity =>
      if quantity.toNat ≤ ledger item then
        (Function.update ledger item (ledger item - quantity.toNat), .removed true)
      else (ledger, .removed false)
  | .removeAll item => (Function.update ledger item 0, .cleared (ledger item))

end Ledger

/-- Changes are carried out one after another, and each of them is answered. -/
def history {State : Type} (carryOut : State → Change → State × Answer) (state : State) :
    List Change → State × List Answer
  | [] => (state, [])
  | change :: later =>
      let next := carryOut state change
      let last := history carryOut next.1 later
      (last.1, next.2 :: last.2)

/-- The container that changes make of the empty one. -/
def after (changes : List Change) : Container :=
  (history carryOut empty changes).1

/-- The ledger that changes make of the blank one. -/
def counted (changes : List Change) : Ledger :=
  (history Ledger.carryOut Ledger.blank changes).1

theorem history_concat {State : Type} (carryOut : State → Change → State × Answer) (state : State)
    (changes : List Change) (change : Change) :
    (history carryOut state (changes ++ [change])).1 =
      (carryOut (history carryOut state changes).1 change).1 := by
  induction changes generalizing state with
  | nil => rfl
  | cons first later ih => exact ih _

theorem after_concat (changes : List Change) (change : Change) :
    after (changes ++ [change]) = ((after changes).carryOut change).1 :=
  history_concat _ _ changes change

/-! ## Counts -/

variable {container : Container} {item : Key} {quantity : UInt32}

/-- The ledger that has the counts of a container. -/
def counts (container : Container) : Ledger :=
  fun item => (container.quantityOf item).toNat

theorem IsTidy.mem_items_iff (h : IsTidy container.contents) :
    item ∈ container.contents.map Stack.item ↔ container.counts item ≠ 0 := by
  have hfilled : ∀ stack ∈ container.contents, stack.item = item → stack.quantity ≠ 0 :=
    fun stack hstack _ => h.filled stack hstack
  rw [Container.mem_items_iff hfilled, counts, quantityOf, ne_eq, ne_eq, ← UInt32.toNat_inj]
  rfl

theorem counts_add (container : Container) (item : Key) (quantity : UInt32) :
    (container.add item quantity).counts =
      Function.update container.counts item
        (min (container.counts item + quantity.toNat) maxCount) := by
  funext other
  by_cases hother : other = item
  · subst hother
    rw [Function.update_self, counts, counts, add]
    split
    next hzero =>
      rw [hzero]
      exact (min_eq_left (toNat_le_maxCount _)).symm
    next => exact (gains_addTo other quantity container.contents).toNat_quantityIn
  · rw [Function.update_of_ne hother, counts, counts]
    exact congrArg UInt32.toNat (quantityIn_add_of_ne hother quantity container.contents)

/-- Removing nothing changes nothing, since no stack is empty. -/
theorem IsTidy.removeFrom?_zero {contents : List Stack} (h : IsTidy contents) (item : Key) :
    Container.removeFrom? item 0 contents = some contents := by
  induction contents with
  | nil => rfl
  | cons stack rest ih =>
      obtain ⟨⟨-, hfilled⟩, hrest⟩ := isTidy_cons_iff.mp h
      rw [Container.removeFrom?, ih hrest]
      split
      next hitem => rw [if_neg UInt32.not_lt_zero, UInt32.sub_zero, ← hitem]
      next => rfl

/-- The units that are removed and those that are left are together those that were there. -/
theorem IsTidy.counts_remove? (h : IsTidy container.contents) {lighter : Container}
    (hlighter : container.remove? item quantity = some lighter) :
    lighter.counts item + quantity.toNat = container.counts item := by
  obtain ⟨rest, hrest, rfl⟩ := Option.map_eq_some_iff.mp hlighter
  by_cases hquantity : quantity = 0
  · subst hquantity
    obtain rfl := Option.some.inj (hrest.symm.trans (h.removeFrom?_zero item))
    rfl
  · exact (loses_of_removeFrom? hquantity hrest).toNat_quantityIn h.distinct

theorem IsTidy.counts_eq_of_remove? (h : IsTidy container.contents) {lighter : Container}
    (hlighter : container.remove? item quantity = some lighter) :
    lighter.counts =
      Function.update container.counts item (container.counts item - quantity.toNat) := by
  have hbalance := h.counts_remove? hlighter
  obtain ⟨rest, hrest, rfl⟩ := Option.map_eq_some_iff.mp hlighter
  funext other
  by_cases hother : other = item
  · subst hother
    rw [Function.update_self]
    exact Nat.eq_sub_of_add_eq hbalance
  · rw [Function.update_of_ne hother]
    exact congrArg UInt32.toNat (quantityIn_removeFrom?_of_ne hother hrest)

theorem remove?_eq_none_iff :
    container.remove? item quantity = none ↔ ¬ quantity.toNat ≤ container.counts item := by
  rw [remove?, Option.map_eq_none_iff, ← Option.not_isSome_iff_eq_none, isSome_removeFrom?_iff,
    UInt32.le_iff_toNat_le]
  rfl

theorem counts_removeAll (container : Container) (item : Key) :
    (container.removeAll item).counts = Function.update container.counts item 0 := by
  funext other
  rw [Function.update_apply, counts, quantityOf, removeAll, quantityIn_filter]
  split <;> rfl

/-- A tidy container does what the ledger of its counts does. -/
theorem IsTidy.carryOut_counts (h : IsTidy container.contents) (change : Change) :
    Ledger.carryOut container.counts change =
      ((container.carryOut change).1.counts, (container.carryOut change).2) := by
  cases change with
  | add item quantity => exact Prod.ext (counts_add container item quantity).symm rfl
  | removeAll item => exact Prod.ext (counts_removeAll container item).symm rfl
  | remove item quantity =>
      rw [Ledger.carryOut, Container.carryOut]
      cases hlighter : container.remove? item quantity with
      | none => rw [if_neg (remove?_eq_none_iff.mp hlighter)]
      | some lighter =>
          have henough : quantity.toNat ≤ container.counts item :=
            h.counts_remove? hlighter ▸ Nat.le_add_left _ _
          rw [if_pos henough, ← h.counts_eq_of_remove? hlighter]

theorem IsTidy.carryOut (h : IsTidy container.contents) (change : Change) :
    IsTidy (container.carryOut change).1.contents := by
  cases change with
  | add item quantity => exact h.add item quantity
  | removeAll item => exact h.filter _
  | remove item quantity =>
      rw [Container.carryOut]
      split
      next => exact h
      next lighter hlighter => exact h.remove? hlighter

/-- No change brings in an item but an addition of units of which there was none. -/
theorem IsTidy.items_carryOut (h : IsTidy container.contents) (change : Change) :
    ((container.carryOut change).1.contents.map Stack.item).Sublist
        (container.contents.map Stack.item) ∨
      ∃ item quantity, change = .add item quantity ∧ quantity ≠ 0 ∧
        item ∉ container.contents.map Stack.item ∧
        (container.carryOut change).1.contents.map Stack.item =
          container.contents.map Stack.item ++ [item] := by
  cases change with
  | add item quantity =>
      by_cases hquantity : quantity = 0
      · rw [Container.carryOut, Container.add, if_pos hquantity]
        exact Or.inl (List.Sublist.refl _)
      · rcases (gains_add hquantity container item).items_cases with hsame | ⟨hfresh, hlast⟩
        · exact Or.inl (hsame ▸ List.Sublist.refl _)
        · exact Or.inr ⟨item, quantity, rfl, hquantity, hfresh, hlast⟩
  | removeAll item => exact Or.inl (List.filter_sublist.map _)
  | remove item quantity =>
      refine Or.inl ?_
      rw [Container.carryOut]
      split
      next => exact List.Sublist.refl _
      next lighter hlighter =>
        obtain ⟨rest, hrest, rfl⟩ := Option.map_eq_some_iff.mp hlighter
        by_cases hquantity : quantity = 0
        · subst hquantity
          obtain rfl := Option.some.inj (hrest.symm.trans (h.removeFrom?_zero item))
          exact List.Sublist.refl _
        · exact (loses_of_removeFrom? hquantity hrest).items_sublist

/-! ## The whole history -/

/-- What holds of a container holds of it after any changes, and the ledger of its counts gives the
same answers. -/
theorem IsTidy.history_counts (h : IsTidy container.contents) (changes : List Change) :
    IsTidy (history Container.carryOut container changes).1.contents ∧
      history Ledger.carryOut container.counts changes =
        ((history Container.carryOut container changes).1.counts,
          (history Container.carryOut container changes).2) := by
  induction changes generalizing container with
  | nil => exact ⟨h, rfl⟩
  | cons change later ih =>
      obtain ⟨htidy, hlater⟩ := ih (h.carryOut change)
      refine ⟨htidy, ?_⟩
      rw [history, h.carryOut_counts change, hlater, history]

theorem isTidy_empty : IsTidy empty.contents :=
  isTidy_nil

theorem isTidy_after (changes : List Change) : IsTidy (after changes).contents :=
  (isTidy_empty.history_counts changes).1

theorem history_blank (changes : List Change) :
    history Ledger.carryOut Ledger.blank changes =
      ((after changes).counts, (history Container.carryOut empty changes).2) :=
  (isTidy_empty.history_counts changes).2

theorem counts_after (changes : List Change) : (after changes).counts = counted changes := by
  rw [counted, history_blank]

/-! ## The order of the stacks -/

/-- Whether an item came in by the change of a time: there was none of it before, and there has
been some ever since. -/
structure JoinsAt (changes : List Change) (item : Key) (time : Nat) : Prop where
  absent : counted (changes.take time) item = 0
  added : ∃ quantity, quantity ≠ 0 ∧ changes[time]? = some (.add item quantity)
  since : ∀ later, time < later → counted (changes.take later) item ≠ 0

/-- Whether an item came in before another one. -/
def JoinsBefore (changes : List Change) (item other : Key) : Prop :=
  ∃ time later, JoinsAt changes item time ∧ JoinsAt changes other later ∧ time < later

theorem take_concat {changes : List Change} {change : Change} {later : Nat}
    (h : changes.length < later) : (changes ++ [change]).take later = changes ++ [change] :=
  List.take_of_length_le (by rwa [List.length_append])

namespace JoinsAt

variable {changes : List Change} {time : Nat}

theorem unique (h : JoinsAt changes item time) {other : Nat} (hother : JoinsAt changes item other) :
    time = other := by
  rcases Nat.lt_trichotomy time other with hlt | heq | hgt
  · exact absurd hother.absent (h.since other hlt)
  · exact heq
  · exact absurd h.absent (hother.since time hgt)

theorem time_lt (h : JoinsAt changes item time) : time < changes.length := by
  obtain ⟨quantity, -, hadded⟩ := h.added
  exact (List.getElem?_eq_some_iff.mp hadded).1

theorem counted_ne_zero (h : JoinsAt changes item time) : counted changes item ≠ 0 := by
  have hwhole := h.since changes.length h.time_lt
  rwa [List.take_length] at hwhole

/-- Another change leaves the time as it is, unless it takes away the last unit. -/
theorem concat (h : JoinsAt changes item time) {change : Change}
    (hstays : counted (changes ++ [change]) item ≠ 0) :
    JoinsAt (changes ++ [change]) item time := by
  have hbefore : ∀ later, later ≤ changes.length →
      (changes ++ [change]).take later = changes.take later :=
    fun later hle => List.take_append_of_le_length hle
  constructor
  · rw [hbefore time h.time_lt.le]
    exact h.absent
  · rw [List.getElem?_append_left h.time_lt]
    exact h.added
  · intro later hlater
    rcases Nat.lt_or_ge changes.length later with hbeyond | hwithin
    · rwa [take_concat hbeyond]
    · rw [hbefore later hwithin]
      exact h.since later hlater

theorem last (habsent : counted changes item = 0) (hquantity : quantity ≠ 0)
    (hstays : counted (changes ++ [.add item quantity]) item ≠ 0) :
    JoinsAt (changes ++ [.add item quantity]) item changes.length := by
  constructor
  · rwa [List.take_left]
  · exact ⟨quantity, hquantity, by simp⟩
  · intro later hlater
    rwa [take_concat hlater]

end JoinsAt

/-- Whether items have come in one after another. -/
structure AreInOrder (changes : List Change) (items : List Key) : Prop where
  joined : ∀ item ∈ items, ∃ time, JoinsAt changes item time
  ordered : items.Pairwise (JoinsBefore changes)

namespace AreInOrder

variable {changes : List Change} {items : List Key} {change : Change}

/-- Items that are still there stay in their order. -/
theorem concat (h : AreInOrder changes items)
    (hstay : ∀ item ∈ items, counted (changes ++ [change]) item ≠ 0) :
    AreInOrder (changes ++ [change]) items := by
  constructor
  · intro item hitem
    obtain ⟨time, htime⟩ := h.joined item hitem
    exact ⟨time, htime.concat (hstay item hitem)⟩
  · refine h.ordered.imp_of_mem fun hitem hother hbefore => ?_
    obtain ⟨time, later, htime, hlater, hlt⟩ := hbefore
    exact ⟨time, later, htime.concat (hstay _ hitem), hlater.concat (hstay _ hother), hlt⟩

theorem sublist (h : AreInOrder changes items) {others : List Key} (hsub : others.Sublist items) :
    AreInOrder changes others :=
  ⟨fun item hitem => h.joined item (hsub.subset hitem), h.ordered.sublist hsub⟩

/-- All items were there when the last one came in. -/
theorem append (h : AreInOrder changes items)
    (hstay : ∀ item ∈ items, counted (changes ++ [change]) item ≠ 0)
    (hjoins : JoinsAt (changes ++ [change]) item changes.length) :
    AreInOrder (changes ++ [change]) (items ++ [item]) := by
  have hold := h.concat hstay
  constructor
  · rw [List.forall_mem_append, List.forall_mem_singleton]
    exact ⟨hold.joined, _, hjoins⟩
  · refine List.pairwise_append.mpr ⟨hold.ordered, List.pairwise_singleton _ _, ?_⟩
    rintro earlier hearlier last hlast
    rw [List.mem_singleton.mp hlast]
    obtain ⟨time, htime⟩ := h.joined earlier hearlier
    exact ⟨time, _, htime.concat (hstay earlier hearlier), hjoins, htime.time_lt⟩

end AreInOrder

/-- The induction is on the changes from the last one on, whose effect is known of any container. -/
theorem areInOrder_after (changes : List Change) :
    AreInOrder changes ((after changes).contents.map Stack.item) := by
  induction changes using List.reverseRecOn with
  | nil => exact ⟨nofun, List.Pairwise.nil⟩
  | append_singleton changes change ih =>
      have htidy := isTidy_after changes
      have hstay : ∀ item ∈ (after (changes ++ [change])).contents.map Stack.item,
          counted (changes ++ [change]) item ≠ 0 := by
        intro item hitem
        rw [← counts_after]
        exact (isTidy_after _).mem_items_iff.mp hitem
      rcases htidy.items_carryOut change with hsub | ⟨item, quantity, rfl, hquantity, hfresh, hlast⟩
      · rw [← after_concat] at hsub
        exact (ih.sublist hsub).concat hstay
      · rw [← after_concat] at hlast
        rw [hlast, List.forall_mem_append, List.forall_mem_singleton] at hstay
        have habsent : counted changes item = 0 := by
          rw [← counts_after]
          exact Decidable.not_not.mp (mt htidy.mem_items_iff.mpr hfresh)
        rw [hlast]
        exact ih.append hstay.1 (.last habsent hquantity hstay.2)

theorem mem_items_after_iff {changes : List Change} :
    item ∈ (after changes).contents.map Stack.item ↔ ∃ time, JoinsAt changes item time := by
  refine ⟨(areInOrder_after changes).joined item, fun ⟨time, htime⟩ => ?_⟩
  rw [(isTidy_after changes).mem_items_iff, counts_after]
  exact htime.counted_ne_zero

/-- Whatever has been added and removed: each item has one stack and no stack is empty; the counts
and the answers are those of the ledger; and the stacks are those of the items that came in and have
been there since, in the order of the times at which they came in.  Of any further removal, the
units that are left and those removed are together those that were held, and removing none at all
succeeds and changes nothing. -/
theorem after_agrees_with_ledger (changes : List Change) :
    ((after changes).contents.map Stack.item).Nodup ∧
      (∀ stack ∈ (after changes).contents, stack.quantity ≠ 0) ∧
      (∀ item, ((after changes).quantityOf item).toNat = counted changes item) ∧
      (history Container.carryOut empty changes).2 =
        (history Ledger.carryOut Ledger.blank changes).2 ∧
      (∀ item, item ∈ (after changes).contents.map Stack.item ↔ ∃ time, JoinsAt changes item time) ∧
      ((after changes).contents.map Stack.item).Pairwise (JoinsBefore changes) ∧
      (∀ item quantity lighter, (after changes).remove? item quantity = some lighter →
        (lighter.quantityOf item).toNat + quantity.toNat =
          ((after changes).quantityOf item).toNat) ∧
      ∀ item, (after changes).remove? item 0 = some (after changes) := by
  have htidy := isTidy_after changes
  refine ⟨htidy.distinct, htidy.filled, fun item => congrFun (counts_after changes) item, ?_,
    fun item => mem_items_after_iff, (areInOrder_after changes).ordered, ?_, fun item => ?_⟩
  · rw [history_blank]
  · exact fun item quantity lighter hlighter => htidy.counts_remove? hlighter
  · rw [remove?, htidy.removeFrom?_zero]
    rfl

/-- The pears are used up and come in again behind the figs, and what is too much is not removed. -/
example :
    let changes : List Change :=
      [.add ⟨"pear"⟩ 2, .add ⟨"fig"⟩ 1, .remove ⟨"pear"⟩ 2, .add ⟨"pear"⟩ 4294967295,
        .add ⟨"pear"⟩ 7, .remove ⟨"fig"⟩ 2]
    (after changes).contents = [⟨⟨"fig"⟩, 1⟩, ⟨⟨"pear"⟩, 4294967295⟩] ∧
      (history Container.carryOut empty changes).2 =
        [.added, .added, .removed true, .added, .added, .removed false] := by
  decide +kernel

end TextAdventure.Container
