import TextAdventure.Attributes

/-!
# Values of a table

A value that has been inserted is found, and the values of all other texts stay.  A property
of all values of a table survives the removal of an entry, and the insertion of a value that
has it.
-/

namespace TextAdventure.Attributes

variable {α : Type}

/-! ## Looking up -/

theorem find?_insertEntry_self (key : String) (value : α) (entries : List (String × α)) :
    (insertEntry key value entries).find? (fun entry => entry.1 = key) = some (key, value) := by
  induction entries with
  | nil => simp [insertEntry]
  | cons entry rest ih =>
      rw [insertEntry]
      split
      · simp
      · split
        · simp
        next hne =>
          have hskip : decide (entry.1 = key) = false := decide_eq_false (Ne.symm hne)
          simp only [List.find?_cons, hskip, ih]

theorem find?_insertEntry_of_ne {key name : String} (h : name ≠ key) (value : α)
    (entries : List (String × α)) :
    (insertEntry key value entries).find? (fun entry => entry.1 = name) =
      entries.find? (fun entry => entry.1 = name) := by
  have hskip : decide (key = name) = false := decide_eq_false h.symm
  induction entries with
  | nil => simp only [insertEntry, List.find?_cons, hskip]
  | cons entry rest ih =>
      rw [insertEntry]
      split
      · simp only [List.find?_cons, hskip]
      · split
        next heq => simp only [List.find?_cons, ← heq, hskip]
        · simp only [List.find?_cons, ih]

@[simp]
theorem get?_insert_self (table : Attributes α) (key : String) (value : α) :
    (table.insert key value).get? key = some value := by
  rw [get?, insert, find?_insertEntry_self]
  rfl

theorem get?_insert_of_ne (table : Attributes α) {key name : String} (h : name ≠ key)
    (value : α) : (table.insert key value).get? name = table.get? name := by
  rw [get?, insert, find?_insertEntry_of_ne h]
  rfl

theorem get?_erase_self (table : Attributes α) (key : String) :
    (table.erase key).get? key = none := by
  rw [get?, erase, List.find?_filter, Option.map_eq_none_iff, List.find?_eq_none]
  intro entry _
  simp

theorem get?_erase_of_ne (table : Attributes α) {key name : String} (h : name ≠ key) :
    (table.erase key).get? name = table.get? name := by
  rw [get?, get?, erase, List.find?_filter]
  congr 2
  funext entry
  by_cases hname : entry.1 = name
  · simp [hname, h]
  · simp [hname]

/-! ## All values -/

/-- All values of a table have a property. -/
def All (P : α → Prop) (table : Attributes α) : Prop :=
  ∀ entry ∈ table.entries, P entry.2

instance (P : α → Prop) [DecidablePred P] (table : Attributes α) : Decidable (table.All P) :=
  inferInstanceAs (Decidable (∀ entry ∈ table.entries, P entry.2))

theorem All.insert {P : α → Prop} {table : Attributes α} (h : table.All P) (key : String)
    {value : α} (hvalue : P value) : (table.insert key value).All P := by
  intro entry hentry
  rcases mem_insertEntry hentry with rfl | hold
  · exact hvalue
  · exact h entry hold

theorem All.erase {P : α → Prop} {table : Attributes α} (h : table.All P) (key : String) :
    (table.erase key).All P :=
  fun entry hentry => h entry (List.mem_filter.mp hentry).1

theorem All.of_get? {P : α → Prop} {table : Attributes α} (h : table.All P) {key : String}
    {value : α} (hget : table.get? key = some value) : P value := by
  obtain ⟨entry, hfind, rfl⟩ := Option.map_eq_some_iff.mp hget
  exact h entry (List.mem_of_find?_eq_some hfind)

end TextAdventure.Attributes
