/-!
# Attribute tables

A table from texts to values whose entries are strictly sorted by text, so that
two tables are equal exactly when they hold the same entries.
-/

namespace TextAdventure

structure Attributes (α : Type) where
  entries : List (String × α)
  sorted : (entries.map Prod.fst).Pairwise (· < ·)

namespace Attributes

variable {α : Type}

@[ext]
theorem ext {left right : Attributes α} (h : left.entries = right.entries) : left = right := by
  cases left
  cases right
  cases h
  rfl

instance [DecidableEq α] : DecidableEq (Attributes α) := fun left right =>
  if h : left.entries = right.entries then isTrue (ext h)
  else isFalse fun heq => h (congrArg entries heq)

def empty : Attributes α := ⟨[], List.Pairwise.nil⟩

/-- Replace the value of a text, or put it where the order asks. -/
def insertEntry (key : String) (value : α) : List (String × α) → List (String × α)
  | [] => [(key, value)]
  | (other, old) :: rest =>
      if key < other then (key, value) :: (other, old) :: rest
      else if key = other then (key, value) :: rest
      else (other, old) :: insertEntry key value rest

theorem mem_insertEntry {key : String} {value : α} {entries : List (String × α)}
    {entry : String × α} (h : entry ∈ insertEntry key value entries) :
    entry = (key, value) ∨ entry ∈ entries := by
  induction entries with
  | nil => exact Or.inl (List.mem_singleton.mp h)
  | cons first rest ih =>
      rw [insertEntry] at h
      split at h
      · exact List.mem_cons.mp h
      · split at h
        · rcases List.mem_cons.mp h with hnew | hrest
          · exact Or.inl hnew
          · exact Or.inr (List.mem_cons_of_mem _ hrest)
        · rcases List.mem_cons.mp h with rfl | hrest
          · exact Or.inr List.mem_cons_self
          · rcases ih hrest with hnew | hold
            · exact Or.inl hnew
            · exact Or.inr (List.mem_cons_of_mem _ hold)

theorem mem_keys_insertEntry {key : String} {value : α} {entries : List (String × α)}
    {name : String} (h : name ∈ (insertEntry key value entries).map Prod.fst) :
    name = key ∨ name ∈ entries.map Prod.fst := by
  obtain ⟨entry, hentry, rfl⟩ := List.mem_map.mp h
  rcases mem_insertEntry hentry with rfl | hold
  · exact Or.inl rfl
  · exact Or.inr (List.mem_map_of_mem hold)

theorem sorted_insertEntry (key : String) (value : α) (entries : List (String × α))
    (h : (entries.map Prod.fst).Pairwise (· < ·)) :
    ((insertEntry key value entries).map Prod.fst).Pairwise (· < ·) := by
  induction entries with
  | nil => simp [insertEntry]
  | cons entry rest ih =>
      obtain ⟨other, old⟩ := entry
      simp only [List.map_cons, List.pairwise_cons] at h
      simp only [insertEntry]
      split
      next hlt =>
        simp only [List.map_cons, List.pairwise_cons, List.mem_cons]
        refine ⟨fun name hname => ?_, h⟩
        rcases hname with hname | hname
        · exact hname ▸ hlt
        · exact String.lt_trans hlt (h.1 name hname)
      next hnot =>
        split
        next heq =>
          simp only [List.map_cons, List.pairwise_cons]
          exact ⟨heq ▸ h.1, h.2⟩
        next hne =>
          simp only [List.map_cons, List.pairwise_cons]
          refine ⟨fun name hname => ?_, ih h.2⟩
          rcases mem_keys_insertEntry hname with hname | hname
          · have hle : other ≤ key := String.not_lt.mp hnot
            subst hname
            exact Decidable.byContradiction fun hge =>
              hne (String.le_antisymm (String.not_lt.mp hge) hle)
          · exact h.1 name hname

def insert (table : Attributes α) (key : String) (value : α) : Attributes α :=
  ⟨insertEntry key value table.entries, sorted_insertEntry key value _ table.sorted⟩

def erase (table : Attributes α) (key : String) : Attributes α where
  entries := table.entries.filter fun entry => entry.1 ≠ key
  sorted := by
    have hsub := List.filter_sublist (p := fun entry => decide (entry.1 ≠ key))
      (l := table.entries)
    exact table.sorted.sublist (hsub.map Prod.fst)

def get? (table : Attributes α) (key : String) : Option α :=
  (table.entries.find? fun entry => entry.1 = key).map Prod.snd

/-- The table of a list of pairs, in which a later pair replaces an earlier one. -/
def ofList (pairs : List (String × α)) : Attributes α :=
  pairs.foldl (fun table pair => table.insert pair.1 pair.2) empty

end Attributes

end TextAdventure
