import Mathlib.Data.List.DropRight
import TextAdventure.Proofs.Text.Lowered

/-!
# Normal forms

A name is normalized by trimming and lower-casing it.  There is no blank at the ends of what has
been trimmed, and lower-casing puts none there, so a normalized name is its own normal form.
-/

namespace TextAdventure.Text

/-! ## Ends of a text -/

theorem isBlank_of_mem_getLast?_trimChars {c : Char} {cs : List Char}
    (h : c ∈ (trimChars cs).getLast?) : isBlank c = false := by
  rw [trimChars, List.getLast?_reverse] at h
  have hdropped := List.head?_dropWhile_not isBlank (cs.dropWhile isBlank).reverse
  rwa [Option.mem_def.mp h] at hdropped

theorem isBlank_of_mem_head?_trimChars {c : Char} {cs : List Char}
    (h : c ∈ (trimChars cs).head?) : isBlank c = false := by
  have hprefix : trimChars cs <+: cs.dropWhile isBlank :=
    List.rdropWhile_prefix (p := isBlank) (cs.dropWhile isBlank)
  obtain ⟨rest, hrest⟩ := hprefix
  have hhead : (cs.dropWhile isBlank).head? = some c := by
    rw [← hrest, List.head?_append, Option.mem_def.mp h]
    rfl
  have hdropped := List.head?_dropWhile_not isBlank cs
  rwa [hhead] at hdropped

variable {p : Char → Bool}

/-- A lower-cased text starts with a mark exactly if the text starts with it. -/
theorem exists_head?_of_lowerAfter (hp : ∀ c, p c = true → isMark c = true) {before cs : List Char}
    {d : Char} (h : d ∈ (lowerAfter before cs).head?) : ∃ c ∈ cs.head?, p d = p c := by
  cases cs with
  | nil => cases h
  | cons c rest =>
      rw [lowerAfter_cons, List.head?_append_of_ne_nil _ (lowerImage_ne_nil before c rest)] at h
      exact ⟨c, rfl, eq_of_mem_lowerImage hp (List.mem_of_mem_head? h)⟩

/-- A lower-cased text ends with a mark exactly if the text ends with it. -/
theorem exists_getLast?_of_lowerAfter (hp : ∀ c, p c = true → isMark c = true)
    {before cs : List Char} {d : Char} (h : d ∈ (lowerAfter before cs).getLast?) :
    ∃ c ∈ cs.getLast?, p d = p c := by
  induction cs generalizing before with
  | nil => cases h
  | cons c rest ih =>
      rw [lowerAfter_cons] at h
      cases rest with
      | nil =>
          rw [lowerAfter, List.append_nil] at h
          exact ⟨c, rfl, eq_of_mem_lowerImage hp (List.mem_of_mem_getLast? h)⟩
      | cons next rest =>
          have hne : lowerAfter (c :: before) (next :: rest) ≠ [] := by
            rw [lowerAfter_cons]
            simp [lowerImage_ne_nil]
          rw [List.getLast?_append_of_ne_nil _ hne] at h
          rw [List.getLast?_cons_cons]
          exact ih h

/-! ## Normalized names -/

theorem trim_normalize (name : String) : trim (normalize name) = normalize name := by
  have htrimmed : trimChars (lowerChars (trimChars name.toList)) =
      lowerChars (trimChars name.toList) := by
    refine trimChars_eq_self ?_ ?_
    · intro d hd
      obtain ⟨c, hc, heq⟩ := exists_head?_of_lowerAfter (fun _ => isMark_of_isBlank) hd
      rw [heq, isBlank_of_mem_head?_trimChars hc]
    · intro d hd
      obtain ⟨c, hc, heq⟩ := exists_getLast?_of_lowerAfter (fun _ => isMark_of_isBlank) hd
      rw [heq, isBlank_of_mem_getLast?_trimChars hc]
  rw [normalize, lower, trim, trim, String.toList_ofList, String.toList_ofList, htrimmed]

theorem normalize_normalize (name : String) : normalize (normalize name) = normalize name := by
  rw [normalize, trim_normalize, normalize, lower_lower]

end TextAdventure.Text
