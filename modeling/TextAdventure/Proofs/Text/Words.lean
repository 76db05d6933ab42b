import TextAdventure.Text.Blank

/-!
# Words of a text

A text is a run without blanks, or a run followed by a blank and another text.  What words a
text has is told run by run, and trimming changes none of them.
-/

namespace TextAdventure.Text

/-! ## Runs -/

/-- Whether there is no blank among the characters. -/
def IsRun (cs : List Char) : Prop :=
  ∀ c ∈ cs, isBlank c = false

theorem isRun_nil : IsRun [] := by
  simp [IsRun]

theorem isRun_cons_iff {c : Char} {cs : List Char} :
    IsRun (c :: cs) ↔ isBlank c = false ∧ IsRun cs :=
  List.forall_mem_cons

/-- Every text is a run, or a run in front of a blank and a text for which the same holds. -/
theorem run_induction {motive : List Char → Prop} (run : ∀ run, IsRun run → motive run)
    (blank : ∀ run c rest, IsRun run → isBlank c = true → motive rest →
      motive (run ++ c :: rest)) (cs : List Char) : motive cs := by
  have hparts : motive cs ∧ ∀ before, IsRun before → motive (before ++ cs) := by
    induction cs with
    | nil =>
        refine ⟨run [] isRun_nil, fun before hbefore => ?_⟩
        rw [List.append_nil]
        exact run before hbefore
    | cons c rest ih =>
        have hwhole : ∀ before, IsRun before → motive (before ++ c :: rest) := by
          intro before hbefore
          cases hblank : isBlank c with
          | true => exact blank before c rest hbefore hblank ih.1
          | false =>
              rw [← List.singleton_append, ← List.append_assoc]
              refine ih.2 _ (List.forall_mem_append.mpr ⟨hbefore, ?_⟩)
              exact List.forall_mem_singleton.mpr hblank
        exact ⟨hwhole [] isRun_nil, hwhole⟩
  exact hparts.1

/-! ## Words -/

theorem leadingRun_run {run : List Char} (h : IsRun run) : leadingRun run = (run, []) := by
  induction run with
  | nil => rfl
  | cons c rest ih =>
      obtain ⟨hc, hrest⟩ := isRun_cons_iff.mp h
      simp [leadingRun, ih hrest, hc]

theorem leadingRun_append_blank {run : List Char} (h : IsRun run) {c : Char}
    (hblank : isBlank c = true) (rest : List Char) :
    leadingRun (run ++ c :: rest) = (run, wordChars rest) := by
  induction run with
  | nil => exact leadingRun_blank hblank rest
  | cons first run ih =>
      obtain ⟨hfirst, hrun⟩ := isRun_cons_iff.mp h
      simp [leadingRun, ih hrun, hfirst]

theorem wordChars_run {run : List Char} (h : IsRun run) : wordChars run = consRun run [] := by
  rw [wordChars, leadingRun_run h]

theorem wordChars_append_blank {run : List Char} (h : IsRun run) {c : Char}
    (hblank : isBlank c = true) (rest : List Char) :
    wordChars (run ++ c :: rest) = consRun run (wordChars rest) := by
  rw [wordChars, leadingRun_append_blank h hblank]

theorem consRun_cons (c : Char) (run : List Char) (words : List (List Char)) :
    consRun (c :: run) words = (c :: run) :: words := rfl

theorem wordChars_of_isRun {run : List Char} (h : IsRun run) (hnonempty : run ≠ []) :
    wordChars run = [run] := by
  obtain ⟨c, rest, rfl⟩ := List.exists_cons_of_ne_nil hnonempty
  rw [wordChars_run h, consRun_cons]

theorem mem_consRun_iff {run word : List Char} {words : List (List Char)} :
    word ∈ consRun run words ↔ run ≠ [] ∧ word = run ∨ word ∈ words := by
  cases run <;> simp [consRun]

/-- Every character that is not blank is in one of the words. -/
theorem exists_mem_wordChars {cs : List Char} {c : Char} (hmem : c ∈ cs)
    (hc : isBlank c = false) : ∃ word ∈ wordChars cs, c ∈ word := by
  induction cs using run_induction with
  | run run hrun =>
      rw [wordChars_run hrun]
      exact ⟨run, mem_consRun_iff.mpr (Or.inl ⟨List.ne_nil_of_mem hmem, rfl⟩), hmem⟩
  | blank run blank rest hrun hblank ih =>
      rw [wordChars_append_blank hrun hblank]
      rcases List.mem_append.mp hmem with hfirst | hlater
      · exact ⟨run, mem_consRun_iff.mpr (Or.inl ⟨List.ne_nil_of_mem hfirst, rfl⟩), hfirst⟩
      · rcases List.mem_cons.mp hlater with rfl | hrest
        · cases hblank.symm.trans hc
        · obtain ⟨word, hword, hmem⟩ := ih hrest
          exact ⟨word, mem_consRun_iff.mpr (Or.inr hword), hmem⟩

theorem map_consRun {f : List Char → List Char} (hf : ∀ cs, (f cs).isEmpty = cs.isEmpty)
    (run : List Char) (words : List (List Char)) :
    (consRun run words).map f = consRun (f run) (words.map f) := by
  unfold consRun
  rw [hf]
  split <;> rfl

/-! ## Trimming -/

theorem leadingRun_concat_blank {c : Char} (h : isBlank c = true) (cs : List Char) :
    leadingRun (cs ++ [c]) = leadingRun cs := by
  induction cs with
  | nil => exact leadingRun_blank h []
  | cons first rest ih => rw [List.cons_append, leadingRun, leadingRun, ih]

theorem wordChars_dropWhile (cs : List Char) :
    wordChars (cs.dropWhile isBlank) = wordChars cs := by
  induction cs with
  | nil => rfl
  | cons c rest ih =>
      cases hblank : isBlank c with
      | true => rw [List.dropWhile_cons_of_pos hblank, ih, wordChars_blank_cons hblank]
      | false => rw [List.dropWhile_cons_of_neg (by simp [hblank])]

theorem wordChars_dropWhile_reverse (cs : List Char) :
    wordChars (cs.dropWhile isBlank).reverse = wordChars cs.reverse := by
  induction cs with
  | nil => rfl
  | cons c rest ih =>
      cases hblank : isBlank c with
      | true =>
          rw [List.dropWhile_cons_of_pos hblank, ih, List.reverse_cons, wordChars, wordChars,
            leadingRun_concat_blank hblank]
      | false => rw [List.dropWhile_cons_of_neg (by simp [hblank])]

theorem wordChars_trimChars (cs : List Char) : wordChars (trimChars cs) = wordChars cs := by
  rw [trimChars, wordChars_dropWhile_reverse, List.reverse_reverse, wordChars_dropWhile]

theorem mem_dropWhile_of_not {p : Char → Bool} {c : Char} {cs : List Char} (hmem : c ∈ cs)
    (hc : p c = false) : c ∈ cs.dropWhile p := by
  have hsplit := List.takeWhile_append_dropWhile (p := p) (l := cs)
  rw [← hsplit, List.mem_append] at hmem
  rcases hmem with hbefore | hafter
  · have htaken := List.all_eq_true.mp (List.all_takeWhile (p := p) (l := cs)) c hbefore
    rw [hc] at htaken
    cases htaken
  · exact hafter

/-- Trimming takes away blanks only. -/
theorem mem_trimChars_of_not_blank {c : Char} {cs : List Char} (hmem : c ∈ cs)
    (hc : isBlank c = false) : c ∈ trimChars cs := by
  have hfront := mem_dropWhile_of_not hmem hc
  exact List.mem_reverse.mpr (mem_dropWhile_of_not (List.mem_reverse.mpr hfront) hc)

end TextAdventure.Text
