import TextAdventure.Proofs.Text.Lowering

/-!
# Typeable phrases

A phrase whose words are parted by single spaces is determined by its words, up to blanks at
its two ends.  Typeable phrases are of this kind, and so is whatever contains no blank.
-/

namespace TextAdventure.Text

/-! ## Pieces between single spaces -/

theorem intercalate_spacedPieces (cs : List Char) : [' '].intercalate (spacedPieces cs) = cs := by
  induction cs with
  | nil => rfl
  | cons c rest ih =>
      rw [spacedPieces]
      split
      next hnone =>
        rw [hnone] at ih
        rw [← ih]
        rfl
      next piece later hpieces =>
        rw [hpieces] at ih
        split
        next hspace =>
          rw [hspace, List.intercalate_cons_cons, ih]
          rfl
        next =>
          cases later with
          | nil =>
              rw [List.intercalate_singleton] at ih ⊢
              rw [ih]
          | cons next later =>
              rw [List.intercalate_cons_cons] at ih ⊢
              rw [← ih]
              rfl

theorem wordChars_intercalate {pieces : List (List Char)}
    (h : ∀ piece ∈ pieces, piece ≠ [] ∧ IsRun piece) :
    wordChars ([' '].intercalate pieces) = pieces := by
  have hcons : ∀ piece : List Char, piece ≠ [] → ∀ words, consRun piece words = piece :: words := by
    intro piece hpiece words
    obtain ⟨c, rest, rfl⟩ := List.exists_cons_of_ne_nil hpiece
    exact consRun_cons c rest words
  induction pieces with
  | nil => rfl
  | cons piece pieces ih =>
      obtain ⟨hpiece, hpieces⟩ := List.forall_mem_cons.mp h
      cases pieces with
      | nil => rw [List.intercalate_singleton, wordChars_run hpiece.2, hcons piece hpiece.1]
      | cons next pieces =>
          rw [List.intercalate_cons_cons, List.append_assoc, List.singleton_append,
            wordChars_append_blank hpiece.2 (by decide), ih hpieces, hcons piece hpiece.1]

theorem lowerChars_intercalate (pieces : List (List Char)) :
    lowerChars ([' '].intercalate pieces) = [' '].intercalate (pieces.map lowerChars) := by
  induction pieces with
  | nil => rfl
  | cons piece pieces ih =>
      cases pieces with
      | nil => rw [List.intercalate_singleton, List.map_singleton, List.intercalate_singleton]
      | cons next pieces =>
          have hsplit : lowerChars (piece ++ ' ' :: [' '].intercalate (next :: pieces)) =
              lowerChars piece ++ ' ' :: lowerChars ([' '].intercalate (next :: pieces)) :=
            lowerAfter_append_blank (by decide) [] piece _
          rw [List.intercalate_cons_cons, List.append_assoc, List.singleton_append, hsplit, ih]
          simp only [List.map_cons, List.intercalate_cons_cons, List.append_assoc,
            List.singleton_append]

/-! ## Phrases determined by their words -/

/-- Whether a phrase is its words joined by single spaces, blanks at its two ends aside. -/
def IsSpaced (phrase : String) : Prop :=
  trimChars phrase.toList = [' '].intercalate (wordChars phrase.toList)

@[simp]
theorem unwords_singleton (text : String) : unwords [text] = text :=
  String.intercalate_singleton

theorem map_toList_lowerWords (phrase : String) :
    (lowerWords phrase).map String.toList = (wordChars phrase.toList).map lowerChars := by
  simp [lowerWords, words, lower, Function.comp_def]

/-- Such a phrase is looked up by its lower-cased words joined by single spaces. -/
theorem normalize_of_isSpaced {phrase : String} (h : IsSpaced phrase) :
    normalize phrase = unwords (lowerWords phrase) := by
  have hchars : (unwords (lowerWords phrase)).toList =
      [' '].intercalate ((lowerWords phrase).map String.toList) := String.toList_intercalate
  rw [normalize, lower, trim, String.toList_ofList, h, lowerChars_intercalate,
    ← map_toList_lowerWords, ← hchars, String.ofList_toList]

/-- Two phrases that are known by the same lower-cased words have the same key. -/
theorem ofName_eq_of_lowerWords {left right : String} (hleft : IsSpaced left)
    (hright : IsSpaced right) (h : lowerWords left = lowerWords right) :
    Key.ofName left = Key.ofName right := by
  rw [Key.ofName, Key.ofName, normalize_of_isSpaced hleft, normalize_of_isSpaced hright, h]

theorem dropWhile_isBlank_of_isRun {run : List Char} (h : IsRun run) :
    run.dropWhile isBlank = run := by
  cases run with
  | nil => rfl
  | cons c rest => exact List.dropWhile_cons_of_neg (by simp [(isRun_cons_iff.mp h).1])

theorem trimChars_run {run : List Char} (h : IsRun run) : trimChars run = run := by
  have hreverse : IsRun run.reverse := fun c hc => h c (List.mem_reverse.mp hc)
  rw [trimChars, dropWhile_isBlank_of_isRun h, dropWhile_isBlank_of_isRun hreverse,
    List.reverse_reverse]

theorem isSpaced_of_isRun {phrase : String} (h : IsRun phrase.toList) : IsSpaced phrase := by
  rw [IsSpaced, trimChars_run h, wordChars_run h]
  cases phrase.toList with
  | nil => rfl
  | cons c rest => rw [consRun_cons, List.intercalate_singleton]

/-! ## Typeable phrases -/

/-- Whether a run consists of punctuation only or has none. -/
def isUniform (run : List Char) : Bool :=
  run.all isPunctuation || !run.any isPunctuation

theorem isUniform_lowerChars (run : List Char) : isUniform (lowerChars run) = isUniform run := by
  rw [isUniform, isUniform, lowerChars, all_lowerAfter fun _ => isMark_of_isPunctuation,
    any_lowerAfter fun _ => isMark_of_isPunctuation]

/-- Whether the words of a text are what a player types them as. -/
structure IsPlain (cs : List Char) : Prop where
  unquoted : '"' ∉ cs
  uniform : ∀ run ∈ wordChars cs, isUniform run = true

theorem isPlain_lowerChars_iff (cs : List Char) : IsPlain (lowerChars cs) ↔ IsPlain cs := by
  have hquote : '"' ∈ lowerChars cs ↔ '"' ∈ cs := by
    have hmem : ∀ cs : List Char, '"' ∈ cs ↔ cs.any (· == '"') = true := by
      intro cs
      simp
    rw [hmem, hmem, lowerChars, any_lowerAfter fun c hc => ?_]
    simp [isMark, hc]
  have huniform : (∀ run ∈ wordChars (lowerChars cs), isUniform run = true) ↔
      ∀ run ∈ wordChars cs, isUniform run = true := by
    rw [wordChars_lowerChars, List.forall_mem_map]
    simp only [isUniform_lowerChars]
  constructor
  · rintro ⟨hunquoted, hwords⟩
    exact ⟨fun hmem => hunquoted (hquote.mpr hmem), huniform.mp hwords⟩
  · rintro ⟨hunquoted, hwords⟩
    exact ⟨fun hmem => hunquoted (hquote.mp hmem), huniform.mpr hwords⟩

theorem wordChars_of_isTypeable {phrase : String} (h : isTypeable phrase = true) :
    wordChars phrase.toList = spacedPieces (trimChars phrase.toList) ∧
      ∀ piece ∈ spacedPieces (trimChars phrase.toList),
        piece ≠ [] ∧ isTypeableWord piece = true := by
  rw [isTypeable, isTypeableChars] at h
  simp only [Bool.and_eq_true, Bool.not_eq_true', List.any_eq_false, List.all_eq_true,
    List.isEmpty_iff] at h
  obtain ⟨⟨-, hnonempty⟩, htypeable⟩ := h
  have hpieces : ∀ piece ∈ spacedPieces (trimChars phrase.toList), piece ≠ [] ∧ IsRun piece := by
    intro piece hpiece
    have hword := htypeable piece hpiece
    simp only [isTypeableWord, Bool.and_eq_true, Bool.not_eq_true'] at hword
    exact ⟨hnonempty piece hpiece, isRun_iff_any.mpr hword.1⟩
  refine ⟨?_, fun piece hpiece => ⟨hnonempty piece hpiece, htypeable piece hpiece⟩⟩
  have hwords := wordChars_intercalate hpieces
  rw [intercalate_spacedPieces, wordChars_trimChars] at hwords
  exact hwords

theorem isSpaced_of_isTypeable {phrase : String} (h : isTypeable phrase = true) :
    IsSpaced phrase := by
  rw [IsSpaced, (wordChars_of_isTypeable h).1, intercalate_spacedPieces]

theorem isPlain_of_isTypeable {phrase : String} (h : isTypeable phrase = true) :
    IsPlain phrase.toList := by
  obtain ⟨hwords, hpieces⟩ := wordChars_of_isTypeable h
  constructor
  · intro hmem
    have hquote := mem_trimChars_of_not_blank hmem (by decide)
    simp [isTypeable, isTypeableChars, hquote] at h
  · intro run hrun
    rw [hwords] at hrun
    have hword := (hpieces run hrun).2
    rw [isTypeableWord, Bool.and_eq_true] at hword
    exact hword.2

theorem lowerWords_ne_nil {phrase : String} (h : isTypeable phrase = true) :
    lowerWords phrase ≠ [] := by
  intro hnil
  obtain ⟨hwords, hpieces⟩ := wordChars_of_isTypeable h
  have hempty : spacedPieces (trimChars phrase.toList) = [] := by
    rw [← hwords]
    simpa [lowerWords, words] using hnil
  have hchars := intercalate_spacedPieces (trimChars phrase.toList)
  rw [hempty] at hchars
  rw [← hchars] at hempty
  cases hempty

theorem lowerWords_of_isRun {text : String} (h : IsRun text.toList) (hnonempty : text.toList ≠ []) :
    lowerWords text = [lower text] := by
  rw [lowerWords, words, wordChars_of_isRun h hnonempty, List.map_singleton, List.map_singleton,
    String.ofList_toList]

theorem toList_ne_nil_of_isTypeable {text : String} (h : isTypeable text = true) :
    text.toList ≠ [] := by
  intro hnil
  refine lowerWords_ne_nil h ?_
  rw [lowerWords, words, hnil]
  rfl

end TextAdventure.Text
