import TextAdventure.Proofs.Input.Names

/-!
# Typeable names read back

A name is typeable exactly when the tokens of the line made of it are words which, joined by single
spaces, give its key.  A quote becomes a quoted token; a mark among other characters is lost, while
lower-casing loses none; and a gap between words comes back as one space.
-/

namespace TextAdventure

namespace Text

/-! ## Gaps between words -/

theorem spacedPieces_ne_nil (cs : List Char) : spacedPieces cs ≠ [] := by
  intro hnil
  have hchars := intercalate_spacedPieces cs
  rw [hnil] at hchars
  rw [← hchars] at hnil
  cases hnil

/-- A character that is not blank goes on with the first piece. -/
theorem spacedPieces_cons {c : Char} (hc : isBlank c = false) {rest piece : List Char}
    {later : List (List Char)} (h : spacedPieces rest = piece :: later) :
    spacedPieces (c :: rest) = (c :: piece) :: later := by
  have hspace : c ≠ ' ' := by
    rintro rfl
    cases hc
  simp only [spacedPieces, h, if_neg hspace]

theorem spacedPieces_append_space {run : List Char} (h : IsRun run) (rest : List Char) :
    spacedPieces (run ++ ' ' :: rest) = run :: spacedPieces rest := by
  induction run with
  | nil =>
      obtain ⟨piece, later, hpieces⟩ := List.exists_cons_of_ne_nil (spacedPieces_ne_nil rest)
      simp [spacedPieces, hpieces]
  | cons c run ih =>
      obtain ⟨hc, hrun⟩ := isRun_cons_iff.mp h
      exact spacedPieces_cons hc (ih hrun)

theorem spacedPieces_run {run : List Char} (h : IsRun run) : spacedPieces run = [run] := by
  induction run with
  | nil => rfl
  | cons c run ih =>
      obtain ⟨hc, hrun⟩ := isRun_cons_iff.mp h
      exact spacedPieces_cons hc (ih hrun)

/-- Runs joined by single spaces are the pieces between the spaces again. -/
theorem spacedPieces_intercalate {runs : List (List Char)} (hnonempty : runs ≠ [])
    (h : ∀ run ∈ runs, IsRun run) : spacedPieces ([' '].intercalate runs) = runs := by
  induction runs with
  | nil => exact absurd rfl hnonempty
  | cons run runs ih =>
      obtain ⟨hrun, hruns⟩ := List.forall_mem_cons.mp h
      cases runs with
      | nil => rw [List.intercalate_singleton, spacedPieces_run hrun]
      | cons next runs =>
          rw [List.intercalate_cons_cons, List.append_assoc, List.singleton_append,
            spacedPieces_append_space hrun, ih (List.cons_ne_nil _ _) hruns]

/-- Lower-casing moves no blank, so a text whose lower case has single spaces between its words has
them itself. -/
theorem eq_intercalate_of_lowerChars {cs : List Char}
    (h : lowerChars cs = [' '].intercalate ((wordChars cs).map lowerChars)) :
    cs = [' '].intercalate (wordChars cs) := by
  induction cs using run_induction with
  | run run hrun =>
      rw [wordChars_run hrun]
      cases run with
      | nil => rfl
      | cons c run => rw [consRun_cons, List.intercalate_singleton]
  | blank run c rest hrun hblank ih =>
      have hlower : lowerChars (run ++ c :: rest) = lowerChars run ++ c :: lowerChars rest :=
        lowerAfter_append_blank hblank [] run rest
      rw [hlower, wordChars_append_blank hrun hblank] at h
      rw [wordChars_append_blank hrun hblank]
      cases run with
      | nil =>
          -- A text of words joined by spaces does not start with a blank.
          have hwords : ∀ word ∈ wordChars (lowerChars rest), word ≠ [] ∧ IsRun word :=
            of_mem_wordChars
          rw [wordChars_lowerChars] at hwords
          have hfirst := (ends_intercalate hwords).1 c
          have hjoined : [' '].intercalate ((wordChars rest).map lowerChars) =
              c :: lowerChars rest := h.symm
          rw [hjoined] at hfirst
          cases hblank.symm.trans (hfirst rfl)
      | cons first run =>
          rw [consRun_cons] at h ⊢
          cases hrest : wordChars rest with
          | nil =>
              -- A text of one word does not end with a blank.
              rw [hrest, List.map_singleton, List.intercalate_singleton] at h
              have hlength := congrArg List.length h
              simp at hlength
          | cons word words =>
              rw [hrest, List.map_cons, List.map_cons, List.intercalate_cons_cons,
                List.append_assoc, List.singleton_append, List.append_cancel_left_eq,
                List.cons.injEq] at h
              obtain ⟨rfl, hlater⟩ := h
              rw [List.intercalate_cons_cons, List.append_assoc, List.singleton_append, ← hrest,
                ← ih (by rw [hlater, hrest, List.map_cons])]

/-- A text with a character that is not blank has a word. -/
theorem wordChars_ne_nil {cs : List Char} {c : Char} (hmem : c ∈ cs) (hc : isBlank c = false) :
    wordChars cs ≠ [] := by
  obtain ⟨word, hword, -⟩ := exists_mem_wordChars hmem hc
  exact List.ne_nil_of_mem hword

end Text

namespace Token

open Text (IsPlain IsSpaced isUniform)

/-! ## Tokens that are words -/

/-- What follows an open quotation has a quoted token. -/
theorem exists_quoted_mem_scan (reversed cs : List Char) :
    ∃ content, quoted content ∈ scan (.quotation reversed) cs := by
  induction cs generalizing reversed with
  | nil => exact ⟨_, List.mem_singleton.mpr rfl⟩
  | cons c rest ih =>
      rw [scan]
      split
      · exact ⟨_, List.mem_append_left _ (List.mem_singleton.mpr rfl)⟩
      · exact ih (c :: reversed)

theorem exists_quoted_mem_of_quote {cs : List Char} (h : '"' ∈ cs) (reversed : List Char) :
    ∃ content, quoted content ∈ scan (.run reversed) cs := by
  induction cs generalizing reversed with
  | nil => cases h
  | cons c rest ih =>
      rw [scan]
      split
      · obtain ⟨content, hcontent⟩ := exists_quoted_mem_scan [] rest
        exact ⟨content, List.mem_append_right _ hcontent⟩
      next hquote =>
        have hrest : '"' ∈ rest := List.mem_of_ne_of_mem (Ne.symm hquote) h
        split
        · obtain ⟨content, hcontent⟩ := ih hrest []
          exact ⟨content, List.mem_append_right _ hcontent⟩
        · exact ih hrest _

/-- Only a line without quotes has words for its tokens. -/
theorem unquoted_of_words {line : String} (h : ∀ token ∈ ofLine line, ∃ text, token = word text) :
    '"' ∉ line.toList := by
  intro hquote
  obtain ⟨content, hcontent⟩ := exists_quoted_mem_of_quote hquote []
  obtain ⟨text, heq⟩ := h _ hcontent
  cases heq

theorem texts_map_word (texts : List String) : Token.texts (texts.map word) = texts := by
  simp [Token.texts, text, Function.comp_def]

/-- The token of a run is a word: it is not empty and has no blank. -/
theorem isRun_wordChars {run : List Char} (h : run ≠ [] ∧ Text.IsRun run) :
    wordChars run ≠ [] ∧ Text.IsRun (wordChars run) := by
  have hlower : ∀ cs : List Char, cs ≠ [] ∧ Text.IsRun cs →
      Text.lowerChars cs ≠ [] ∧ Text.IsRun (Text.lowerChars cs) := by
    rintro cs ⟨hnonempty, hrun⟩
    refine ⟨fun hnil => hnonempty ?_, hrun.lowerChars⟩
    rwa [← List.isEmpty_iff, Text.isEmpty_lowerChars, List.isEmpty_iff] at hnil
  rw [wordChars]
  split
  · exact hlower run h
  next hbare =>
    refine hlower _ ⟨fun hnil => hbare (List.isEmpty_iff.mpr hnil), fun c hc => ?_⟩
    exact h.2 c (List.mem_filter.mp hc).1

/-- A run of which the token keeps every mark is made of marks only or free of them: lower-casing
loses no mark. -/
theorem isUniform_of_wordChars {run : List Char} (h : wordChars run = Text.lowerChars run) :
    isUniform run = true := by
  have hany : ∀ cs, (Text.lowerChars cs).any Text.isPunctuation = cs.any Text.isPunctuation :=
    Text.any_lowerAfter (fun _ => Text.isMark_of_isPunctuation) []
  rw [isUniform, Bool.or_eq_true, Bool.not_eq_true']
  rw [wordChars] at h
  split at h
  next hmarks =>
    refine Or.inl (List.all_eq_true.mpr fun c hc => ?_)
    have hfiltered := List.filter_eq_nil_iff.mp (List.isEmpty_iff.mp hmarks) c hc
    simpa using hfiltered
  next =>
    refine Or.inr ?_
    rw [← hany run, ← h, hany]
    simp

/-! ## Typeable names -/

/-- Words without a mark among other characters and with single spaces in between are typeable. -/
theorem isTypeable_of_isPlain {name : String} (hplain : IsPlain name.toList)
    (hspaced : IsSpaced name) (hwords : Text.wordChars name.toList ≠ []) :
    Text.isTypeable name = true := by
  have hrun : ∀ run ∈ Text.wordChars name.toList, run ≠ [] ∧ Text.IsRun run :=
    Text.of_mem_wordChars
  have hpieces : Text.spacedPieces (Text.trimChars name.toList) = Text.wordChars name.toList := by
    rw [hspaced]
    exact Text.spacedPieces_intercalate hwords fun run hmem => (hrun run hmem).2
  have hunquoted : '"' ∉ Text.trimChars name.toList := by
    intro hmem
    have hback := (List.dropWhile_sublist _).subset (List.mem_reverse.mp hmem)
    have hfront := List.mem_reverse.mp hback
    exact hplain.unquoted ((List.dropWhile_sublist _).subset hfront)
  rw [Text.isTypeable, Text.isTypeableChars, hpieces]
  simp only [Bool.and_eq_true, Bool.not_eq_true', List.any_eq_false, List.all_eq_true]
  refine ⟨⟨by simpa using hunquoted, fun run hmem => ?_⟩, fun run hmem => ?_⟩
  · simpa using (hrun run hmem).1
  · rw [Text.isTypeableWord, Text.isRun_iff_any.mp (hrun run hmem).2]
    simpa [isUniform] using hplain.uniform run hmem

/-- If the tokens of a name are words that joined by single spaces give its key, then each of them
keeps all marks and the gaps between them are single spaces. -/
theorem isPlain_of_unwords_texts {name : String}
    (hwords : ∀ token ∈ ofLine name, ∃ text, token = word text)
    (hkey : Text.unwords (Token.texts (ofLine name)) = (Key.ofName name).text) :
    IsPlain name.toList ∧ IsSpaced name := by
  have hunquoted := unquoted_of_words hwords
  have htokens : ofLine name = (Text.wordChars name.toList).map ofRun := scan_unquoted hunquoted
  have htexts : (Token.texts (ofLine name)).map String.toList =
      (Text.wordChars name.toList).map wordChars := by
    simp [htokens, Token.texts, ofRun, text, Function.comp_def]
  have hjoined : [' '].intercalate ((Text.wordChars name.toList).map wordChars) =
      Text.lowerChars (Text.trimChars name.toList) := by
    rw [← htexts]
    have hchars : (Text.unwords (Token.texts (ofLine name))).toList =
        [' '].intercalate ((Token.texts (ofLine name)).map String.toList) :=
      String.toList_intercalate
    rw [← hchars, hkey, Key.ofName, Text.normalize, Text.lower, Text.trim, String.toList_ofList,
      String.toList_ofList]
  have hruns : ∀ run ∈ (Text.wordChars name.toList).map wordChars, run ≠ [] ∧ Text.IsRun run :=
    List.forall_mem_map.mpr fun run hmem => isRun_wordChars (Text.of_mem_wordChars run hmem)
  -- Both sides have the same words, one by one.
  have hsame : (Text.wordChars name.toList).map wordChars =
      (Text.wordChars name.toList).map Text.lowerChars := by
    rw [← Text.wordChars_intercalate hruns, hjoined, Text.wordChars_lowerChars,
      Text.wordChars_trimChars]
  have huniform : ∀ run ∈ Text.wordChars name.toList, isUniform run = true :=
    fun run hmem => isUniform_of_wordChars (List.map_inj_left.mp hsame run hmem)
  refine ⟨⟨hunquoted, huniform⟩, ?_⟩
  have hlower : Text.lowerChars (Text.trimChars name.toList) =
      [' '].intercalate ((Text.wordChars (Text.trimChars name.toList)).map Text.lowerChars) := by
    rw [Text.wordChars_trimChars, ← hsame, hjoined]
  have hspaced := Text.eq_intercalate_of_lowerChars hlower
  rwa [Text.wordChars_trimChars] at hspaced

/-- A name that is not all blank is typeable exactly when its tokens are words that give its key
when they are joined by single spaces; then they name that key. -/
theorem isTypeable_iff_unwords_texts (name : String)
    (h : ∃ c ∈ name.toList, Text.isBlank c = false) :
    (Text.isTypeable name = true ↔
        (∀ token ∈ ofLine name, ∃ text, token = word text) ∧
          Text.unwords (Token.texts (ofLine name)) = (Key.ofName name).text) ∧
      (Text.isTypeable name = true →
        (NounPhrase.ofTokens (ofLine name)).names (Key.ofName name) = true) := by
  have htokens : Text.isTypeable name = true →
      ofLine name = (Text.lowerWords name).map word :=
    fun htypeable => ofLine_of_isPlain (Text.isPlain_of_isTypeable htypeable)
  refine ⟨⟨fun htypeable => ?_, fun ⟨hwords, hkey⟩ => ?_⟩, fun htypeable => ?_⟩
  · rw [htokens htypeable, texts_map_word]
    refine ⟨fun token htoken => ?_, ?_⟩
    · obtain ⟨text, -, rfl⟩ := List.mem_map.mp htoken
      exact ⟨text, rfl⟩
    · exact (Text.normalize_of_isSpaced (Text.isSpaced_of_isTypeable htypeable)).symm
  · obtain ⟨hplain, hspaced⟩ := isPlain_of_unwords_texts hwords hkey
    refine isTypeable_of_isPlain hplain hspaced ?_
    obtain ⟨c, hmem, hc⟩ := h
    exact Text.wordChars_ne_nil hmem hc
  · rw [htokens htypeable, NounPhrase.ofTokens, texts_map_word]
    exact (NounPhrase.names_ofText_iff htypeable).mpr (Or.inl rfl)

/-- A final sigma, a dotted capital and a mark that stands alone come through. -/
theorem isTypeable_iff_unwords_texts_harbour :
    (∃ c ∈ " ΟΔΟΣ İzmir ?".toList, Text.isBlank c = false) ∧
      Text.isTypeable " ΟΔΟΣ İzmir ?" = true ∧
      (∀ token ∈ ofLine " ΟΔΟΣ İzmir ?", ∃ text, token = word text) ∧
      Text.unwords (Token.texts (ofLine " ΟΔΟΣ İzmir ?")) = "οδος i\u0307zmir ?" ∧
      (NounPhrase.ofTokens (ofLine " ΟΔΟΣ İzmir ?")).names ⟨"οδος i\u0307zmir ?"⟩ = true := by
  have hname : ∃ c ∈ " ΟΔΟΣ İzmir ?".toList, Text.isBlank c = false := ⟨'?', by decide, by decide⟩
  have hkey : Key.ofName " ΟΔΟΣ İzmir ?" = ⟨"οδος i\u0307zmir ?"⟩ := by decide +kernel
  have htypeable : Text.isTypeable " ΟΔΟΣ İzmir ?" = true := by decide +kernel
  obtain ⟨hiff, hnames⟩ := isTypeable_iff_unwords_texts " ΟΔΟΣ İzmir ?" hname
  rw [hkey] at hiff hnames
  exact ⟨hname, htypeable, (hiff.mp htypeable).1, (hiff.mp htypeable).2, hnames htypeable⟩

/-- The full stop of an abbreviation is lost when the name is typed. -/
example : Text.isTypeable "Mr. Smith" = false ∧
    Token.texts (ofLine "Mr. Smith") = ["mr", "smith"] := by decide +kernel

end Token

end TextAdventure
