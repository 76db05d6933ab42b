import TextAdventure.Proofs.Text.Phrases

/-!
# Lower-cased words

No run of the table moves a letter onto another capital, so a text that has been lower-cased
stays as it is when it is lower-cased again.  A name can therefore be taken apart into its
lower-cased words and joined again, and it is looked up under the same key.
-/

namespace TextAdventure.Text

/-! ## Images of runs -/

/-- Whether a run leaves out every other code point. -/
def CaseRun.isAlternating (run : CaseRun) : Bool :=
  run.stride % 2 == 0 || run.first == run.last

/-- Whether a run moves none of its code points onto one of another run: it lands before it,
behind it, or among the code points that the other leaves out. -/
def CaseRun.landsOff (run other : CaseRun) : Bool :=
  run.image run.last < other.first || other.last < run.image run.first ||
    (0 < run.image run.first && run.isAlternating && other.isAlternating &&
      (run.image run.first + other.first) % 2 == 1)

theorem lowercaseRuns_landOff :
    lowercaseRuns.all (fun run => lowercaseRuns.all run.landsOff) = true := by
  decide +kernel

theorem CaseRun.even_of_covers {run : CaseRun} (halternating : run.isAlternating = true) {n : Nat}
    (h : run.covers n = true) : (n - run.first) % 2 = 0 := by
  obtain ⟨hfirst, hlast⟩ := bounds_of_covers h
  simp only [covers, Bool.and_eq_true, beq_iff_eq] at h
  simp only [isAlternating, Bool.or_eq_true, beq_iff_eq] at halternating
  rcases halternating with heven | hsingle
  · exact Nat.mod_eq_zero_of_dvd
      (Nat.dvd_trans (Nat.dvd_of_mod_eq_zero heven) (Nat.dvd_of_mod_eq_zero h.2))
  · omega

theorem CaseRun.not_covers_image {run other : CaseRun} (h : run.landsOff other = true) {n : Nat}
    (hcovers : run.covers n = true) : other.covers (run.image n) = false := by
  refine Bool.eq_false_iff.mpr fun hother => ?_
  have hbounds := bounds_of_covers hcovers
  have hotherBounds := bounds_of_covers hother
  simp only [landsOff, Bool.and_eq_true, Bool.or_eq_true, decide_eq_true_eq, beq_iff_eq] at h
  rcases h with (hbefore | hbehind) | ⟨⟨⟨hpositive, halternating⟩, hotherAlternating⟩, hodd⟩
  · rw [image] at hotherBounds hbefore
    omega
  · rw [image] at hotherBounds hbehind
    omega
  · have heven := even_of_covers halternating hcovers
    have hotherEven := even_of_covers hotherAlternating hother
    rw [image] at hotherBounds hotherEven hpositive hodd
    omega

theorem lowerCode_of_uncovered {n : Nat}
    (h : ∀ run ∈ lowercaseRuns, run.covers n = false) : lowerCode n = n := by
  rcases lowerCode_moved n with hsame | ⟨run, hrun, hcovers, -⟩
  · exact hsame
  · rw [h run hrun] at hcovers
    cases hcovers

/-! ## Lowered characters -/

/-- Whether a character is its own lower case, wherever it stands. -/
structure IsLowered (c : Char) : Prop where
  lowered : lowerChar c = [c]
  no_sigma : c ≠ 'Σ'

theorem isLowered_of_lowerCode {c : Char} (hcode : lowerCode c.toNat = c.toNat)
    (hdotted : c ≠ '\u0130') (hsigma : c ≠ 'Σ') : IsLowered c := by
  refine ⟨?_, hsigma⟩
  rw [lowerChar, if_neg hdotted, hcode, Char.ofNat_toNat]

theorem lowercaseRuns_avoid_dotted :
    lowercaseRuns.all (CaseRun.avoids [(0x130, 0x130)]) = true := by
  decide +kernel

theorem lowercaseRuns_cover_sigma : lowercaseRuns.any (·.covers 0x3A3) = true := by
  decide +kernel

theorem isLowered_lowerCode {c : Char} (hdotted : c ≠ '\u0130') (hsigma : c ≠ 'Σ') :
    IsLowered (Char.ofNat (lowerCode c.toNat)) := by
  have hcode := toNat_ofNat_lowerCode c
  rcases lowerCode_moved c.toNat with hsame | ⟨run, hrun, hcovers, himage⟩
  · rw [hsame, Char.ofNat_toNat]
    exact isLowered_of_lowerCode hsame hdotted hsigma
  · have hoff : ∀ other ∈ lowercaseRuns, other.covers (run.image c.toNat) = false := by
      intro other hother
      have hlands := List.all_eq_true.mp (List.all_eq_true.mp lowercaseRuns_landOff run hrun)
      exact CaseRun.not_covers_image (hlands other hother) hcovers
    rw [himage] at hcode ⊢
    refine isLowered_of_lowerCode ?_ ?_ ?_
    · rw [hcode, lowerCode_of_uncovered hoff]
    · intro heq
      have havoids := List.all_eq_true.mp lowercaseRuns_avoid_dotted run hrun
      have houtside := (CaseRun.not_inRanges havoids hcovers).2
      rw [← hcode, heq] at houtside
      cases houtside
    · intro heq
      obtain ⟨other, hother, hgreek⟩ := List.any_eq_true.mp lowercaseRuns_cover_sigma
      have hsigma := hoff other hother
      rw [← hcode, heq] at hsigma
      exact Bool.false_ne_true (hsigma.symm.trans hgreek)

theorem isLowered_of_mem_lowerImage {before : List Char} {c d : Char} {after : List Char}
    (h : d ∈ lowerImage before c after) : IsLowered d := by
  unfold lowerImage at h
  split at h
  next =>
    rw [List.mem_singleton.mp h]
    split
    · exact ⟨by decide, by decide⟩
    · exact ⟨by decide, by decide⟩
  next hsigma =>
    unfold lowerChar at h
    split at h
    next =>
      rcases List.mem_cons.mp h with rfl | hmark
      · exact ⟨by decide, by decide⟩
      · rw [List.mem_singleton.mp hmark]
        exact ⟨by decide, by decide⟩
    next hdotted =>
      rw [List.mem_singleton.mp h]
      exact isLowered_lowerCode hdotted hsigma

theorem isLowered_of_mem_lowerAfter {before cs : List Char} :
    ∀ c ∈ lowerAfter before cs, IsLowered c := by
  induction cs generalizing before with
  | nil => exact List.forall_mem_nil _
  | cons first rest ih =>
      rw [lowerAfter_cons]
      exact List.forall_mem_append.mpr ⟨fun _ => isLowered_of_mem_lowerImage, ih⟩

theorem lowerAfter_of_isLowered {before cs : List Char} (h : ∀ c ∈ cs, IsLowered c) :
    lowerAfter before cs = cs := by
  induction cs generalizing before with
  | nil => rfl
  | cons first rest ih =>
      obtain ⟨hfirst, hrest⟩ := List.forall_mem_cons.mp h
      rw [lowerAfter_cons, lowerImage, if_neg hfirst.no_sigma, hfirst.lowered, ih hrest]
      rfl

theorem lower_lower (s : String) : lower (lower s) = lower s := by
  rw [lower, lower, String.toList_ofList, lowerChars, lowerChars,
    lowerAfter_of_isLowered isLowered_of_mem_lowerAfter]

/-! ## Words joined again -/

/-- Whether each text is a word: neither empty nor parted by a blank. -/
def AreWords (texts : List String) : Prop :=
  ∀ text ∈ texts, text.toList ≠ [] ∧ IsRun text.toList

theorem of_mem_wordChars {cs : List Char} : ∀ run ∈ wordChars cs, run ≠ [] ∧ IsRun run := by
  intro word hword
  induction cs using run_induction with
  | run run hrun =>
      rw [wordChars_run hrun, mem_consRun_iff] at hword
      rcases hword with ⟨hnonempty, rfl⟩ | hnil
      · exact ⟨hnonempty, hrun⟩
      · cases hnil
  | blank run c rest hrun hblank ih =>
      rw [wordChars_append_blank hrun hblank, mem_consRun_iff] at hword
      rcases hword with ⟨hnonempty, rfl⟩ | hlater
      · exact ⟨hnonempty, hrun⟩
      · exact ih hlater

theorem areWords_lowerWords (s : String) : AreWords (lowerWords s) := by
  intro text htext
  rw [lowerWords, words, List.map_map, List.mem_map] at htext
  obtain ⟨run, hrun, rfl⟩ := htext
  obtain ⟨hnonempty, hunbroken⟩ := of_mem_wordChars run hrun
  rw [Function.comp_apply, lower, String.toList_ofList, String.toList_ofList]
  refine ⟨fun hnil => hnonempty ?_, hunbroken.lowerChars⟩
  rwa [← List.isEmpty_iff, isEmpty_lowerChars, List.isEmpty_iff] at hnil

/-- A phrase is what a player types if all its words are. -/
theorem isPlain_of_lowerWords {phrase : String}
    (h : ∀ text ∈ lowerWords phrase, IsPlain text.toList) : IsPlain phrase.toList := by
  have hruns : ∀ run ∈ wordChars phrase.toList, IsPlain run := by
    intro run hrun
    have hlower : lowerChars run ∈ (lowerWords phrase).map String.toList := by
      rw [map_toList_lowerWords]
      exact List.mem_map_of_mem hrun
    obtain ⟨text, htext, heq⟩ := List.mem_map.mp hlower
    exact (isPlain_lowerChars_iff run).mp (heq ▸ h text htext)
  constructor
  · intro hquote
    obtain ⟨run, hrun, hmem⟩ := exists_mem_wordChars hquote (by decide)
    exact (hruns run hrun).unquoted hmem
  · intro run hrun
    obtain ⟨hnonempty, hunbroken⟩ := of_mem_wordChars run hrun
    refine (hruns run hrun).uniform run ?_
    rw [wordChars_of_isRun hunbroken hnonempty]
    exact List.mem_singleton.mpr rfl

theorem AreWords.of_subset {texts others : List String} (h : AreWords texts)
    (hsub : others ⊆ texts) : AreWords others :=
  fun text htext => h text (hsub htext)

theorem AreWords.pieces {texts : List String} (h : AreWords texts) :
    ∀ piece ∈ texts.map String.toList, piece ≠ [] ∧ IsRun piece :=
  List.forall_mem_map.mpr h

theorem AreWords.words_unwords {texts : List String} (h : AreWords texts) :
    words (unwords texts) = texts := by
  rw [words, unwords, String.toList_intercalate]
  refine (congrArg _ (wordChars_intercalate h.pieces)).trans ?_
  rw [List.map_map]
  simp

theorem trimChars_eq_self {cs : List Char} (hfirst : ∀ c ∈ cs.head?, isBlank c = false)
    (hlast : ∀ c ∈ cs.getLast?, isBlank c = false) : trimChars cs = cs := by
  have hdrop : ∀ ds : List Char, (∀ c ∈ ds.head?, isBlank c = false) →
      ds.dropWhile isBlank = ds := by
    intro ds hds
    cases ds with
    | nil => rfl
    | cons d ds => exact List.dropWhile_cons_of_neg (by simp [hds d rfl])
  rw [trimChars, hdrop cs hfirst, hdrop cs.reverse (by rwa [List.head?_reverse]),
    List.reverse_reverse]

theorem ends_intercalate {pieces : List (List Char)}
    (h : ∀ piece ∈ pieces, piece ≠ [] ∧ IsRun piece) :
    (∀ c ∈ ([' '].intercalate pieces).head?, isBlank c = false) ∧
      ∀ c ∈ ([' '].intercalate pieces).getLast?, isBlank c = false := by
  induction pieces with
  | nil => exact ⟨nofun, nofun⟩
  | cons piece pieces ih =>
      obtain ⟨⟨hpiece, hrun⟩, hpieces⟩ := List.forall_mem_cons.mp h
      cases pieces with
      | nil =>
          rw [List.intercalate_singleton]
          exact ⟨fun c hc => hrun c (List.mem_of_mem_head? hc),
            fun c hc => hrun c (List.mem_of_mem_getLast? hc)⟩
      | cons next pieces =>
          have hrest : [' '].intercalate (next :: pieces) ≠ [] := by
            intro hnil
            have hwords := wordChars_intercalate hpieces
            rw [hnil] at hwords
            cases hwords
          obtain ⟨first, run, rfl⟩ := List.exists_cons_of_ne_nil hpiece
          rw [List.intercalate_cons_cons]
          constructor
          · intro c hc
            exact hrun c (Option.mem_some.mp hc ▸ List.mem_cons_self ..)
          · intro c hc
            rw [List.getLast?_append, List.getLast?_eq_some_getLast hrest, Option.some_or,
              ← List.getLast?_eq_some_getLast hrest] at hc
            exact (ih hpieces).2 c hc

theorem AreWords.isSpaced_unwords {texts : List String} (h : AreWords texts) :
    IsSpaced (unwords texts) := by
  obtain ⟨hfirst, hlast⟩ := ends_intercalate h.pieces
  have hchars : (unwords texts).toList = [' '].intercalate (texts.map String.toList) :=
    String.toList_intercalate
  rw [IsSpaced, hchars, wordChars_intercalate h.pieces]
  exact trimChars_eq_self hfirst hlast

/-! ## Keys of joined words -/

theorem lowerWords_eq_of_ofName {left right : String} (h : Key.ofName left = Key.ofName right) :
    lowerWords left = lowerWords right := by
  have hwords : ∀ s, words (normalize s) = lowerWords s := by
    intro s
    rw [normalize, words_lower, lowerWords, words, trim, String.toList_ofList,
      wordChars_trimChars, lowerWords, words]
  rw [← hwords left, ← hwords right]
  exact congrArg words (Key.mk.inj h)

theorem AreWords.length_lowerWords_unwords {texts : List String} (h : AreWords texts) :
    (lowerWords (unwords texts)).length = texts.length := by
  rw [lowerWords, h.words_unwords, List.length_map]

theorem lowerWords_unwords_lowerWords (s : String) :
    lowerWords (unwords (lowerWords s)) = lowerWords s := by
  rw [lowerWords, (areWords_lowerWords s).words_unwords, lowerWords, List.map_map]
  exact List.map_congr_left fun word _ => lower_lower word

/-- A name and its lower-cased words joined again have the same key. -/
theorem ofName_unwords_lowerWords {name : String} (h : IsSpaced name) :
    Key.ofName (unwords (lowerWords name)) = Key.ofName name :=
  ofName_eq_of_lowerWords (areWords_lowerWords name).isSpaced_unwords h
    (lowerWords_unwords_lowerWords name)

end TextAdventure.Text
