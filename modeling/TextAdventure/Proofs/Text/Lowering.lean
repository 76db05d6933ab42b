import TextAdventure.Key
import TextAdventure.Proofs.Text.Words

/-!
# Lower-casing word by word

Blanks, punctuation and quotes have no lower case and are the lower case of nothing else, and
a sigma looks no further than the next blank.  So a text may be cut into words before or after
it is lower-cased.
-/

namespace TextAdventure.Text

/-! ## Ranges of code points -/

def blankRanges : List (Nat × Nat) :=
  [(0x9, 0xD), (0x20, 0x20), (0x85, 0x85), (0xA0, 0xA0), (0x1680, 0x1680), (0x2000, 0x200A),
   (0x2028, 0x2029), (0x202F, 0x202F), (0x205F, 0x205F), (0x3000, 0x3000)]

/-- The blanks, the marks that end or divide a sentence, the double quote, the slashes and the
character of code zero. -/
def markRanges : List (Nat × Nat) :=
  blankRanges ++ [(0x0, 0x0), (0x21, 0x22), (0x2C, 0x2C), (0x2E, 0x2F), (0x3A, 0x3B), (0x3F, 0x3F),
    (0x5C, 0x5C)]

def isMark (c : Char) : Bool :=
  isBlank c || isPunctuation c || c == '"' || c == '/' || c == '\\' || c == '\x00'

def areDisjoint (left right : List (Nat × Nat)) : Bool :=
  left.all fun range => right.all fun other => range.2 < other.1 || other.2 < range.1

theorem inRanges_iff {ranges : List (Nat × Nat)} {n : Nat} :
    inRanges ranges n = true ↔ ∃ range ∈ ranges, range.1 ≤ n ∧ n ≤ range.2 := by
  simp [inRanges]

theorem not_inRanges_of_disjoint {left right : List (Nat × Nat)}
    (h : areDisjoint left right = true) {n : Nat} (hn : inRanges left n = true) :
    inRanges right n = false := by
  refine Bool.eq_false_iff.mpr fun hright => ?_
  obtain ⟨range, hrange, hlow, hhigh⟩ := inRanges_iff.mp hn
  obtain ⟨other, hother, hlower, hupper⟩ := inRanges_iff.mp hright
  have hapart := List.all_eq_true.mp (List.all_eq_true.mp h range hrange) other hother
  simp only [Bool.or_eq_true, decide_eq_true_eq] at hapart
  omega

theorem isBlank_eq (c : Char) : isBlank c = inRanges blankRanges c.toNat := by
  rw [Bool.eq_iff_iff]
  simp [isBlank, inRanges, blankRanges]
  omega

theorem isMark_eq (c : Char) : isMark c = inRanges markRanges c.toNat := by
  rw [Bool.eq_iff_iff, isMark, isBlank_eq]
  simp only [Bool.or_eq_true, isPunctuation, beq_iff_eq, ← Char.toNat_inj]
  simp [inRanges, markRanges, blankRanges]
  omega

theorem isMark_of_isBlank {c : Char} (h : isBlank c = true) : isMark c = true := by
  simp [isMark, h]

theorem isMark_of_isPunctuation {c : Char} (h : isPunctuation c = true) : isMark c = true := by
  simp [isMark, h]

/-! ## Lower case of single characters -/

/-- Whether a run moves none of its code points out of or into the ranges. -/
def CaseRun.avoids (ranges : List (Nat × Nat)) (run : CaseRun) : Bool :=
  0 < run.first + run.shift && ranges.all fun range =>
    (run.last < range.1 || range.2 < run.first) &&
      ((run.last : Int) + run.shift < range.1 || (range.2 : Int) < run.first + run.shift)

theorem lowercaseRuns_avoid_marks : lowercaseRuns.all (CaseRun.avoids markRanges) = true := by
  decide +kernel

/-- Whether a run moves its code points to code points, on one side of the surrogates. -/
def CaseRun.isSound (run : CaseRun) : Bool :=
  run.last + run.shift < 0xD800 ||
    (0xDFFF < run.first + run.shift && run.last + run.shift < 0x110000)

theorem lowercaseRuns_sound : lowercaseRuns.all CaseRun.isSound = true := by
  decide +kernel

theorem CaseRun.bounds_of_covers {run : CaseRun} {n : Nat} (h : run.covers n = true) :
    run.first ≤ n ∧ n ≤ run.last := by
  simp only [covers, Bool.and_eq_true, decide_eq_true_eq] at h
  exact h.1

theorem CaseRun.not_inRanges {ranges : List (Nat × Nat)} {run : CaseRun}
    (h : run.avoids ranges = true) {n : Nat} (hcovers : run.covers n = true) :
    inRanges ranges n = false ∧ inRanges ranges (run.image n) = false := by
  have hbounds := bounds_of_covers hcovers
  obtain ⟨hpositive, hall⟩ := Bool.and_eq_true_iff.mp h
  have hapart := List.all_eq_true.mp hall
  have hmoved := of_decide_eq_true hpositive
  constructor
  · refine Bool.eq_false_iff.mpr fun hin => ?_
    obtain ⟨range, hrange, hlow, hhigh⟩ := inRanges_iff.mp hin
    have := hapart range hrange
    simp only [Bool.and_eq_true, Bool.or_eq_true, decide_eq_true_eq] at this
    omega
  · refine Bool.eq_false_iff.mpr fun hin => ?_
    obtain ⟨range, hrange, hlow, hhigh⟩ := inRanges_iff.mp hin
    have := hapart range hrange
    simp only [Bool.and_eq_true, Bool.or_eq_true, decide_eq_true_eq, image] at this hlow hhigh
    omega

/-- A code point stays where it is or is moved by a run of the table. -/
theorem lowerCode_moved (n : Nat) :
    lowerCode n = n ∨ ∃ run ∈ lowercaseRuns, run.covers n = true ∧ lowerCode n = run.image n := by
  unfold lowerCode
  split
  · split
    next hletter =>
      refine Or.inr ⟨⟨0x41, 0x5A, 1, 32⟩, List.mem_cons_self .., ?_, ?_⟩
      · simp [CaseRun.covers, hletter, Nat.mod_one]
      · simp only [CaseRun.image]
        omega
    next => exact Or.inl rfl
  · split
    next => exact Or.inl rfl
    next run hrun =>
      exact Or.inr ⟨run, List.mem_of_find?_eq_some hrun, by simpa using List.find?_some hrun, rfl⟩

theorem lowerCode_cases (n : Nat) :
    lowerCode n = n ∨
      inRanges markRanges n = false ∧ inRanges markRanges (lowerCode n) = false := by
  rcases lowerCode_moved n with hsame | ⟨run, hrun, hcovers, himage⟩
  · exact Or.inl hsame
  · rw [himage]
    exact Or.inr
      (CaseRun.not_inRanges (List.all_eq_true.mp lowercaseRuns_avoid_marks run hrun) hcovers)

/-- The lower case of one character where it stands. -/
def lowerImage (before : List Char) (c : Char) (after : List Char) : List Char :=
  if c = 'Σ' then [if isFinalSigma before after then 'ς' else 'σ'] else lowerChar c

theorem lowerAfter_cons (before : List Char) (c : Char) (rest : List Char) :
    lowerAfter before (c :: rest) = lowerImage before c rest ++ lowerAfter (c :: before) rest :=
  rfl

theorem lowerImage_ne_nil (before : List Char) (c : Char) (after : List Char) :
    lowerImage before c after ≠ [] := by
  unfold lowerImage lowerChar
  split
  · exact List.cons_ne_nil _ _
  · split <;> exact List.cons_ne_nil _ _

theorem CaseRun.isValidChar_image {run : CaseRun} (h : run.isSound = true) {n : Nat}
    (hcovers : run.covers n = true) : (run.image n).isValidChar := by
  have hbounds := bounds_of_covers hcovers
  simp only [isSound, Bool.or_eq_true, Bool.and_eq_true, decide_eq_true_eq] at h
  rw [image, Nat.isValidChar]
  omega

theorem toNat_ofNat_lowerCode (c : Char) :
    (Char.ofNat (lowerCode c.toNat)).toNat = lowerCode c.toNat := by
  have hvalid : (lowerCode c.toNat).isValidChar := by
    rcases lowerCode_moved c.toNat with hsame | ⟨run, hrun, hcovers, himage⟩
    · rw [hsame]
      exact c.valid
    · rw [himage]
      exact CaseRun.isValidChar_image (List.all_eq_true.mp lowercaseRuns_sound run hrun) hcovers
  rw [Char.ofNat, dif_pos hvalid]
  rfl

theorem lowerChar_cases (c : Char) :
    lowerChar c = [c] ∨ isMark c = false ∧ ∀ d ∈ lowerChar c, isMark d = false := by
  unfold lowerChar
  split
  next hdotted =>
    subst hdotted
    refine Or.inr ⟨by decide, List.forall_mem_cons.mpr ⟨by decide, ?_⟩⟩
    exact List.forall_mem_singleton.mpr (by decide)
  next =>
    rcases lowerCode_cases c.toNat with hsame | ⟨hbefore, hafter⟩
    · exact Or.inl (by rw [hsame, Char.ofNat_toNat])
    · refine Or.inr ⟨by rw [isMark_eq, hbefore], List.forall_mem_singleton.mpr ?_⟩
      rw [isMark_eq, toNat_ofNat_lowerCode, hafter]

/-- A mark is its own lower case, and no other character is lower-cased to a mark. -/
theorem lowerImage_cases (before : List Char) (c : Char) (after : List Char) :
    lowerImage before c after = [c] ∨
      isMark c = false ∧ ∀ d ∈ lowerImage before c after, isMark d = false := by
  unfold lowerImage
  split
  next hsigma =>
    subst hsigma
    refine Or.inr ⟨by decide, List.forall_mem_singleton.mpr ?_⟩
    split <;> decide
  next => exact lowerChar_cases c

/-! ## What lower-casing keeps -/

variable {p : Char → Bool}

theorem eq_of_mem_lowerImage (hp : ∀ c, p c = true → isMark c = true) {before : List Char}
    {c d : Char} {after : List Char} (h : d ∈ lowerImage before c after) : p d = p c := by
  rcases lowerImage_cases before c after with hsame | ⟨hbefore, hafter⟩
  · rw [hsame] at h
    rw [List.mem_singleton.mp h]
  · have hnot : ∀ e, isMark e = false → p e = false := fun e he =>
      Bool.eq_false_iff.mpr fun hpe => Bool.eq_false_iff.mp he (hp e hpe)
    rw [hnot d (hafter d h), hnot c hbefore]

theorem any_lowerAfter (hp : ∀ c, p c = true → isMark c = true) (before cs : List Char) :
    (lowerAfter before cs).any p = cs.any p := by
  induction cs generalizing before with
  | nil => rfl
  | cons c rest ih =>
      have himage : (lowerImage before c rest).any p = p c := by
        rw [Bool.eq_iff_iff, List.any_eq_true]
        constructor
        · rintro ⟨d, hd, hpd⟩
          rw [← eq_of_mem_lowerImage hp hd, hpd]
        · intro hpc
          obtain ⟨d, hd⟩ := List.exists_mem_of_ne_nil _ (lowerImage_ne_nil before c rest)
          exact ⟨d, hd, by rw [eq_of_mem_lowerImage hp hd, hpc]⟩
      rw [lowerAfter_cons, List.any_append, himage, ih, List.any_cons]

theorem all_lowerAfter (hp : ∀ c, p c = true → isMark c = true) (before cs : List Char) :
    (lowerAfter before cs).all p = cs.all p := by
  induction cs generalizing before with
  | nil => rfl
  | cons c rest ih =>
      have himage : (lowerImage before c rest).all p = p c := by
        rw [Bool.eq_iff_iff, List.all_eq_true]
        constructor
        · intro hall
          obtain ⟨d, hd⟩ := List.exists_mem_of_ne_nil _ (lowerImage_ne_nil before c rest)
          rw [← eq_of_mem_lowerImage hp hd, hall d hd]
        · intro hpc d hd
          rw [eq_of_mem_lowerImage hp hd, hpc]
      rw [lowerAfter_cons, List.all_append, himage, ih, List.all_cons]

theorem isEmpty_lowerChars (cs : List Char) : (lowerChars cs).isEmpty = cs.isEmpty := by
  cases cs with
  | nil => rfl
  | cons c rest =>
      rw [lowerChars, lowerAfter_cons]
      simp [lowerImage_ne_nil]

theorem isRun_iff_any {cs : List Char} : IsRun cs ↔ cs.any isBlank = false := by
  simp [IsRun]

theorem IsRun.lowerChars {cs : List Char} (h : IsRun cs) : IsRun (lowerChars cs) := by
  rw [isRun_iff_any] at h ⊢
  rw [Text.lowerChars, any_lowerAfter fun _ => isMark_of_isBlank, h]

/-! ## Blanks and sigmas -/

theorem blank_not_caseIgnorable {c : Char} (h : isBlank c = true) : isCaseIgnorable c = false := by
  have hdisjoint : areDisjoint blankRanges caseIgnorableRanges = true := by decide +kernel
  exact not_inRanges_of_disjoint hdisjoint (isBlank_eq c ▸ h)

theorem blank_not_cased {c : Char} (h : isBlank c = true) : isCased c = false := by
  have hdisjoint : areDisjoint blankRanges casedRanges = true := by decide +kernel
  exact not_inRanges_of_disjoint hdisjoint (isBlank_eq c ▸ h)

/-- Whether a letter comes next is decided before the next blank. -/
theorem meetsCased_append_blank {c : Char} (h : isBlank c = true) (cs rest : List Char) :
    meetsCased (cs ++ c :: rest) = meetsCased cs := by
  induction cs with
  | nil => simp [meetsCased, blank_not_caseIgnorable h, blank_not_cased h]
  | cons first cs ih =>
      unfold meetsCased at ih ⊢
      cases hignorable : isCaseIgnorable first with
      | true =>
          rw [List.cons_append, List.dropWhile_cons_of_pos hignorable,
            List.dropWhile_cons_of_pos hignorable]
          exact ih
      | false =>
          rw [List.cons_append, List.dropWhile_cons_of_neg (by simp [hignorable]),
            List.dropWhile_cons_of_neg (by simp [hignorable])]

theorem lowerAfter_blank {c : Char} (h : isBlank c = true) (before earlier cs : List Char) :
    lowerAfter (before ++ c :: earlier) cs = lowerAfter before cs := by
  induction cs generalizing before with
  | nil => rfl
  | cons first rest ih =>
      have himage : lowerImage (before ++ c :: earlier) first rest =
          lowerImage before first rest := by
        rw [lowerImage, lowerImage, isFinalSigma, isFinalSigma, meetsCased_append_blank h]
      rw [lowerAfter_cons, lowerAfter_cons, himage, ← List.cons_append, ih]

/-- What stands on the two sides of a blank is lower-cased on its own. -/
theorem lowerAfter_append_blank {c : Char} (h : isBlank c = true) (before cs rest : List Char) :
    lowerAfter before (cs ++ c :: rest) = lowerAfter before cs ++ c :: lowerChars rest := by
  induction cs generalizing before with
  | nil =>
      have himage : lowerImage before c rest = [c] := by
        rcases lowerImage_cases before c rest with hsame | ⟨hmark, -⟩
        · exact hsame
        · rw [isMark_of_isBlank h] at hmark
          cases hmark
      rw [List.nil_append, lowerAfter_cons, himage]
      exact congrArg (c :: ·) (lowerAfter_blank h [] before rest)
  | cons first cs ih =>
      have himage : lowerImage before first (cs ++ c :: rest) = lowerImage before first cs := by
        rw [lowerImage, lowerImage, isFinalSigma, isFinalSigma, meetsCased_append_blank h]
      rw [List.cons_append, lowerAfter_cons, himage, ih, lowerAfter_cons, List.append_assoc]

theorem wordChars_lowerChars (cs : List Char) :
    wordChars (lowerChars cs) = (wordChars cs).map lowerChars := by
  induction cs using run_induction with
  | run run hrun =>
      rw [wordChars_run hrun.lowerChars, wordChars_run hrun, map_consRun isEmpty_lowerChars]
      rfl
  | blank run c rest hrun hblank ih =>
      have hlower : lowerChars (run ++ c :: rest) = lowerChars run ++ c :: lowerChars rest :=
        lowerAfter_append_blank hblank [] run rest
      rw [hlower, wordChars_append_blank hrun.lowerChars hblank,
        wordChars_append_blank hrun hblank, map_consRun isEmpty_lowerChars, ih]

/-- The words of a lower-cased text are the lower-cased words of the text. -/
theorem words_lower (s : String) : words (lower s) = lowerWords s := by
  simp [words, lower, lowerWords, wordChars_lowerChars]

end TextAdventure.Text
