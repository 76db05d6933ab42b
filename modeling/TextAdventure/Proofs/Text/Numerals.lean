import TextAdventure.Proofs.Text.Phrases
import TextAdventure.Terminal.Script

/-!
# Numerals

A run of digits stands for a number, and a line is a numeral of the number that its digits stand
for: there may be blanks around them and a plus sign in front.  The line that is typed to a menu
chooses an option if and only if it is a numeral of the number of that option.
-/

namespace TextAdventure

namespace Text

/-! ## Digits -/

/-- A non-empty run of the digits 0 to 9, and the number that it stands for. -/
structure Numbers (digits : List Char) (n : Nat) : Prop where
  ne_nil : digits ≠ []
  isDigit : ∀ c ∈ digits, c.isDigit = true
  value : Nat.ofDigitChars 10 digits 0 = n

theorem isDigit_iff {c : Char} : c.isDigit = true ↔ '0' ≤ c ∧ c ≤ '9' := by
  rw [Char.isDigit, Bool.and_eq_true, decide_eq_true_eq, decide_eq_true_eq]
  exact Iff.rfl

theorem digit?_eq (c : Char) :
    digit? c = if c.isDigit then some (c.toNat - '0'.toNat) else none := by
  simp only [digit?, isDigit_iff]

theorem readDigits?_eq_some_iff {digits : List Char} {value n : Nat} :
    readDigits? value digits = some n ↔
      (∀ c ∈ digits, c.isDigit = true) ∧ Nat.ofDigitChars 10 digits value = n := by
  induction digits generalizing value with
  | nil => simp [readDigits?, Nat.ofDigitChars]
  | cons c rest ih =>
      rw [readDigits?, digit?_eq, List.forall_mem_cons, Nat.ofDigitChars_cons]
      cases hc : c.isDigit with
      | false => simp
      | true => simpa using ih

theorem readNat?_eq_some_iff {digits : List Char} {n : Nat} :
    readNat? digits = some n ↔ Numbers digits n := by
  cases digits with
  | nil => exact iff_of_false nofun fun h => h.ne_nil rfl
  | cons c rest =>
      refine readDigits?_eq_some_iff.trans ⟨fun ⟨hdigits, hvalue⟩ => ?_, fun h => ?_⟩
      · exact ⟨List.cons_ne_nil c rest, hdigits, hvalue⟩
      · exact ⟨h.isDigit, h.value⟩

theorem numbers_toDigits (n : Nat) : Numbers (Nat.toDigits 10 n) n where
  ne_nil := Nat.toDigits_ne_nil
  isDigit _ hc := Nat.isDigit_of_mem_toDigits (by decide) (by decide) hc
  value := Nat.ofDigitChars_toDigits (by decide) (by decide)

theorem isBlank_of_isDigit {c : Char} (h : c.isDigit = true) : isBlank c = false := by
  obtain ⟨hlow, hhigh⟩ := isDigit_iff.mp h
  have hlow : 48 ≤ c.toNat := hlow
  have hhigh : c.toNat ≤ 57 := hhigh
  simp [isBlank]
  omega

/-! ## Blanks around a run -/

theorem dropWhile_isBlank_append {run : List Char} (h : IsRun run) (hne : run ≠ [])
    (rest : List Char) : (run ++ rest).dropWhile isBlank = run ++ rest := by
  rw [List.dropWhile_append, dropWhile_isBlank_of_isRun h, if_neg (by simpa using hne)]

theorem exists_eq_trimChars (line : List Char) :
    ∃ before after, line = before ++ trimChars line ++ after ∧
      (∀ c ∈ before, isBlank c = true) ∧ ∀ c ∈ after, isBlank c = true := by
  have hblank : ∀ cs : List Char, ∀ c ∈ cs.takeWhile isBlank, isBlank c = true :=
    fun cs => List.all_eq_true.mp List.all_takeWhile
  refine ⟨line.takeWhile isBlank, ((line.dropWhile isBlank).reverse.takeWhile isBlank).reverse,
    ?_, hblank line, fun c hc => hblank _ c (List.mem_reverse.mp hc)⟩
  rw [trimChars, List.append_assoc, ← List.reverse_append, List.takeWhile_append_dropWhile,
    List.reverse_reverse, List.takeWhile_append_dropWhile]

theorem trimChars_eq_run_iff {line run : List Char} (hrun : IsRun run) (hne : run ≠ []) :
    trimChars line = run ↔
      ∃ before after, line = before ++ run ++ after ∧
        (∀ c ∈ before, isBlank c = true) ∧ ∀ c ∈ after, isBlank c = true := by
  constructor
  · rintro rfl
    exact exists_eq_trimChars line
  · rintro ⟨before, after, rfl, hbefore, hafter⟩
    have hreverse : IsRun run.reverse := fun c hc => hrun c (List.mem_reverse.mp hc)
    have hblank : ∀ c ∈ after.reverse, isBlank c = true :=
      fun c hc => hafter c (List.mem_reverse.mp hc)
    rw [trimChars, List.append_assoc, List.dropWhile_append_of_pos hbefore,
      dropWhile_isBlank_append hrun hne, List.reverse_append,
      List.dropWhile_append_of_pos hblank, dropWhile_isBlank_of_isRun hreverse,
      List.reverse_reverse]

/-! ## Lines -/

/-- A line is a numeral: digits between blanks, perhaps with a plus sign in front. -/
def Denotes (line : String) (n : Nat) : Prop :=
  ∃ before sign digits after, line.toList = before ++ (sign ++ digits) ++ after ∧
    (∀ c ∈ before, isBlank c = true) ∧ (∀ c ∈ after, isBlank c = true) ∧
    (sign = [] ∨ sign = ['+']) ∧ Numbers digits n

theorem Numbers.isRun {digits : List Char} {n : Nat} (h : Numbers digits n) : IsRun digits :=
  fun c hc => isBlank_of_isDigit (h.isDigit c hc)

/-- The digits of a number are a numeral of it. -/
theorem denotes_toString (n : Nat) : Denotes (toString n) n :=
  ⟨[], [], Nat.toDigits 10 n, [], by simp [toString, Nat.toList_repr], by simp, by simp, .inl rfl,
    numbers_toDigits n⟩

theorem denotes_iff_trim {line : String} {n : Nat} :
    Denotes line n ↔
      ∃ digits, Numbers digits n ∧
        ((trim line).toList = digits ∨ (trim line).toList = '+' :: digits) := by
  have htrim : (trim line).toList = trimChars line.toList := by simp [trim]
  rw [htrim]
  constructor
  · rintro ⟨before, sign, digits, after, hline, hbefore, hafter, rfl | rfl, hdigits⟩
    · refine ⟨digits, hdigits, .inl ?_⟩
      exact (trimChars_eq_run_iff hdigits.isRun hdigits.ne_nil).mpr
        ⟨before, after, hline, hbefore, hafter⟩
    · refine ⟨digits, hdigits, .inr ?_⟩
      have hrun : IsRun ('+' :: digits) := isRun_cons_iff.mpr ⟨by decide, hdigits.isRun⟩
      exact (trimChars_eq_run_iff hrun (List.cons_ne_nil _ _)).mpr
        ⟨before, after, hline, hbefore, hafter⟩
  · obtain ⟨before, after, hline, hbefore, hafter⟩ := exists_eq_trimChars line.toList
    rintro ⟨digits, hdigits, heq | heq⟩
    · exact ⟨before, [], digits, after, by rw [List.nil_append, ← heq]; exact hline, hbefore,
        hafter, .inl rfl, hdigits⟩
    · exact ⟨before, ['+'], digits, after, by rw [List.singleton_append, ← heq]; exact hline,
        hbefore, hafter, .inr rfl, hdigits⟩

/-- A run of digits has no sign in front. -/
theorem not_numbers_plus {digits : List Char} {n : Nat} : ¬Numbers ('+' :: digits) n :=
  fun h => absurd (h.isDigit '+' List.mem_cons_self) (by decide)

/-- A line denotes one number at most. -/
theorem Denotes.unique {line : String} {n m : Nat} (hn : Denotes line n) (hm : Denotes line m) :
    n = m := by
  obtain ⟨digits, hdigits, hline⟩ := denotes_iff_trim.mp hn
  obtain ⟨others, hothers, hsame⟩ := denotes_iff_trim.mp hm
  rcases hline with rfl | hline <;> rcases hsame with rfl | hsame
  · exact hdigits.value.symm.trans hothers.value
  · exact absurd (hsame ▸ hdigits) not_numbers_plus
  · exact absurd (hline ▸ hothers) not_numbers_plus
  · cases hline.symm.trans hsame
    exact hdigits.value.symm.trans hothers.value

theorem readUnsigned?_trim_eq_some_iff {line : String} {n : Nat} :
    readUnsigned? (trim line) = some n ↔ Denotes line n ∧ n < UInt64.size := by
  have hbound : ∀ digits : List Char,
      ((readNat? digits).bind fun m => if m < UInt64.size then some m else none) = some n ↔
        Numbers digits n ∧ n < UInt64.size := by
    intro digits
    rw [← readNat?_eq_some_iff]
    cases readNat? digits with
    | none => simp
    | some m =>
        rw [Option.bind_some, Option.ite_none_right_eq_some, Option.some.injEq]
        constructor
        · rintro ⟨hlt, rfl⟩
          exact ⟨rfl, hlt⟩
        · rintro ⟨rfl, hlt⟩
          exact ⟨hlt, rfl⟩
  rw [denotes_iff_trim]
  simp only [readUnsigned?, Option.bind_eq_bind]
  split
  next digits heq =>
    rw [hbound, heq]
    constructor
    · rintro ⟨hdigits, hlt⟩
      exact ⟨⟨digits, hdigits, .inr rfl⟩, hlt⟩
    · rintro ⟨⟨others, hothers, rfl | hsame⟩, hlt⟩
      · exact absurd hothers not_numbers_plus
      · cases hsame
        exact ⟨hothers, hlt⟩
  next hplain =>
    rw [hbound]
    constructor
    · rintro ⟨hdigits, hlt⟩
      exact ⟨⟨_, hdigits, .inl rfl⟩, hlt⟩
    · rintro ⟨⟨digits, hdigits, rfl | heq⟩, hlt⟩
      · exact ⟨hdigits, hlt⟩
      · exact absurd heq (hplain digits)

end Text

/-! ## Choices -/

/-- A line chooses the option whose number it denotes, if there is one and the number is within
the range of numbers. -/
theorem parseChoice_eq_some_iff {line : String} {count index : Nat} :
    parseChoice line count = some index ↔
      index < count ∧ index + 1 < UInt64.size ∧ Text.Denotes line (index + 1) := by
  rw [and_comm (a := index + 1 < UInt64.size), ← Text.readUnsigned?_trim_eq_some_iff]
  unfold parseChoice
  cases Text.readUnsigned? (Text.trim line) with
  | none => simp
  | some choice =>
      simp only [Option.ite_none_right_eq_some, Option.some.injEq]
      omega

/-- The number of an option chooses it. -/
theorem parseChoice_toString {count index : Nat} (hindex : index < count)
    (hsize : index + 1 < UInt64.size) : parseChoice (toString (index + 1)) count = some index :=
  parseChoice_eq_some_iff.mpr ⟨hindex, hsize, Text.denotes_toString _⟩

end TextAdventure
