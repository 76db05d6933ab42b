import TextAdventure.Proofs.Text.Lowered

/-!
# The letters A to Z

A text may have its letters A to Z lowered first: they are cased and not ignorable, as their lower
case is, so no sigma tells the difference.  This is the whole of lower-casing where a text has no
other capitals.
-/

namespace TextAdventure.Text

/-! ## Single letters -/

/-- Whether a capital has this lower case and looks the same to a sigma nearby. -/
structure IsCapitalOf (capital c : Char) : Prop where
  image : lowerChar capital = [c]
  lowered : lowerChar c = [c]
  no_sigma : capital ≠ 'Σ' ∧ c ≠ 'Σ'
  cased : isCased c = isCased capital
  ignorable : isCaseIgnorable c = isCaseIgnorable capital

instance (capital c : Char) : Decidable (IsCapitalOf capital c) :=
  decidable_of_decidable_of_iff
    (p := lowerChar capital = [c] ∧ lowerChar c = [c] ∧ (capital ≠ 'Σ' ∧ c ≠ 'Σ') ∧
      isCased c = isCased capital ∧ isCaseIgnorable c = isCaseIgnorable capital)
    ⟨fun ⟨himage, hlowered, hsigma, hcased, hignorable⟩ =>
        ⟨himage, hlowered, hsigma, hcased, hignorable⟩,
      fun h => ⟨h.image, h.lowered, h.no_sigma, h.cased, h.ignorable⟩⟩

theorem isCapitalOf_toLower {c : Char} (h : c.isUpper = true) : IsCapitalOf c c.toLower := by
  have hletters : ∀ n < 26, IsCapitalOf (Char.ofNat (n + 65)) (Char.ofNat (n + 65)).toLower := by
    decide +kernel
  have hcode : 65 ≤ c.val ∧ c.val ≤ 90 := of_decide_eq_true h
  have hbounds : 65 ≤ c.toNat ∧ c.toNat ≤ 90 :=
    hcode.imp UInt32.le_iff_toNat_le.mp UInt32.le_iff_toNat_le.mp
  have hletter := hletters (c.toNat - 65) (by omega)
  rwa [Nat.sub_add_cancel hbounds.1, Char.ofNat_toNat] at hletter

theorem toLower_of_not_isUpper {c : Char} (h : c.isUpper = false) : c.toLower = c :=
  dif_neg (of_decide_eq_false h)

theorem isCased_toLower (c : Char) : isCased c.toLower = isCased c := by
  cases h : c.isUpper with
  | true => exact (isCapitalOf_toLower h).cased
  | false => rw [toLower_of_not_isUpper h]

theorem isCaseIgnorable_toLower (c : Char) : isCaseIgnorable c.toLower = isCaseIgnorable c := by
  cases h : c.isUpper with
  | true => exact (isCapitalOf_toLower h).ignorable
  | false => rw [toLower_of_not_isUpper h]

/-! ## Texts -/

theorem meetsCased_map_toLower (cs : List Char) :
    meetsCased (cs.map Char.toLower) = meetsCased cs := by
  have hignorable : isCaseIgnorable ∘ Char.toLower = isCaseIgnorable :=
    funext isCaseIgnorable_toLower
  rw [meetsCased, meetsCased, List.dropWhile_map, hignorable]
  cases cs.dropWhile isCaseIgnorable with
  | nil => rfl
  | cons c rest => exact isCased_toLower c

theorem lowerImage_map_toLower (before : List Char) (c : Char) (after : List Char) :
    lowerImage (before.map Char.toLower) c.toLower (after.map Char.toLower) =
      lowerImage before c after := by
  cases h : c.isUpper with
  | true =>
      have hcapital := isCapitalOf_toLower h
      rw [lowerImage, lowerImage, if_neg hcapital.no_sigma.1, if_neg hcapital.no_sigma.2,
        hcapital.lowered, hcapital.image]
  | false =>
      rw [toLower_of_not_isUpper h, lowerImage, lowerImage, isFinalSigma, isFinalSigma,
        meetsCased_map_toLower, meetsCased_map_toLower]

theorem lowerAfter_map_toLower (before cs : List Char) :
    lowerAfter (before.map Char.toLower) (cs.map Char.toLower) = lowerAfter before cs := by
  induction cs generalizing before with
  | nil => rfl
  | cons c rest ih =>
      rw [List.map_cons, lowerAfter_cons, lowerAfter_cons, lowerImage_map_toLower,
        ← List.map_cons, ih]

theorem lower_lowerAscii (s : String) : lower (lowerAscii s) = lower s := by
  rw [lower, lowerAscii, String.toList_ofList]
  exact congrArg String.ofList (lowerAfter_map_toLower [] s.toList)

instance (c : Char) : Decidable (IsLowered c) :=
  decidable_of_decidable_of_iff (p := lowerChar c = [c] ∧ c ≠ 'Σ')
    ⟨fun ⟨hlowered, hsigma⟩ => ⟨hlowered, hsigma⟩, fun h => ⟨h.lowered, h.no_sigma⟩⟩

/-- Whether a text has no capitals but the letters A to Z. -/
def HasAsciiCapitals (s : String) : Prop :=
  ∀ c ∈ s.toList, c.isUpper = true ∨ IsLowered c

instance (s : String) : Decidable (HasAsciiCapitals s) :=
  List.decidableBAll (fun c : Char => c.isUpper = true ∨ IsLowered c) s.toList

theorem HasAsciiCapitals.lower_eq {s : String} (h : HasAsciiCapitals s) :
    lower s = lowerAscii s := by
  have hlowered : ∀ c ∈ (lowerAscii s).toList, IsLowered c := by
    rw [lowerAscii, String.toList_ofList, List.forall_mem_map]
    intro c hc
    cases hupper : c.isUpper with
    | true =>
        have hcapital := isCapitalOf_toLower hupper
        exact ⟨hcapital.lowered, hcapital.no_sigma.2⟩
    | false =>
        rw [toLower_of_not_isUpper hupper]
        exact (h c hc).resolve_left (Bool.eq_false_iff.mp hupper)
  rw [← lower_lowerAscii, lower, lowerChars, lowerAfter_of_isLowered hlowered, String.ofList_toList]

theorem mem_of_mem_trimChars {c : Char} {cs : List Char} (h : c ∈ trimChars cs) : c ∈ cs := by
  have hfront := (List.dropWhile_sublist isBlank).subset (List.mem_reverse.mp h)
  exact (List.dropWhile_sublist isBlank).subset (List.mem_reverse.mp hfront)

theorem HasAsciiCapitals.trim {s : String} (h : HasAsciiCapitals s) :
    HasAsciiCapitals (Text.trim s) := by
  intro c hc
  rw [Text.trim, String.toList_ofList] at hc
  exact h c (mem_of_mem_trimChars hc)

end TextAdventure.Text
