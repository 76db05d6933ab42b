import TextAdventure.Proofs.Input.Names
import TextAdventure.Proofs.Text.Normalized

/-!
# Names whole and word by word

A name is stored whole, under its normal form, while phrases and verbs are lower-cased word by
word.  A sigma is final or not before the next blank, so both ways come to the same, and a key can
be looked up by its own text.
-/

namespace TextAdventure

open Text (AreWords)

/-! ## Words joined by spaces -/

/-- Words that are joined by single spaces are lower-cased one by one. -/
theorem Text.AreWords.normalize_unwords {texts : List String} (h : AreWords texts) :
    Text.normalize (Text.unwords texts) = Text.unwords (texts.map Text.lower) := by
  rw [normalize_of_isSpaced h.isSpaced_unwords, lowerWords, h.words_unwords]

/-- The words of a text and words that are joined have the same key only if they are the same in
lower case, one by one. -/
theorem Text.AreWords.ofName_unwords_lowerWords_iff {texts : List String} (h : AreWords texts)
    (typed : String) :
    Key.ofName (Text.unwords texts) = Key.ofName (Text.unwords (Text.lowerWords typed)) ↔
      Text.lowerWords typed = texts.map Text.lower := by
  have hstored : Text.lowerWords (Text.unwords texts) = texts.map Text.lower := by
    rw [Text.lowerWords, h.words_unwords]
  have htyped := Text.lowerWords_unwords_lowerWords typed
  constructor
  · intro hkey
    rw [← htyped, ← Text.lowerWords_eq_of_ofName hkey, hstored]
  · intro hwords
    refine Text.ofName_eq_of_lowerWords h.isSpaced_unwords
      (Text.areWords_lowerWords typed).isSpaced_unwords ?_
    rw [hstored, htyped, hwords]

/-! ## Keys and their texts -/

namespace Key

theorem ofName_text (name : String) : ofName (ofName name).text = ofName name :=
  congrArg mk (Text.normalize_normalize name)

/-- A key is the key of its own text, and whatever is registered under it is found by this text.
And words that are joined by single spaces have the key that is made of them one by one: the words
of a phrase and those of a verb make this key exactly if they are the same words, case aside, and
then the phrase names it. -/
theorem ofName_whole_or_by_word (name : String) (registry : Registry) {texts : List String}
    (htexts : AreWords texts) :
    ofName (ofName name).text = ofName name ∧
      registry.named? (ofName name).text = registry.get? (ofName name) ∧
      (ofName (Text.unwords texts)).text = Text.unwords (texts.map Text.lower) ∧
      ∀ typed : String,
        ((ofName (Text.unwords texts)).matchesName (NounPhrase.ofText typed).text = true ↔
            (Text.words typed).map Text.lower = texts.map Text.lower) ∧
          (∀ command form, ∀ entry ∈ VerbTable.entryOf command form typed,
            ((ofName (Text.unwords texts)).matchesName (Text.unwords entry.words) = true ↔
              (Text.words typed).map Text.lower = texts.map Text.lower)) ∧
          (texts ≠ [] → (Text.words typed).map Text.lower = texts.map Text.lower →
            (NounPhrase.ofText typed).names (ofName (Text.unwords texts)) = true) := by
  have hfound : registry.named? (ofName name).text = registry.get? (ofName name) :=
    congrArg registry.get? (ofName_text name)
  refine ⟨ofName_text name, hfound, htexts.normalize_unwords, fun typed => ?_⟩
  have hmatches := (matchesName_iff _ _).trans (htexts.ofName_unwords_lowerWords_iff typed)
  refine ⟨hmatches, fun command form entry hentry => ?_, fun hnonempty hwords => ?_⟩
  · obtain ⟨-, rfl⟩ := VerbTable.mem_entryOf_iff.mp hentry
    exact hmatches
  · refine NounPhrase.names_iff.mpr ⟨fun hnil => ?_, Or.inl ?_⟩
    · exact hnonempty (List.map_eq_nil_iff.mp (hwords.symm.trans hnil))
    · exact (htexts.ofName_unwords_lowerWords_iff typed).mpr hwords

/-- A street whose name ends in a sigma, between blanks. -/
def street : Registry :=
  Registry.ofList [Entity.location "  ΟΔΟΣ İzmir "]

/-- The capital sigma is final at the end of the first word, in the name and in what is typed. -/
theorem ofName_whole_or_by_word_street :
    AreWords ["ΟΔΟΣ", "İzmir"] ∧
      ofName (ofName "  ΟΔΟΣ İzmir ").text = ofName "  ΟΔΟΣ İzmir " ∧
      street.named? (ofName "  ΟΔΟΣ İzmir ").text = some (Entity.location "  ΟΔΟΣ İzmir ") ∧
      (ofName (Text.unwords ["ΟΔΟΣ", "İzmir"])).text = "οδος i\u0307zmir" ∧
      (NounPhrase.ofText "\tοδοΣ  İZMIR").names ⟨"οδος i\u0307zmir"⟩ = true := by
  have hwords : AreWords ["ΟΔΟΣ", "İzmir"] := by
    refine List.forall_mem_cons.mpr ⟨⟨by decide, Text.isRun_iff_any.mpr (by decide)⟩, ?_⟩
    exact List.forall_mem_singleton.mpr ⟨by decide, Text.isRun_iff_any.mpr (by decide)⟩
  obtain ⟨hstable, hfound, hjoined, htyped⟩ :=
    ofName_whole_or_by_word "  ΟΔΟΣ İzmir " street hwords
  have hkey : ofName (Text.unwords ["ΟΔΟΣ", "İzmir"]) = ⟨"οδος i\u0307zmir"⟩ := by decide +kernel
  have hnames := (htyped "\tοδοΣ  İZMIR").2.2 (List.cons_ne_nil _ _) (by decide +kernel)
  rw [hkey] at hnames
  exact ⟨hwords, hstable, hfound.trans (by decide +kernel), hjoined.trans (by decide +kernel), hnames⟩

end Key

end TextAdventure
