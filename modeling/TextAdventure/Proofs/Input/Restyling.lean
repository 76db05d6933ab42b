import Mathlib.Logic.Relation
import TextAdventure.Proofs.Input.Prepositions

/-!
# Lines typed in other ways

What a line says does not depend on how it is set.  Gaps between words may be of any width, blanks
may stand at the two ends, and words may be followed by marks: the tokens stay the same.  They are
of one form, so that a line made of them has these tokens again.
-/

namespace TextAdventure

namespace Token

open Text (IsRun IsTypedWord isBlank isPunctuation lowerChars)

/-! ## Gaps -/

/-- Whether a text consists of blanks. -/
def IsGap (gap : String) : Prop :=
  ∀ c ∈ gap.toList, isBlank c = true

theorem unquoted_of_isGap {gap : String} (h : IsGap gap) : '"' ∉ gap.toList := by
  intro hquote
  cases h _ hquote

theorem scan_gap {gap : List Char} (h : ∀ c ∈ gap, isBlank c = true) (rest : List Char) :
    scan (.run []) (gap ++ rest) = scan (.run []) rest := by
  induction gap with
  | nil => rfl
  | cons c gap ih =>
      obtain ⟨hblank, hgap⟩ := List.forall_mem_cons.mp h
      have hnone : '"' ∉ ([] : List Char) := List.not_mem_nil
      exact (scan_append_blank hnone hblank (gap ++ rest)).trans (ih hgap)

/-- However wide a gap is, what stands on its two sides is cut on its own. -/
theorem scan_append_gap {left gap : List Char} (hunquoted : '"' ∉ left) (hnonempty : gap ≠ [])
    (hgap : ∀ c ∈ gap, isBlank c = true) (right : List Char) :
    scan (.run []) (left ++ gap ++ right) = scan (.run []) left ++ scan (.run []) right := by
  obtain ⟨c, gap, rfl⟩ := List.exists_cons_of_ne_nil hnonempty
  obtain ⟨hblank, hrest⟩ := List.forall_mem_cons.mp hgap
  rw [List.append_assoc, List.cons_append, scan_append_blank hunquoted hblank, scan_gap hrest]

/-! ## Marks -/

/-- The characters of a run that are no marks. -/
def bare (run : List Char) : List Char :=
  run.filter fun c => !isPunctuation c

theorem bare_ne_nil_iff {run : List Char} :
    bare run ≠ [] ↔ ∃ c ∈ run, isPunctuation c = false := by
  simp [bare]

theorem bare_append (left right : List Char) : bare (left ++ right) = bare left ++ bare right :=
  List.filter_append ..

theorem bare_cons (c : Char) (run : List Char) : bare (c :: run) = bare [c] ++ bare run :=
  bare_append [c] run

theorem bare_append_marks {run marks : List Char} (h : ∀ c ∈ marks, isPunctuation c = true) :
    bare (marks ++ run) = bare run := by
  have hmarks : bare marks = [] := List.filter_eq_nil_iff.mpr fun c hc => by simp [h c hc]
  rw [bare_append, hmarks, List.nil_append]

theorem finishRun_of_bare {reversed : List Char} (h : bare reversed ≠ []) :
    finishRun reversed = [word (String.ofList (lowerChars (bare reversed).reverse))] := by
  obtain ⟨c, hmem, hc⟩ := bare_ne_nil_iff.mp h
  have hback : reversed.reverse ≠ [] := by simpa using List.ne_nil_of_mem hmem
  have hcontent : ∃ c ∈ reversed.reverse, isPunctuation c = false :=
    ⟨c, List.mem_reverse.mpr hmem, hc⟩
  have hfinish := finishRun_reverse hback
  rw [List.reverse_reverse, token_run hcontent, List.filter_reverse] at hfinish
  exact hfinish

/-- Of a run with other characters in hand the marks do not matter, whatever it goes on with. -/
theorem scan_congr_of_bare {reversed other : List Char} (hnonempty : bare reversed ≠ [])
    (hsame : bare reversed = bare other) (cs : List Char) :
    scan (.run reversed) cs = scan (.run other) cs := by
  have hfinish : ∀ {left right : List Char}, bare left ≠ [] → bare left = bare right →
      finishRun left = finishRun right := by
    intro left right hleft hboth
    rw [finishRun_of_bare hleft, finishRun_of_bare (hboth ▸ hleft), hboth]
  induction cs generalizing reversed other with
  | nil => exact hfinish hnonempty hsame
  | cons c rest ih =>
      have hcons : bare (c :: reversed) = bare (c :: other) := by
        rw [bare_cons, bare_cons c other, hsame]
      have hlonger : bare (c :: reversed) ≠ [] := by
        rw [bare_cons]
        exact List.append_ne_nil_of_right_ne_nil _ hnonempty
      rw [scan, scan, hfinish hnonempty hsame, ih hlonger hcons]

/-- Texts that have the same tokens after any run have them after any text without quotes. -/
theorem scan_append_congr {left right other : List Char} (hunquoted : '"' ∉ left)
    (h : ∀ reversed, scan (.run reversed) right = scan (.run reversed) other)
    (reversed : List Char) :
    scan (.run reversed) (left ++ right) = scan (.run reversed) (left ++ other) := by
  induction left generalizing reversed with
  | nil => exact h reversed
  | cons c left ih =>
      rw [List.mem_cons, not_or] at hunquoted
      have hquote : c ≠ '"' := fun heq => hunquoted.1 heq.symm
      rw [List.cons_append, List.cons_append, scan, scan, if_neg hquote, if_neg hquote,
        ih hunquoted.2, ih hunquoted.2]

theorem isBlank_of_isPunctuation {c : Char} (h : isPunctuation c = true) : isBlank c = false := by
  simp only [isPunctuation, Bool.or_eq_true, beq_iff_eq] at h
  rcases h with ((((rfl | rfl) | rfl) | rfl) | rfl) | rfl <;> rfl

theorem isRun_of_marks {marks : List Char} (h : ∀ c ∈ marks, isPunctuation c = true) :
    IsRun marks ∧ '"' ∉ marks := by
  refine ⟨fun c hc => isBlank_of_isPunctuation (h c hc), fun hquote => ?_⟩
  cases h _ hquote

/-- Marks behind a run with other characters in it are left out. -/
theorem scan_run_marks {run marks : List Char} (hrun : IsRun run) (hunquoted : '"' ∉ run)
    (hcontent : ∃ c ∈ run, isPunctuation c = false) (hmarks : ∀ c ∈ marks, isPunctuation c = true)
    (reversed right : List Char) :
    scan (.run reversed) (run ++ (marks ++ right)) = scan (.run reversed) (run ++ right) := by
  obtain ⟨hmarksRun, hmarksUnquoted⟩ := isRun_of_marks hmarks
  have hbare : bare (run.reverse ++ reversed) ≠ [] := by
    obtain ⟨c, hmem, hc⟩ := hcontent
    exact bare_ne_nil_iff.mpr ⟨c, List.mem_append_left _ (List.mem_reverse.mpr hmem), hc⟩
  have hsame : bare (run.reverse ++ reversed) = bare (marks.reverse ++ (run.reverse ++ reversed)) :=
    (bare_append_marks fun c hc => hmarks c (List.mem_reverse.mp hc)).symm
  rw [scan_run hrun hunquoted, scan_run hrun hunquoted, scan_run hmarksRun hmarksUnquoted,
    scan_congr_of_bare hbare hsame]

/-! ## Other ways of typing a line -/

/-- The ways in which a line can be set differently: a gap is replaced by another one, a gap is put
in front or behind, or marks are put behind a word that does not consist of marks. -/
inductive Restyled : String → String → Prop where
  | gap {left gap other right : String} (hnonempty : gap ≠ "") (hgap : IsGap gap)
      (hotherNonempty : other ≠ "") (hother : IsGap other) :
      Restyled (left ++ gap ++ right) (left ++ other ++ right)
  | ahead {gap line : String} (hgap : IsGap gap) : Restyled line (gap ++ line)
  | behind {gap line : String} (hgap : IsGap gap) : Restyled line (line ++ gap)
  | marked {left word marks right : String} (hrun : IsRun word.toList)
      (hcontent : ∃ c ∈ word.toList, isPunctuation c = false)
      (hmarks : ∀ c ∈ marks.toList, isPunctuation c = true) :
      Restyled (left ++ word ++ right) (left ++ word ++ marks ++ right)

theorem Restyled.unquoted {line other : String} (h : Restyled line other)
    (hunquoted : '"' ∉ line.toList) : '"' ∉ other.toList := by
  induction h with
  | gap hnonempty hgap hotherNonempty hother =>
      simp only [String.toList_append, List.mem_append, not_or] at hunquoted ⊢
      obtain ⟨⟨hleft, -⟩, hright⟩ := hunquoted
      exact ⟨⟨hleft, unquoted_of_isGap hother⟩, hright⟩
  | ahead hgap =>
      rw [String.toList_append, List.mem_append, not_or]
      exact ⟨unquoted_of_isGap hgap, hunquoted⟩
  | behind hgap =>
      rw [String.toList_append, List.mem_append, not_or]
      exact ⟨hunquoted, unquoted_of_isGap hgap⟩
  | marked hrun hcontent hmarks =>
      simp only [String.toList_append, List.mem_append, not_or] at hunquoted ⊢
      obtain ⟨⟨hleft, hword⟩, hright⟩ := hunquoted
      exact ⟨⟨⟨hleft, hword⟩, (isRun_of_marks hmarks).2⟩, hright⟩

theorem Restyled.ofLine_eq {line other : String} (h : Restyled line other)
    (hunquoted : '"' ∉ line.toList) : ofLine other = ofLine line := by
  induction h with
  | @gap left gap other right hnonempty hgap hotherNonempty hother =>
      simp only [String.toList_append, List.mem_append, not_or] at hunquoted
      obtain ⟨⟨hleft, -⟩, -⟩ := hunquoted
      have hgapChars : gap.toList ≠ [] := by simpa using hnonempty
      have hotherChars : other.toList ≠ [] := by simpa using hotherNonempty
      simp only [ofLine, String.toList_append]
      rw [scan_append_gap hleft hgapChars hgap, scan_append_gap hleft hotherChars hother]
  | ahead hgap => rw [ofLine, String.toList_append, scan_gap hgap, ofLine]
  | @behind gap line hgap =>
      by_cases hempty : gap.toList = []
      · rw [ofLine, String.toList_append, hempty, List.append_nil, ofLine]
      · have hsplit := scan_append_gap hunquoted hempty hgap []
        rw [List.append_nil] at hsplit
        rw [ofLine, String.toList_append, hsplit, ofLine]
        exact List.append_nil _
  | marked hrun hcontent hmarks =>
      simp only [String.toList_append, List.mem_append, not_or] at hunquoted
      obtain ⟨⟨hleft, hword⟩, -⟩ := hunquoted
      simp only [ofLine, String.toList_append, List.append_assoc]
      exact scan_append_congr hleft (scan_run_marks hrun hword hcontent hmarks · _) []

/-- However often a line without quotes is set differently, its tokens stay the same. -/
theorem ofLine_eq_of_restyled {line other : String}
    (h : Relation.ReflTransGen Restyled line other) (hunquoted : '"' ∉ line.toList) :
    '"' ∉ other.toList ∧ ofLine other = ofLine line := by
  induction h with
  | refl => exact ⟨hunquoted, rfl⟩
  | tail hearlier hstep ih =>
      obtain ⟨hbefore, hsame⟩ := ih
      exact ⟨hstep.unquoted hbefore, (hstep.ofLine_eq hbefore).trans hsame⟩

/-! ## The form of tokens -/

/-- Words that could be typed are typed by joining them with spaces. -/
theorem ofLine_unwords_of_isTypedWord {texts : List String} (h : ∀ text ∈ texts, IsTypedWord text) :
    ofLine (Text.unwords texts) = texts.map word := by
  rcases List.eq_nil_or_concat texts with rfl | ⟨earlier, last, rfl⟩
  · rfl
  · rw [List.concat_eq_append, List.forall_mem_append, List.forall_mem_singleton] at h
    obtain ⟨hearlier, hlast⟩ := h
    have hunquoted : ∀ text ∈ earlier, '"' ∉ text.toList := fun text htext =>
      (Text.isPlain_of_isTypeable (hearlier text htext).typeable).unquoted
    have hsingle : earlier.flatMap ofLine = earlier.flatMap fun text => [word text] :=
      List.flatMap_congr fun text htext => ofLine_of_isTypedWord (hearlier text htext)
    rw [List.concat_eq_append, ofLine_unwords hunquoted, hsingle, ofLine_of_isTypedWord hlast,
      List.map_append, List.map_eq_flatMap, List.map_singleton]

/-- A line without quotes has only words for its tokens. -/
theorem ofLine_eq_map_word {line : String} (h : '"' ∉ line.toList) :
    ofLine line = (texts (ofLine line)).map word := by
  rw [ofLine, scan_unquoted h, texts, List.map_map, List.map_map]
  rfl

theorem isTypedWord_of_mem_texts {line text : String} (h : '"' ∉ line.toList)
    (htext : text ∈ texts (ofLine line)) : IsTypedWord text := by
  have hword : word text ∈ ofLine line := by
    rw [ofLine_eq_map_word h]
    exact List.mem_map_of_mem htext
  exact isTypedWord_of_word_mem hword

/-- A quotation is told up to the next quote, so it has none. -/
theorem unquoted_of_quoted_mem {line content : String} (h : quoted content ∈ ofLine line) :
    '"' ∉ content.toList := by
  obtain ⟨segments, hcuts⟩ := exists_cuts line.toList
  rw [ofLine, scan_of_cuts hcuts] at h
  obtain ⟨segment, hmem, htoken⟩ := List.mem_map.mp h
  cases segment with
  | run run => cases htoken
  | quotation content =>
      rw [← quoted.inj htoken, String.toList_ofList]
      exact hcuts.unquoted_of_mem hmem

/-- What the words of a line look like, letter by letter. -/
structure IsCanonical (text : String) : Prop where
  nonempty : text ≠ ""
  unbroken : ∀ c ∈ text.toList, isBlank c = false
  unquoted : '"' ∉ text.toList
  lowered : Text.lower text = text
  uniform : (∀ c ∈ text.toList, isPunctuation c = false) ∨
    ∀ c ∈ text.toList, isPunctuation c = true

theorem isCanonical_of_isTypedWord {text : String} (h : IsTypedWord text) : IsCanonical text := by
  have hnonempty := Text.toList_ne_nil_of_isTypeable h.typeable
  have hplain := Text.isPlain_of_isTypeable h.typeable
  have hmem : text.toList ∈ Text.wordChars text.toList := by
    rw [Text.wordChars_of_isRun h.unbroken hnonempty]
    exact List.mem_singleton.mpr rfl
  have huniform := hplain.uniform text.toList hmem
  constructor
  case nonempty => exact fun hempty => hnonempty (String.toList_eq_nil_iff.mpr hempty)
  case unbroken => exact h.unbroken
  case unquoted => exact hplain.unquoted
  case lowered => exact h.lowered
  case uniform => simpa [Text.isUniform, or_comm] using huniform

/-- The tokens of a line are of one form: its words are not empty, have no blank and no quote, are
in lower case and have marks only if they have nothing else, and its quotations have no quote.  A
line without quotes has the tokens of any line that is made of them by joining them with spaces, or
made of it by setting it differently, in any number of steps. -/
theorem ofLine_canonical (line : String) :
    (∀ text, word text ∈ ofLine line → IsCanonical text) ∧
      (∀ content, quoted content ∈ ofLine line → '"' ∉ content.toList) ∧
      ('"' ∉ line.toList →
        ofLine (Text.unwords (texts (ofLine line))) = ofLine line ∧
          ∀ other, Relation.ReflTransGen Restyled line other → ofLine other = ofLine line) := by
  refine ⟨?_, ?_, fun hunquoted => ⟨?_, ?_⟩⟩
  · exact fun text hword => isCanonical_of_isTypedWord (isTypedWord_of_word_mem hword)
  · exact fun content hquoted => unquoted_of_quoted_mem hquoted
  · rw [ofLine_unwords_of_isTypedWord fun text => isTypedWord_of_mem_texts hunquoted]
    exact (ofLine_eq_map_word hunquoted).symm
  · exact fun other hrestyled => (ofLine_eq_of_restyled hrestyled hunquoted).2

/-- A final sigma does not become another one, and marks stay where there is nothing else. -/
example : texts (ofLine "Take ΟΔΟΣ,  ?!") = ["take", "οδος", "?!"] ∧
    texts (ofLine "take οδος ?!") = ["take", "οδος", "?!"] := by decide +kernel

end Token

end TextAdventure
