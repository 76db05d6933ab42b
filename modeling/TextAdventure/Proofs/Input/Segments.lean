import Mathlib.Data.List.DropRight
import TextAdventure.Proofs.Input.Typeable

/-!
# Runs and quotations

A line falls into runs, which hold no blank and no quote and cannot go on, and into quotations.
Each of them becomes one token.  A run of marks alone is kept, and any other run loses all its
marks: those at its end, and those between other characters as well.
-/

namespace TextAdventure

/-- A quantity is read off the first word, whatever follows it. -/
theorem NounPhrase.takeQuantity_ofTokens_cons (first : Token) (rest : List Token) :
    (ofTokens (first :: rest)).takeQuantity.1 = Text.readSigned? first.text := by
  rw [ofTokens, Token.texts, List.map_cons, takeQuantity]
  dsimp only
  split
  next hnumber => exact hnumber.symm
  next quantity hnumber => exact hnumber.symm

namespace Token

open Text (IsRun isBlank isPunctuation lowerChars)

/-! ## Cutting a line -/

/-- A part of a line that becomes a token. -/
inductive Segment where
  | run (cs : List Char)
  | quotation (content : List Char)
  deriving DecidableEq, Repr

namespace Segment

/-- The token of a segment: of a run that does not consist of marks, all marks are left out. -/
def token : Segment → Token
  | run cs =>
      word (String.ofList
        (lowerChars (if cs.all isPunctuation then cs else cs.filter fun c => !isPunctuation c)))
  | quotation content => quoted (String.ofList content)

end Segment

/-- Whether a run stops in front of a text: there is none, or it starts with a blank or a quote. -/
def Stops (rest : List Char) : Prop :=
  ∀ c ∈ rest.head?, isBlank c = true ∨ c = '"'

/-- How the characters of a line are cut into segments.  Only the last quotation may lack its
closing quote. -/
inductive Cuts : List Char → List Segment → Prop where
  | done : Cuts [] []
  | blank {c : Char} {rest : List Char} {segments : List Segment} (hblank : isBlank c = true)
      (later : Cuts rest segments) : Cuts (c :: rest) segments
  | run {run rest : List Char} {segments : List Segment} (hnonempty : run ≠ []) (hrun : IsRun run)
      (hunquoted : '"' ∉ run) (hstops : Stops rest) (later : Cuts rest segments) :
      Cuts (run ++ rest) (.run run :: segments)
  | closed {content rest : List Char} {segments : List Segment} (hunquoted : '"' ∉ content)
      (later : Cuts rest segments) :
      Cuts ('"' :: (content ++ '"' :: rest)) (.quotation content :: segments)
  | unclosed {content : List Char} (hunquoted : '"' ∉ content) :
      Cuts ('"' :: content) [.quotation content]

theorem stops_nil : Stops [] := nofun

theorem stops_cons {c : Char} (h : isBlank c = true ∨ c = '"') (rest : List Char) :
    Stops (c :: rest) := by
  rintro d hd
  rwa [← Option.some.inj hd]

/-- A run in front of a text is a segment of its own, unless it is empty. -/
theorem Cuts.exists_of_run {run rest : List Char} (hrun : IsRun run) (hunquoted : '"' ∉ run)
    (hstops : Stops rest) (later : ∃ segments, Cuts rest segments) :
    ∃ segments, Cuts (run ++ rest) segments := by
  obtain ⟨segments, hsegments⟩ := later
  by_cases hnonempty : run = []
  · rw [hnonempty]
    exact ⟨segments, hsegments⟩
  · exact ⟨_, .run hnonempty hrun hunquoted hstops hsegments⟩

/-- Every line can be cut, also with a run or a quotation in front of it that it goes on with. -/
theorem exists_cuts_append (cs : List Char) :
    (∀ run, IsRun run → '"' ∉ run → ∃ segments, Cuts (run ++ cs) segments) ∧
      ∀ content, '"' ∉ content → ∃ segments, Cuts ('"' :: (content ++ cs)) segments := by
  induction cs with
  | nil =>
      refine ⟨fun run hrun hunquoted => ?_, fun content hunquoted => ?_⟩
      · exact Cuts.exists_of_run hrun hunquoted stops_nil ⟨[], .done⟩
      · rw [List.append_nil]
        exact ⟨_, .unclosed hunquoted⟩
  | cons c rest ih =>
      obtain ⟨ihRun, ihQuotation⟩ := ih
      have hrest : ∃ segments, Cuts rest segments := ihRun [] Text.isRun_nil List.not_mem_nil
      refine ⟨fun run hrun hunquoted => ?_, fun content hunquoted => ?_⟩
      · by_cases hquote : c = '"'
        · refine Cuts.exists_of_run hrun hunquoted (stops_cons (Or.inr hquote) rest) ?_
          rw [hquote]
          exact ihQuotation [] List.not_mem_nil
        · by_cases hblank : isBlank c = true
          · refine Cuts.exists_of_run hrun hunquoted (stops_cons (Or.inl hblank) rest) ?_
            obtain ⟨segments, hsegments⟩ := hrest
            exact ⟨segments, .blank hblank hsegments⟩
          · have hlonger : IsRun (run ++ [c]) ∧ '"' ∉ run ++ [c] := by
              refine ⟨List.forall_mem_append.mpr ⟨hrun, ?_⟩, ?_⟩
              · exact List.forall_mem_singleton.mpr (Bool.eq_false_iff.mpr hblank)
              · rw [List.mem_append, List.mem_singleton]
                exact not_or_intro hunquoted fun heq => hquote heq.symm
            have hcut := ihRun (run ++ [c]) hlonger.1 hlonger.2
            rwa [List.append_assoc, List.singleton_append] at hcut
      · by_cases hquote : c = '"'
        · obtain ⟨segments, hsegments⟩ := hrest
          rw [hquote]
          exact ⟨_, .closed hunquoted hsegments⟩
        · have hlonger : '"' ∉ content ++ [c] := by
            rw [List.mem_append, List.mem_singleton]
            exact not_or_intro hunquoted fun heq => hquote heq.symm
          have hcut := ihQuotation (content ++ [c]) hlonger
          rwa [List.append_assoc, List.singleton_append] at hcut

theorem exists_cuts (cs : List Char) : ∃ segments, Cuts cs segments :=
  (exists_cuts_append cs).1 [] Text.isRun_nil List.not_mem_nil

/-! ## Tokens of segments -/

theorem scan_content {content : List Char} (hunquoted : '"' ∉ content)
    (reversed rest : List Char) :
    scan (.quotation reversed) (content ++ rest) =
      scan (.quotation (content.reverse ++ reversed)) rest := by
  induction content generalizing reversed with
  | nil => rfl
  | cons c content ih =>
      rw [List.mem_cons, not_or] at hunquoted
      have hquote : c ≠ '"' := fun heq => hunquoted.1 heq.symm
      rw [List.cons_append, scan, if_neg hquote, ih hunquoted.2, List.reverse_cons,
        List.append_assoc]
      rfl

/-- A run that stops is finished before anything else is read. -/
theorem scan_of_stops {rest : List Char} (h : Stops rest) (reversed : List Char) :
    scan (.run reversed) rest = finishRun reversed ++ scan (.run []) rest := by
  have hempty : finishRun [] = [] := rfl
  cases rest with
  | nil => rw [scan, scan, hempty, List.append_nil]
  | cons c rest =>
      rw [scan, scan, hempty]
      by_cases hquote : c = '"'
      · rw [if_pos hquote, if_pos hquote]
        rfl
      · have hblank := (h c rfl).resolve_right hquote
        rw [if_neg hquote, if_neg hquote, if_pos hblank, if_pos hblank]
        rfl

theorem word_wordChars (run : List Char) :
    word (String.ofList (wordChars run)) = (Segment.run run).token := by
  have hbare : (run.filter fun c => !isPunctuation c).isEmpty = run.all isPunctuation := by
    rw [Bool.eq_iff_iff, List.isEmpty_iff, List.filter_eq_nil_iff, List.all_eq_true]
    simp
  rw [wordChars, hbare, Segment.token]

theorem finishRun_reverse {run : List Char} (h : run ≠ []) :
    finishRun run.reverse = [(Segment.run run).token] := by
  have hnonempty : ¬run.reverse.isEmpty = true := by simpa using h
  rw [finishRun, if_neg hnonempty, List.reverse_reverse, word_wordChars]

theorem finishQuotation_reverse (content : List Char) :
    finishQuotation content.reverse = [(Segment.quotation content).token] := by
  rw [finishQuotation, List.reverse_reverse, Segment.token]

/-- In whatever way a line is cut, its tokens are those of the segments. -/
theorem scan_of_cuts {cs : List Char} {segments : List Segment} (h : Cuts cs segments) :
    scan (.run []) cs = segments.map Segment.token := by
  induction h with
  | done => rfl
  | @blank c rest segments hblank later ih =>
      have hquote : c ≠ '"' := by
        rintro rfl
        cases hblank
      rw [scan, if_neg hquote, if_pos hblank, ih]
      rfl
  | run hnonempty hrun hunquoted hstops later ih =>
      rw [scan_run hrun hunquoted, List.append_nil, scan_of_stops hstops,
        finishRun_reverse hnonempty, ih]
      rfl
  | closed hunquoted later ih =>
      rw [scan, if_pos rfl, scan_content hunquoted, List.append_nil, scan, if_pos rfl,
        finishQuotation_reverse, ih]
      rfl
  | @unclosed content hunquoted =>
      have hcontent := scan_content hunquoted [] []
      rw [List.append_nil, List.append_nil] at hcontent
      rw [scan, if_pos rfl, hcontent, scan, finishQuotation_reverse]
      rfl

theorem Cuts.of_mem_run {cs : List Char} {segments : List Segment} (h : Cuts cs segments)
    {run : List Char} (hmem : .run run ∈ segments) : run ≠ [] ∧ IsRun run ∧ '"' ∉ run := by
  induction h with
  | done => cases hmem
  | blank hblank later ih => exact ih hmem
  | run hnonempty hrun hunquoted hstops later ih =>
      rcases List.mem_cons.mp hmem with heq | hlater
      · rw [Segment.run.inj heq]
        exact ⟨hnonempty, hrun, hunquoted⟩
      · exact ih hlater
  | closed hunquoted later ih =>
      rcases List.mem_cons.mp hmem with heq | hlater
      · cases heq
      · exact ih hlater
  | unclosed hunquoted => cases List.mem_singleton.mp hmem

theorem Cuts.unquoted_of_mem {cs : List Char} {segments : List Segment} (h : Cuts cs segments)
    {content : List Char} (hmem : .quotation content ∈ segments) : '"' ∉ content := by
  induction h with
  | done => cases hmem
  | blank hblank later ih => exact ih hmem
  | run hnonempty hrun hunquoted hstops later ih =>
      rcases List.mem_cons.mp hmem with heq | hlater
      · cases heq
      · exact ih hlater
  | closed hunquoted later ih =>
      rcases List.mem_cons.mp hmem with heq | hlater
      · rwa [Segment.quotation.inj heq]
      · exact ih hlater
  | unclosed hunquoted => rwa [Segment.quotation.inj (List.mem_singleton.mp hmem)]

/-- Every word of a line comes from a run in it. -/
theorem exists_run_of_word_mem {line text : String} (h : word text ∈ ofLine line) :
    ∃ run, run ≠ [] ∧ IsRun run ∧ '"' ∉ run ∧ text = String.ofList (wordChars run) := by
  obtain ⟨segments, hcuts⟩ := exists_cuts line.toList
  rw [ofLine, scan_of_cuts hcuts] at h
  obtain ⟨segment, hmem, htoken⟩ := List.mem_map.mp h
  cases segment with
  | run run =>
      obtain ⟨hnonempty, hrun, hunquoted⟩ := hcuts.of_mem_run hmem
      rw [← word_wordChars] at htoken
      exact ⟨run, hnonempty, hrun, hunquoted, (word.inj htoken).symm⟩
  | quotation content => cases htoken

/-! ## Lines put together -/

theorem scan_run_blank {run : List Char} (hrun : IsRun run) (hunquoted : '"' ∉ run) {c : Char}
    (hblank : isBlank c = true) (rest : List Char) :
    scan (.run []) (run ++ c :: rest) = finishRun run.reverse ++ scan (.run []) rest := by
  have hquote : c ≠ '"' := by
    rintro rfl
    cases hblank
  rw [scan_run hrun hunquoted, List.append_nil, scan, if_neg hquote, if_pos hblank]

/-- What stands on the two sides of a blank is cut on its own, unless a quote is open there. -/
theorem scan_append_blank {left : List Char} (hunquoted : '"' ∉ left) {c : Char}
    (hblank : isBlank c = true) (right : List Char) :
    scan (.run []) (left ++ c :: right) = scan (.run []) left ++ scan (.run []) right := by
  induction left using Text.run_induction with
  | run run hrun =>
      have hwhole := scan_run hrun hunquoted [] []
      rw [List.append_nil, List.append_nil] at hwhole
      rw [scan_run_blank hrun hunquoted hblank, hwhole, scan]
  | blank run b rest hrun hb ih =>
      rw [List.mem_append, not_or, List.mem_cons, not_or] at hunquoted
      obtain ⟨hfirst, -, hrest⟩ := hunquoted
      rw [List.append_assoc, List.cons_append, scan_run_blank hrun hfirst hb, ih hrest,
        scan_run_blank hrun hfirst hb, List.append_assoc]

/-- A line that goes on after a space has the tokens of both parts. -/
theorem ofLine_append_space {left : String} (hunquoted : '"' ∉ left.toList) (right : String) :
    ofLine (left ++ " " ++ right) = ofLine left ++ ofLine right := by
  have hchars : (left ++ " " ++ right).toList = left.toList ++ ' ' :: right.toList := by simp
  rw [ofLine, hchars, scan_append_blank hunquoted (by decide)]
  rfl

/-! ## Marks in a run -/

/-- The word of a run of which only the marks at its end are left out. -/
def endTrimmed (run : List Char) : Token :=
  word (String.ofList (lowerChars (run.rdropWhile isPunctuation)))

theorem token_run {run : List Char} (h : ∃ c ∈ run, isPunctuation c = false) :
    (Segment.run run).token =
      word (String.ofList (lowerChars (run.filter fun c => !isPunctuation c))) := by
  have hall : ¬run.all isPunctuation = true := by
    obtain ⟨c, hmem, hc⟩ := h
    intro hall
    rw [List.all_eq_true.mp hall c hmem] at hc
    cases hc
  rw [Segment.token, if_neg hall]

/-- A run that ends with its marks loses no other ones. -/
theorem filter_eq_rdropWhile_iff {run : List Char} :
    (run.filter fun c => !isPunctuation c) = run.rdropWhile isPunctuation ↔
      ∀ c ∈ run.rdropWhile isPunctuation, isPunctuation c = false := by
  have hend : ((run.rtakeWhile isPunctuation).filter fun c => !isPunctuation c) = [] :=
    List.filter_eq_nil_iff.mpr fun c hc => by simp [List.mem_rtakeWhile_imp hc]
  constructor
  · intro heq c hc
    rw [← heq] at hc
    simpa using (List.mem_filter.mp hc).2
  · intro hbare
    have hstart : ((run.rdropWhile isPunctuation).filter fun c => !isPunctuation c) =
        run.rdropWhile isPunctuation :=
      List.filter_eq_self.mpr fun c hc => by simp [hbare c hc]
    conv_lhs => rw [← List.rdropWhile_append_rtakeWhile (p := isPunctuation) (l := run)]
    rw [List.filter_append, hend, hstart, List.append_nil]

/-- Lower-casing brings back no mark that has been left out. -/
theorem token_run_eq_endTrimmed_iff {run : List Char} (h : ∃ c ∈ run, isPunctuation c = false) :
    (Segment.run run).token = endTrimmed run ↔
      ∀ c ∈ run.rdropWhile isPunctuation, isPunctuation c = false := by
  rw [token_run h, endTrimmed]
  constructor
  · intro heq
    have hlower := String.ofList_injective (Token.word.inj heq)
    have hany : ∀ cs, (lowerChars cs).any isPunctuation = cs.any isPunctuation :=
      Text.any_lowerAfter (fun _ => Text.isMark_of_isPunctuation) []
    have hnone : (run.rdropWhile isPunctuation).any isPunctuation = false := by
      rw [← hany, ← hlower, hany]
      simp
    simpa using hnone
  · intro hbare
    rw [filter_eq_rdropWhile_iff.mpr hbare]

/-- Every line can be cut into maximal runs and quotations, and its tokens are those of the
segments, one by one.  A run with a character that is no mark becomes its lower case without any of
its marks, also where a quantity is read off it.  This is the word that only loses the marks at the
end exactly if no mark stands before another character. -/
theorem ofLine_segments (line : String) :
    (∃ segments, Cuts line.toList segments) ∧
      ∀ segments, Cuts line.toList segments →
        ofLine line = segments.map Segment.token ∧
          ∀ run, .run run ∈ segments → (∃ c ∈ run, isPunctuation c = false) →
            (Segment.run run).token =
                word (String.ofList (lowerChars (run.filter fun c => !isPunctuation c))) ∧
              ((Segment.run run).token = endTrimmed run ↔
                ∀ c ∈ run.rdropWhile isPunctuation, isPunctuation c = false) ∧
              ∀ later, (NounPhrase.ofTokens ((Segment.run run).token :: later)).takeQuantity.1 =
                Text.readSigned?
                  (String.ofList (lowerChars (run.filter fun c => !isPunctuation c))) := by
  refine ⟨exists_cuts line.toList, fun segments hcuts => ⟨scan_of_cuts hcuts, ?_⟩⟩
  intro run _ hrun
  refine ⟨token_run hrun, token_run_eq_endTrimmed_iff hrun, fun later => ?_⟩
  rw [NounPhrase.takeQuantity_ofTokens_cons, token_run hrun, text]

/-- A decimal point is lost as well, so that one number is read as another. -/
theorem not_endTrimmed_decimal :
    Cuts "get 3.5 figs".toList [.run "get".toList, .run "3.5".toList, .run "figs".toList] ∧
      (∃ c ∈ "3.5".toList, isPunctuation c = false) ∧
      endTrimmed "3.5".toList = word "3.5" ∧
      ofLine "get 3.5 figs" = [word "get", word "35", word "figs"] ∧
      (NounPhrase.ofTokens (ofLine "3.5 figs")).takeQuantity =
        (some 35, NounPhrase.ofTokens (ofLine "figs")) ∧
      (NounPhrase.ofTokens (ofLine "35 figs")).takeQuantity =
        (some 35, NounPhrase.ofTokens (ofLine "figs")) := by
  have hspace : isBlank ' ' = true := by decide
  have hget : IsRun "get".toList := Text.isRun_iff_any.mpr (by decide)
  have hnumber : IsRun "3.5".toList := Text.isRun_iff_any.mpr (by decide)
  have hfigs : IsRun "figs".toList := Text.isRun_iff_any.mpr (by decide)
  have hline : "get 3.5 figs".toList =
      "get".toList ++ ' ' :: ("3.5".toList ++ ' ' :: ("figs".toList ++ [])) := by decide
  refine ⟨?_, ⟨'3', by decide, by decide⟩, by decide +kernel, by decide +kernel,
    by decide +kernel, by decide +kernel⟩
  rw [hline]
  refine .run (by decide) hget (by decide) (stops_cons (Or.inl hspace) _) (.blank hspace ?_)
  refine .run (by decide) hnumber (by decide) (stops_cons (Or.inl hspace) _) (.blank hspace ?_)
  exact .run (by decide) hfigs (by decide) stops_nil .done

end Token

end TextAdventure
