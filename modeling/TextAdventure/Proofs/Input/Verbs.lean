import TextAdventure.Input.VerbTable
import TextAdventure.Proofs.Text.Phrases

/-!
# Verbs found in a line

A line without quotes whose words are plain is cut into its lower-cased words.  Of the phrases that
start a line the table finds the first one that is as long as any: an entry gives way to a longer
one only.
-/

namespace TextAdventure

/-! ## Tokens of a plain line -/

namespace Token

open Text (IsRun IsPlain isUniform consRun)

def ofRun (run : List Char) : Token :=
  word (String.ofList (wordChars run))

theorem scan_run {run : List Char} (hrun : IsRun run) (hunquoted : '"' ∉ run)
    (reversed rest : List Char) :
    scan (.run reversed) (run ++ rest) = scan (.run (run.reverse ++ reversed)) rest := by
  induction run generalizing reversed with
  | nil => rfl
  | cons c run ih =>
      obtain ⟨hc, hlater⟩ := Text.isRun_cons_iff.mp hrun
      rw [List.mem_cons, not_or] at hunquoted
      have hquote : c ≠ '"' := fun heq => hunquoted.1 heq.symm
      rw [List.cons_append, scan, if_neg hquote, if_neg (by simp [hc]),
        ih hlater hunquoted.2, List.reverse_cons, List.append_assoc]
      rfl

theorem finishRun_append (run : List Char) (words : List (List Char)) :
    finishRun run.reverse ++ words.map ofRun = (consRun run words).map ofRun := by
  cases run with
  | nil => rfl
  | cons c run =>
      have hnonempty : ¬(c :: run).reverse.isEmpty = true := by simp
      rw [finishRun, if_neg hnonempty, List.reverse_reverse, Text.consRun_cons, List.map_cons]
      rfl

theorem scan_unquoted {cs : List Char} (h : '"' ∉ cs) :
    scan (.run []) cs = (Text.wordChars cs).map ofRun := by
  induction cs using Text.run_induction with
  | run run hrun =>
      have hscan := scan_run hrun h [] []
      rw [List.append_nil, List.append_nil] at hscan
      rw [hscan, scan, Text.wordChars_run hrun, ← finishRun_append, List.map_nil, List.append_nil]
  | blank run c rest hrun hblank ih =>
      rw [List.mem_append, not_or, List.mem_cons, not_or] at h
      have hquote : c ≠ '"' := fun heq => h.2.1 heq.symm
      rw [scan_run hrun h.1, List.append_nil, scan, if_neg hquote, if_pos hblank, ih h.2.2,
        Text.wordChars_append_blank hrun hblank, finishRun_append]

theorem wordChars_of_isUniform {run : List Char} (h : isUniform run = true) :
    wordChars run = Text.lowerChars run := by
  rw [isUniform, Bool.or_eq_true, List.all_eq_true, Bool.not_eq_true', List.any_eq_false] at h
  rw [wordChars]
  rcases h with hmarks | hbare
  · have hfilter : (run.filter fun c => !Text.isPunctuation c) = [] :=
      List.filter_eq_nil_iff.mpr fun c hc => by simp [hmarks c hc]
    rw [hfilter]
    rfl
  · have hfilter : (run.filter fun c => !Text.isPunctuation c) = run :=
      List.filter_eq_self.mpr fun c hc => by simp [hbare c hc]
    rw [hfilter, ite_self]

theorem ofLine_of_isPlain {line : String} (h : IsPlain line.toList) :
    ofLine line = (Text.lowerWords line).map word := by
  rw [ofLine, scan_unquoted h.unquoted, Text.lowerWords, Text.words, List.map_map, List.map_map]
  refine List.map_congr_left fun run hrun => ?_
  rw [ofRun, wordChars_of_isUniform (h.uniform run hrun), Function.comp_apply,
    Function.comp_apply, Text.lower, String.toList_ofList]

end Token

/-! ## The longest phrase -/

theorem VerbEntry.matchesStart_iff_isPrefix {words : List String} {tokens : List Token} :
    matchesStart words tokens = true ↔ words.map Token.word <+: tokens := by
  induction words generalizing tokens with
  | nil => simp [matchesStart]
  | cons word words ih =>
      cases tokens with
      | nil => simp [matchesStart]
      | cons token tokens =>
          rw [matchesStart, Bool.and_eq_true, ih, Token.isWord, beq_iff_eq, List.map_cons,
            List.cons_prefix_cons, eq_comm]

theorem Token.map_word_prefix_iff {words texts : List String} :
    words.map word <+: texts.map word ↔ words <+: texts :=
  List.prefix_map_iff_of_injective fun _ _ => word.inj

namespace VerbTable

/-- Whether an entry is the first of the longest ones that start a line: another one that starts it
is shorter if it comes before, and not longer if it comes after. -/
inductive IsFirstLongest (tokens : List Token) (best : VerbEntry) : List VerbEntry → Prop where
  | between {earlier later : List VerbEntry} (hstarts : best.words.map Token.word <+: tokens)
      (hearlier : ∀ entry ∈ earlier, entry.words.map Token.word <+: tokens →
        entry.words.length < best.words.length)
      (hlater : ∀ entry ∈ later, entry.words.map Token.word <+: tokens →
        entry.words.length ≤ best.words.length) :
      IsFirstLongest tokens best (earlier ++ best :: later)

section

variable {tokens : List Token} {best other : VerbEntry} {entries seen : List VerbEntry}
  {found : Option VerbEntry}

theorem IsFirstLongest.mem (h : IsFirstLongest tokens best entries) : best ∈ entries := by
  obtain ⟨-, -, -⟩ := h
  exact List.mem_append_right _ (List.mem_cons_self ..)

theorem IsFirstLongest.starts (h : IsFirstLongest tokens best entries) :
    best.words.map Token.word <+: tokens := by
  obtain ⟨hstarts, -, -⟩ := h
  exact hstarts

theorem IsFirstLongest.longest (h : IsFirstLongest tokens best entries) :
    ∀ entry ∈ entries, entry.words.map Token.word <+: tokens →
      entry.words.length ≤ best.words.length := by
  obtain ⟨-, hearlier, hlater⟩ := h
  refine List.forall_mem_append.mpr ⟨fun entry hentry hentryStarts => ?_, ?_⟩
  · exact Nat.le_of_lt (hearlier entry hentry hentryStarts)
  · exact List.forall_mem_cons.mpr ⟨fun _ => Nat.le_refl _, hlater⟩

/-- Of two entries that are the first of the longest, neither stands before the other. -/
theorem IsFirstLongest.unique (h : IsFirstLongest tokens best entries)
    (hother : IsFirstLongest tokens other entries) : best = other := by
  have hle := h.longest other hother.mem hother.starts
  have hge := hother.longest best h.mem h.starts
  obtain ⟨hstarts, hearlier, -⟩ := h
  generalize hentries : _ ++ best :: _ = entries at hother
  obtain ⟨hotherStarts, hotherEarlier, -⟩ := hother
  rcases List.append_eq_append_iff.mp hentries with
    ⟨middle, hbefore, hrest⟩ | ⟨middle, hbefore, hrest⟩
  · cases middle with
    | nil => exact (List.cons.inj hrest).1
    | cons first middle =>
        obtain ⟨rfl, -⟩ := List.cons.inj hrest
        have hlt := hotherEarlier best (by simp [hbefore]) hstarts
        omega
  · cases middle with
    | nil => exact (List.cons.inj hrest).1.symm
    | cons first middle =>
        obtain ⟨rfl, -⟩ := List.cons.inj hrest
        have hlt := hearlier other (by simp [hbefore]) hotherStarts
        omega

/-- What has been found once some entries have been looked at. -/
def Finds (tokens : List Token) (seen : List VerbEntry) : Option VerbEntry → Prop
  | none => ∀ entry ∈ seen, ¬ entry.words.map Token.word <+: tokens
  | some best => IsFirstLongest tokens best seen

theorem finds_nil (tokens : List Token) : Finds tokens [] none := nofun

theorem Finds.prefer (h : Finds tokens seen found) (entry : VerbEntry) :
    Finds tokens (seen ++ [entry]) (VerbTable.prefer tokens found entry) := by
  unfold VerbTable.prefer
  split
  next hmatch =>
    have hstarts := VerbEntry.matchesStart_iff_isPrefix.mp hmatch
    cases found with
    | none =>
        refine .between hstarts (fun other hother hwords => ?_) nofun
        exact absurd hwords (h other hother)
    | some best =>
        dsimp only
        split
        next hlonger =>
          refine .between hstarts (fun other hother hwords => ?_) nofun
          exact Nat.lt_of_le_of_lt (IsFirstLongest.longest h other hother hwords) hlonger
        next hnotLonger =>
          obtain ⟨hbest, hearlier, hlater⟩ := h
          rw [List.append_assoc, List.cons_append]
          refine .between hbest hearlier (List.forall_mem_append.mpr ⟨hlater, ?_⟩)
          exact List.forall_mem_singleton.mpr fun _ => Nat.not_lt.mp hnotLonger
  next hmatch =>
    have hmissed : ¬ entry.words.map Token.word <+: tokens :=
      fun hstarts => hmatch (VerbEntry.matchesStart_iff_isPrefix.mpr hstarts)
    cases found with
    | none => exact List.forall_mem_append.mpr ⟨h, List.forall_mem_singleton.mpr hmissed⟩
    | some best =>
        obtain ⟨hbest, hearlier, hlater⟩ := h
        rw [Finds, List.append_assoc, List.cons_append]
        refine .between hbest hearlier (List.forall_mem_append.mpr ⟨hlater, ?_⟩)
        exact List.forall_mem_singleton.mpr fun hstarts => absurd hstarts hmissed

theorem Finds.foldl (h : Finds tokens seen found) (entries : List VerbEntry) :
    Finds tokens (seen ++ entries) (entries.foldl (VerbTable.prefer tokens) found) := by
  induction entries generalizing seen found with
  | nil => rwa [List.append_nil]
  | cons entry entries ih =>
      have hlater := ih (h.prefer entry)
      rwa [List.append_assoc, List.singleton_append] at hlater

theorem finds_entries (table : VerbTable) (tokens : List Token) :
    Finds tokens table.entries (table.entries.foldl (prefer tokens) none) :=
  (finds_nil tokens).foldl table.entries

/-- The best of some entries, wherever it stands among them. -/
def IsBest (tokens : List Token) (seen : List VerbEntry) : Option VerbEntry → Prop
  | none => ∀ entry ∈ seen, VerbEntry.matchesStart entry.words tokens = false
  | some best =>
      best ∈ seen ∧ VerbEntry.matchesStart best.words tokens = true ∧
        ∀ entry ∈ seen, VerbEntry.matchesStart entry.words tokens = true →
          entry.words.length ≤ best.words.length

theorem Finds.isBest (h : Finds tokens seen found) : IsBest tokens seen found := by
  cases found with
  | none =>
      intro entry hentry
      exact Bool.eq_false_iff.mpr fun hmatches =>
        h entry hentry (VerbEntry.matchesStart_iff_isPrefix.mp hmatches)
  | some best =>
      have hfirst : IsFirstLongest tokens best seen := h
      refine ⟨hfirst.mem, VerbEntry.matchesStart_iff_isPrefix.mpr hfirst.starts, ?_⟩
      intro entry hentry hmatches
      exact hfirst.longest entry hentry (VerbEntry.matchesStart_iff_isPrefix.mp hmatches)

end

/-- Whether the tokens of a line start with the words of an entry. -/
def Knows (table : VerbTable) (tokens : List Token) : Prop :=
  ∃ entry ∈ table.entries, entry.words.map Token.word <+: tokens

theorem lookup_eq_none_iff {table : VerbTable} {tokens : List Token} :
    table.lookup tokens = none ↔ ¬ table.Knows tokens := by
  have hfinds := table.finds_entries tokens
  rw [lookup, Option.map_eq_none_iff]
  revert hfinds
  cases table.entries.foldl (prefer tokens) none with
  | none =>
      intro hnone
      refine iff_of_true rfl ?_
      rintro ⟨entry, hentry, hstarts⟩
      exact hnone entry hentry hstarts
  | some best =>
      intro hfirst
      have hknown : table.Knows tokens :=
        ⟨best, IsFirstLongest.mem hfirst, IsFirstLongest.starts hfirst⟩
      exact iff_of_false nofun (not_not_intro hknown)

theorem lookup_eq_some_iff {table : VerbTable} {tokens : List Token} {verb : VerbMatch} :
    table.lookup tokens = some verb ↔
      ∃ best, IsFirstLongest tokens best table.entries ∧
        verb = ⟨best.command, best.words.length, best.form⟩ := by
  have hfinds := table.finds_entries tokens
  rw [lookup, Option.map_eq_some_iff]
  constructor
  · rintro ⟨best, hbest, rfl⟩
    rw [hbest] at hfinds
    exact ⟨best, hfinds, rfl⟩
  · rintro ⟨best, hfirst, rfl⟩
    refine ⟨best, ?_, rfl⟩
    revert hfinds
    cases table.entries.foldl (prefer tokens) none with
    | none => exact fun hnone => absurd hfirst.starts (hnone best hfirst.mem)
    | some found => exact fun hfound => congrArg some (IsFirstLongest.unique hfound hfirst)

/-- If an entry starts a line, what is found starts it as well and is as long as any. -/
theorem exists_lookup {table : VerbTable} {texts : List String} {entry : VerbEntry}
    (hentry : entry ∈ table.entries) (hstarting : entry.words <+: texts) :
    ∃ best ∈ table.entries, best.words <+: texts ∧
      (∀ other ∈ table.entries, other.words <+: texts →
        other.words.length ≤ best.words.length) ∧
      table.lookup (texts.map Token.word) =
        some ⟨best.command, best.words.length, best.form⟩ := by
  cases hlookup : table.lookup (texts.map Token.word) with
  | none =>
      have hknown : table.Knows (texts.map Token.word) :=
        ⟨entry, hentry, Token.map_word_prefix_iff.mpr hstarting⟩
      exact absurd hknown (lookup_eq_none_iff.mp hlookup)
  | some verb =>
      obtain ⟨best, hfirst, rfl⟩ := lookup_eq_some_iff.mp hlookup
      refine ⟨best, hfirst.mem, Token.map_word_prefix_iff.mp hfirst.starts, ?_, rfl⟩
      intro other hother hstarts
      exact hfirst.longest other hother (Token.map_word_prefix_iff.mpr hstarts)

/-- If an entry has all the words of a line, what is found is an entry with all of them. -/
theorem lookup_whole {table : VerbTable} {texts : List String} {entry : VerbEntry}
    (hentry : entry ∈ table.entries) (hwords : entry.words = texts) :
    ∃ best ∈ table.entries, best.words = texts ∧
      table.lookup (texts.map Token.word) = some ⟨best.command, texts.length, best.form⟩ := by
  have hstarts : entry.words <+: texts := hwords ▸ List.prefix_refl entry.words
  obtain ⟨best, hbest, hstarting, hlongest, hlookup⟩ := exists_lookup hentry hstarts
  have hlonger := hlongest entry hentry hstarts
  rw [hwords] at hlonger
  have hsame := hstarting.eq_of_length_le hlonger
  rw [hsame] at hlookup
  exact ⟨best, hbest, hsame, hlookup⟩

/-- Nothing is found exactly if no entry has the unquoted words that start the line.  Otherwise the
first of the longest entries that start it is found, and it takes up no more tokens than there
are. -/
theorem lookup_first_longest (table : VerbTable) (tokens : List Token) :
    (table.lookup tokens = none ↔
        ∀ entry ∈ table.entries, ¬ entry.words.map Token.word <+: tokens) ∧
      (∀ verb, table.lookup tokens = some verb ↔
        ∃ best, IsFirstLongest tokens best table.entries ∧
          verb = ⟨best.command, best.words.length, best.form⟩) ∧
      ∀ verb, table.lookup tokens = some verb → verb.consumed ≤ tokens.length := by
  refine ⟨?_, fun verb => lookup_eq_some_iff, fun verb hverb => ?_⟩
  · rw [lookup_eq_none_iff, Knows]
    exact ⟨fun hunknown entry hentry hstarts => hunknown ⟨entry, hentry, hstarts⟩,
      fun hnone ⟨entry, hentry, hstarts⟩ => hnone entry hentry hstarts⟩
  · obtain ⟨best, hfirst, rfl⟩ := lookup_eq_some_iff.mp hverb
    have hlength := hfirst.starts.length_le
    rwa [List.length_map] at hlength

/-- Of two entries with the same words the first one is found, unless a longer one starts the line,
and a quotation is no word of any. -/
example :
    let table : VerbTable :=
      ⟨[⟨⟨"grab"⟩, ["pick"], .name⟩, ⟨⟨"steal"⟩, ["pick"], .hotkey⟩,
        ⟨⟨"get"⟩, ["pick", "up"], .alternative⟩]⟩
    table.lookup [.word "pick", .quoted "up"] = some ⟨⟨"grab"⟩, 1, .name⟩ ∧
      table.lookup [.word "pick", .word "up"] = some ⟨⟨"get"⟩, 2, .alternative⟩ ∧
      table.lookup [.quoted "pick", .word "up"] = none := by decide +kernel

end VerbTable

end TextAdventure
