import TextAdventure.Proofs.Input.Segments
import TextAdventure.Proofs.Input.Spellings

/-!
# Hotkeys and prepositions read back

Names and aliases are screened for what a player can type, hotkeys and prepositions are not.  A
hotkey is read back as itself exactly if it can be typed.  A preposition divides a line exactly if
it is one word that can be typed, in lower case: no other text is ever the word of a token.
-/

namespace TextAdventure

namespace Text

/-- What a word looks like that has been typed: nothing in it is lost or changed by typing it, and
it is a single word. -/
structure IsTypedWord (text : String) : Prop where
  typeable : isTypeable text = true
  unbroken : IsRun text.toList
  lowered : lower text = text

theorem IsTypedWord.lowerWords_eq {text : String} (h : IsTypedWord text) :
    lowerWords text = [text] := by
  rw [lowerWords_of_isRun h.unbroken (toList_ne_nil_of_isTypeable h.typeable), h.lowered]

end Text

namespace Token

open Text (IsPlain IsRun IsTypedWord isPunctuation isUniform)

/-! ## Typed words -/

theorem isTypeable_of_isRun {text : String} (hrun : IsRun text.toList)
    (hnonempty : text.toList ≠ []) (hplain : IsPlain text.toList) :
    Text.isTypeable text = true := by
  refine isTypeable_of_isPlain hplain (Text.isSpaced_of_isRun hrun) ?_
  rw [Text.wordChars_of_isRun hrun hnonempty]
  exact List.cons_ne_nil _ _

theorem ofLine_of_isTypedWord {text : String} (h : IsTypedWord text) :
    ofLine text = [word text] := by
  rw [ofLine_of_isPlain (Text.isPlain_of_isTypeable h.typeable), h.lowerWords_eq,
    List.map_singleton]

/-- The word of a run is the lower case of characters that could be typed on their own. -/
theorem exists_isPlain_of_run {run : List Char} (h : run ≠ [] ∧ IsRun run) (hunquoted : '"' ∉ run) :
    ∃ kept, wordChars run = Text.lowerChars kept ∧ IsPlain kept := by
  have hsingle : ∀ kept : List Char, kept ≠ [] → kept ⊆ run → isUniform kept = true →
      IsPlain kept := by
    intro kept hnonempty hsubset huniform
    have hkept : IsRun kept := fun c hc => h.2 c (hsubset hc)
    refine ⟨fun hmem => hunquoted (hsubset hmem), ?_⟩
    rw [Text.wordChars_of_isRun hkept hnonempty]
    exact List.forall_mem_singleton.mpr huniform
  rw [wordChars]
  split
  next hbare =>
    refine ⟨run, rfl, hsingle run h.1 (List.Subset.refl run) ?_⟩
    have hnone := List.filter_eq_nil_iff.mp (List.isEmpty_iff.mp hbare)
    rw [isUniform, Bool.or_eq_true, List.all_eq_true]
    exact Or.inl fun c hc => by simpa using hnone c hc
  next hbare =>
    refine ⟨_, rfl, hsingle _ (fun hnil => hbare (List.isEmpty_iff.mpr hnil))
      (List.filter_subset_self run) ?_⟩
    simp [isUniform]

/-- Whatever line it is typed in, the word of a token could be typed again. -/
theorem isTypedWord_of_word_mem {line text : String} (h : word text ∈ ofLine line) :
    IsTypedWord text := by
  obtain ⟨run, hnonempty, hrun, hunquoted, rfl⟩ := exists_run_of_word_mem h
  obtain ⟨hwordNonempty, hwordRun⟩ := isRun_wordChars ⟨hnonempty, hrun⟩
  obtain ⟨kept, hkept, hplain⟩ := exists_isPlain_of_run ⟨hnonempty, hrun⟩ hunquoted
  have hlower : String.ofList (wordChars run) = Text.lower (String.ofList kept) := by
    rw [hkept, Text.lower, String.toList_ofList]
  have htyped : IsPlain (String.ofList (wordChars run)).toList := by
    rw [String.toList_ofList, hkept, Text.isPlain_lowerChars_iff]
    exact hplain
  constructor
  · exact isTypeable_of_isRun (by rwa [String.toList_ofList]) (by rwa [String.toList_ofList]) htyped
  · rwa [String.toList_ofList]
  · rw [hlower, Text.lower_lower]

/-- The tokens of texts that are joined by single spaces are theirs, one after another.  Only in
the last of them may a quotation stay open. -/
theorem ofLine_unwords {texts : List String} (hunquoted : ∀ text ∈ texts, '"' ∉ text.toList)
    (last : String) :
    ofLine (Text.unwords (texts ++ [last])) = texts.flatMap ofLine ++ ofLine last := by
  induction texts with
  | nil =>
      rw [List.nil_append, Text.unwords_singleton]
      rfl
  | cons text texts ih =>
      obtain ⟨htext, htexts⟩ := List.forall_mem_cons.mp hunquoted
      have hcons : Text.unwords (text :: (texts ++ [last])) =
          text ++ " " ++ Text.unwords (texts ++ [last]) := by
        obtain ⟨first, rest, hrest⟩ :=
          List.exists_cons_of_ne_nil (List.append_ne_nil_of_right_ne_nil texts
            (List.cons_ne_nil last []))
        rw [hrest]
        simp [Text.unwords]
      rw [List.cons_append, hcons, ofLine_append_space htext, ih htexts, List.flatMap_cons,
        List.append_assoc]

end Token

/-! ## Prepositions that divide -/

namespace Division

variable {prepositions : List String} {tokens : List Token}

theorem ofTokens_whole (h : ∀ token ∈ tokens, ∀ word ∈ prepositions, token ≠ .word word) :
    ofTokens prepositions tokens = ⟨tokens, none, []⟩ := by
  induction tokens with
  | nil => rfl
  | cons token rest ih =>
      obtain ⟨htoken, hrest⟩ := List.forall_mem_cons.mp h
      have hpassed : ¬prepositions.any token.isWord = true := by
        rw [any_isWord_iff]
        rintro ⟨word, hword, heq⟩
        exact htoken word hword heq
      rw [ofTokens, if_neg hpassed, ih hrest]

theorem ofTokens_apart (h : ∀ token ∈ tokens, ∀ word ∈ prepositions, token ≠ .word word)
    {word : String} (hword : word ∈ prepositions) (indirect : List Token) :
    ofTokens prepositions (tokens ++ .word word :: indirect) = ⟨tokens, some word, indirect⟩ := by
  induction tokens with
  | nil =>
      have hdivides : prepositions.any (Token.word word).isWord = true :=
        any_isWord_iff.mpr ⟨word, hword, rfl⟩
      rw [List.nil_append, ofTokens, if_pos hdivides, Token.text]
  | cons token rest ih =>
      obtain ⟨htoken, hrest⟩ := List.forall_mem_cons.mp h
      have hpassed : ¬prepositions.any token.isWord = true := by
        rw [any_isWord_iff]
        rintro ⟨other, hother, heq⟩
        exact htoken other hother heq
      rw [List.cons_append, ofTokens, if_neg hpassed, ih hrest]

end Division

/-! ## Verbs that start a line -/

/-- Whether no verb that starts a line of tokens has more words than a phrase. -/
def Registry.StartsNoLonger (registry : Registry) (active : List Key) (phrase : String)
    (tokens : List Token) : Prop :=
  ∀ command words, registry.IsVerb active command words → words.map Token.word <+: tokens →
    words.length ≤ (Text.lowerWords phrase).length

theorem Registry.startsNoLonger_of_entries {registry : Registry} {active : List Key}
    {phrase : String} {tokens : List Token}
    (h : ∀ entry ∈ (VerbTable.ofActive registry active).entries,
      entry.words.map Token.word <+: tokens →
        entry.words.length ≤ (Text.lowerWords phrase).length) :
    registry.StartsNoLonger active phrase tokens := by
  intro command words hverb hstarts
  obtain ⟨entry, hentry, rfl⟩ := VerbTable.exists_mem_ofActive_of_isVerb hverb
  exact h entry hentry hstarts

/-- A line that starts with a phrase of an active command is read with this command, and the verb
is this phrase, unless a longer one starts the line as well. -/
theorem Registry.IsScreened.exists_lookup {registry : Registry} (h : registry.IsScreened)
    {entity : Entity} {command : Command} (hentity : entity ∈ registry.entities)
    (hkind : entity.kind = .command command) {active : List Key} (hactive : entity.key ∈ active)
    {phrase : String} (hphrase : phrase ∈ entity.verbPhrases command)
    (hwords : Text.lowerWords phrase ≠ []) {rest : List Token}
    (hlongest : registry.StartsNoLonger active phrase
      ((Text.lowerWords phrase).map Token.word ++ rest)) :
    ∃ form, (VerbTable.ofActive registry active).lookup
        ((Text.lowerWords phrase).map Token.word ++ rest) =
      some ⟨entity.key, (Text.lowerWords phrase).length, form⟩ := by
  obtain ⟨entry, hentry, hentryWords⟩ :=
    VerbTable.exists_mem_ofActive hentity hkind hactive hphrase hwords
  have hstarts : entry.words.map Token.word <+: (Text.lowerWords phrase).map Token.word ++ rest :=
    hentryWords ▸ List.prefix_append _ _
  have hmatches := VerbEntry.matchesStart_iff_isPrefix.mpr hstarts
  obtain ⟨found, hbest, hlookup⟩ := (VerbTable.ofActive registry active).exists_isBest
    ((Text.lowerWords phrase).map Token.word ++ rest)
  cases found with
  | none =>
      rw [hbest entry hentry] at hmatches
      cases hmatches
  | some best =>
      obtain ⟨hmem, hbestStarts, hbestLongest⟩ := hbest
      have hprefix := VerbEntry.matchesStart_iff_isPrefix.mp hbestStarts
      have hlength : best.words.length = (Text.lowerWords phrase).length := by
        refine Nat.le_antisymm ?_ ?_
        · exact hlongest _ _ (VerbTable.isVerb_of_mem_ofActive hmem) hprefix
        · rw [← hentryWords]
          exact hbestLongest entry hentry hmatches
      have hsame : best.words.map Token.word = (Text.lowerWords phrase).map Token.word := by
        refine (List.prefix_of_prefix_length_le hprefix (List.prefix_append _ rest) ?_).eq_of_length
          ?_
        · simp [hlength]
        · simp [hlength]
      have hbestWords := (List.map_inj_right fun _ _ => Token.word.inj).mp hsame
      refine ⟨best.form, ?_⟩
      rw [hlookup, Option.map_some, hlength,
        h.command_of_words hentity hkind hphrase hmem hbestWords]

namespace Reading

variable {registry : Registry} {active : List Key} {actor : Key}

theorem exists_lookup_of_parsed {line : String} {operation : Operation}
    (h : ofLine registry active actor line = .parsed operation) :
    ∃ verb, (VerbTable.ofActive registry active).lookup (Token.ofLine line) = some verb ∧
      operation = operationOf registry actor line (Token.ofLine line) verb := by
  cases hverb : (VerbTable.ofActive registry active).lookup (Token.ofLine line) with
  | some verb =>
      rw [ofLine_of_lookup hverb] at h
      exact ⟨verb, rfl, (parsed.inj h).symm⟩
  | none =>
      rw [ofLine, withVerbs] at h
      split at h
      · cases h
      next first rest htokens =>
        rw [← htokens, hverb] at h
        cases h

/-- The words of a verb and a preposition have been typed. -/
theorem areTyped_of_parsed {line : String} {operation : Operation}
    (h : ofLine registry active actor line = .parsed operation) :
    (∃ words, words ≠ [] ∧ operation.verb = Text.unwords words ∧
        ∀ text ∈ words, Text.IsTypedWord text) ∧
      ∀ text ∈ operation.preposition, Text.IsTypedWord text := by
  obtain ⟨verb, hverb, rfl⟩ := exists_lookup_of_parsed h
  obtain ⟨spelling, htokens, hspelled⟩ := exists_isSpelled hverb actor line
  have htyped : ∀ text, .word text ∈ spelling.tokens → Text.IsTypedWord text := by
    intro text hmem
    rw [← htokens] at hmem
    exact Token.isTypedWord_of_word_mem hmem
  refine ⟨⟨spelling.verb, hspelled.isVerb.2.1, hspelled.verb, fun text htext => ?_⟩,
    fun text htext => ?_⟩
  · exact htyped text (List.mem_append_left _ (List.mem_map_of_mem htext))
  · rw [hspelled.preposition] at htext
    refine htyped text (List.mem_append_right _ (List.mem_append_left _
      (List.mem_append_right _ (List.mem_map_of_mem ?_))))
    exact Option.mem_toList.mpr htext

end Reading

/-! ## Hotkeys and prepositions -/

/-- Whether an operation of a command is divided at a preposition between two words. -/
structure Operation.DividedAt (operation : Operation) (command : Key)
    (direct preposition indirect : String) : Prop where
  command : operation.command = command
  preposition : operation.preposition = some preposition
  directPhrase : operation.directPhrase = ⟨[direct]⟩
  indirectPhrase : operation.indirectPhrase = ⟨[indirect]⟩

namespace Registry.IsScreened

variable {registry : Registry} {entity : Entity} {command : Command} {active : List Key}

theorem isRun_hotkey (h : registry.IsScreened) (hentity : entity ∈ registry.entities)
    (hkind : entity.kind = .command command) : Text.IsRun command.hotkey.toList :=
  Text.isRun_iff_any.mpr (h.unbroken entity hentity command (by rw [hkind]; rfl))

theorem exists_invoked_by_hotkey (h : registry.IsScreened) (hentity : entity ∈ registry.entities)
    (hkind : entity.kind = .command command) (hactive : entity.key ∈ active)
    (htypeable : Text.isTypeable command.hotkey = true) (actor : Key) :
    ∃ operation, Reading.ofLine registry active actor command.hotkey = .parsed operation ∧
      operation.NamesOnly entity.key ∧ operation.verb = Text.lower command.hotkey := by
  have hwords : Text.lowerWords command.hotkey = [Text.lower command.hotkey] :=
    Text.lowerWords_of_isRun (h.isRun_hotkey hentity hkind)
      (Text.toList_ne_nil_of_isTypeable htypeable)
  have htokens : Token.ofLine command.hotkey =
      (Text.lowerWords command.hotkey).map Token.word ++ [] := by
    rw [Token.ofLine_of_isPlain (Text.isPlain_of_isTypeable htypeable), List.append_nil]
  have hlongest : registry.StartsNoLonger active command.hotkey
      ((Text.lowerWords command.hotkey).map Token.word ++ []) := by
    intro other words _ hstarts
    simpa using hstarts.length_le
  have hphrase : command.hotkey ∈ entity.verbPhrases command :=
    List.mem_cons_of_mem _ (List.mem_cons_self ..)
  obtain ⟨form, hlookup⟩ := h.exists_lookup hentity hkind hactive hphrase
    (Text.lowerWords_ne_nil htypeable) hlongest
  rw [← htokens] at hlookup
  refine ⟨_, Reading.ofLine_of_lookup hlookup actor, ?_, ?_⟩
  · rw [htokens, hwords]
    constructor <;> rfl
  · rw [htokens, hwords]
    simp [Reading.operationOf, Reading.joined, Token.texts, Token.text, Text.unwords]

/-- A verb that is the hotkey is one word, and this word has been typed. -/
theorem typeable_of_verb_eq_hotkey (h : registry.IsScreened) (hentity : entity ∈ registry.entities)
    (hkind : entity.kind = .command command) {actor : Key} {line : String} {operation : Operation}
    (hparsed : Reading.ofLine registry active actor line = .parsed operation)
    (hverb : operation.verb = Text.lower command.hotkey) :
    Text.isTypeable command.hotkey = true := by
  have hrun := h.isRun_hotkey hentity hkind
  obtain ⟨⟨words, hnonempty, hunwords, htyped⟩, -⟩ := Reading.areTyped_of_parsed hparsed
  have hwords : Text.AreWords words := fun text htext =>
    ⟨Text.toList_ne_nil_of_isTypeable (htyped text htext).typeable, (htyped text htext).unbroken⟩
  have hlower : Text.lowerWords command.hotkey = words := by
    rw [← Text.words_lower, ← hverb, hunwords, hwords.words_unwords]
  have hchars : command.hotkey.toList ≠ [] := by
    intro hnil
    rw [Text.lowerWords, Text.words, hnil] at hlower
    exact hnonempty hlower.symm
  have hsingle := Text.lowerWords_of_isRun hrun hchars
  rw [hlower] at hsingle
  have htypedHotkey := htyped (Text.lower command.hotkey) (hsingle ▸ List.mem_singleton.mpr rfl)
  have hplain := Text.isPlain_of_isTypeable htypedHotkey.typeable
  rw [Text.lower, String.toList_ofList, Text.isPlain_lowerChars_iff] at hplain
  exact Token.isTypeable_of_isRun hrun hchars hplain

theorem exists_dividedAt (h : registry.IsScreened) (hentity : entity ∈ registry.entities)
    (hkind : entity.kind = .command command) (hactive : entity.key ∈ active) {actor : Key}
    {preposition direct indirect first second : String}
    (hpreposition : preposition ∈ command.prepositions) (htyped : Text.IsTypedWord preposition)
    (hdirect : Token.ofLine direct = [.word first])
    (hindirect : Token.ofLine indirect = [.word second])
    (hnumber : Text.readSigned? first = none) (hfirst : first ∉ command.prepositions)
    (hlongest : registry.StartsNoLonger active entity.name
      (Token.ofLine (Text.unwords [entity.name, direct, preposition, indirect]))) :
    ∃ operation, Reading.ofLine registry active actor
        (Text.unwords [entity.name, direct, preposition, indirect]) = .parsed operation ∧
      operation.DividedAt entity.key first preposition second := by
  have hname : Text.isTypeable entity.name = true :=
    h.typeable_of_command hentity hkind _ (List.mem_cons_self ..)
  have hplain := Text.isPlain_of_isTypeable hname
  have htokens : Token.ofLine (Text.unwords [entity.name, direct, preposition, indirect]) =
      (Text.lowerWords entity.name).map Token.word ++
        [.word first, .word preposition, .word second] := by
    have hunquoted : ∀ text ∈ [entity.name, direct, preposition], '"' ∉ text.toList := by
      refine List.forall_mem_cons.mpr ⟨hplain.unquoted, List.forall_mem_cons.mpr ⟨?_,
        List.forall_mem_singleton.mpr (Text.isPlain_of_isTypeable htyped.typeable).unquoted⟩⟩
      refine Token.unquoted_of_words fun token htoken => ?_
      rw [hdirect, List.mem_singleton] at htoken
      exact ⟨first, htoken⟩
    have hjoined := Token.ofLine_unwords hunquoted indirect
    rw [List.flatMap_cons, List.flatMap_cons, List.flatMap_singleton, hdirect, hindirect,
      Token.ofLine_of_isPlain hplain, Token.ofLine_of_isTypedWord htyped] at hjoined
    rw [List.append_assoc] at hjoined
    exact hjoined
  rw [htokens] at hlongest
  obtain ⟨form, hlookup⟩ := h.exists_lookup hentity hkind hactive (List.mem_cons_self ..)
    (Text.lowerWords_ne_nil hname) hlongest
  rw [← htokens] at hlookup
  have hrest : ((Text.lowerWords entity.name).map Token.word ++
      [Token.word first, .word preposition, .word second]).drop
        (Text.lowerWords entity.name).length =
      [Token.word first] ++ .word preposition :: [.word second] :=
    List.drop_left' (List.length_map ..)
  have hpassed : ∀ token ∈ [Token.word first], ∀ word ∈ command.prepositions,
      token ≠ .word word := by
    refine List.forall_mem_singleton.mpr fun word hword heq => hfirst ?_
    rwa [Token.word.inj heq]
  refine ⟨_, Reading.ofLine_of_lookup hlookup actor, ?_⟩
  have hdivision := Division.ofTokens_apart hpassed hpreposition [.word second]
  rw [htokens]
  constructor
  case command => rfl
  case preposition =>
    simp only [Reading.operationOf, hrest, Reading.prepositionsOf_of_mem hentity hkind, hdivision]
  case directPhrase =>
    simp only [Reading.operationOf, hrest, Reading.prepositionsOf_of_mem hentity hkind, hdivision]
    exact NounPhrase.takeQuantity_of_uncounted (fun word hword => Option.some.inj hword ▸ hnumber)
  case indirectPhrase =>
    simp only [Reading.operationOf, hrest, Reading.prepositionsOf_of_mem hentity hkind, hdivision]
    rfl

end Registry.IsScreened

namespace Reading

open Registry (Request)

/-- Whatever was created and whatever else is active: an active command is invoked by its hotkey
exactly if the hotkey can be typed.  And if its name is followed by a word that is no number and no
preposition of the command, a preposition of the command and another word, the line is divided at
this preposition exactly if the preposition is one word that can be typed, in lower case. -/
theorem ofLine_hotkey_and_prepositions (requests : List Request) {entity : Entity}
    {command : Command} (hentity : entity ∈ (Request.run requests).entities)
    (hkind : entity.kind = .command command) {active : List Key} (hactive : entity.key ∈ active)
    (actor : Key) :
    ((∃ operation, ofLine (Request.run requests) active actor command.hotkey =
          .parsed operation ∧
        operation.NamesOnly entity.key ∧ operation.verb = Text.lower command.hotkey) ↔
      Text.isTypeable command.hotkey = true) ∧
    ∀ preposition ∈ command.prepositions, ∀ direct indirect first second,
      Token.ofLine direct = [.word first] → Token.ofLine indirect = [.word second] →
      Text.readSigned? first = none → first ∉ command.prepositions →
      (Request.run requests).StartsNoLonger active entity.name
        (Token.ofLine (Text.unwords [entity.name, direct, preposition, indirect])) →
      ((∃ operation, ofLine (Request.run requests) active actor
            (Text.unwords [entity.name, direct, preposition, indirect]) = .parsed operation ∧
          operation.DividedAt entity.key first preposition second) ↔
        Text.IsTypedWord preposition) := by
  have hscreened := Registry.isScreened_run requests
  refine ⟨⟨?_, fun htypeable => ?_⟩, ?_⟩
  · rintro ⟨operation, hparsed, -, hverb⟩
    exact hscreened.typeable_of_verb_eq_hotkey hentity hkind hparsed hverb
  · exact hscreened.exists_invoked_by_hotkey hentity hkind hactive htypeable actor
  · intro preposition hpreposition direct indirect first second hdirect hindirect hnumber hfirst
      hlongest
    constructor
    · rintro ⟨operation, hparsed, hdivided⟩
      exact (areTyped_of_parsed hparsed).2 preposition hdivided.preposition
    · intro htyped
      exact hscreened.exists_dividedAt hentity hkind hactive hpreposition htyped hdirect hindirect
        hnumber hfirst hlongest

/-- Of two hotkeys and two prepositions that are accepted, one each can be typed. -/
def shelfRequests : List Request :=
  [ .create (Entity.command "Wave" "w!" .wait) rfl,
    .create (((Entity.action "Put" "p" .put).withPreposition "In").withPreposition "next to") rfl ]

def shelfActive : List Key := [⟨"wave"⟩, ⟨"put"⟩]

theorem ofLine_hotkey_and_prepositions_put :
    ((Entity.action "Put" "p" .put).withPreposition "In").withPreposition "next to" ∈
        (Request.run shelfRequests).entities ∧
      (∃ operation, ofLine (Request.run shelfRequests) shelfActive ⟨"player"⟩ "p" =
          .parsed operation ∧
        operation.NamesOnly ⟨"put"⟩ ∧ operation.verb = "p") ∧
      ∃ operation, ofLine (Request.run shelfRequests) shelfActive ⟨"player"⟩
          "Put LAMP in Box." = .parsed operation ∧
        operation.DividedAt ⟨"put"⟩ "lamp" "in" "box" := by
  have hput : ((Entity.action "Put" "p" .put).withPreposition "In").withPreposition "next to" ∈
      (Request.run shelfRequests).entities := by decide +kernel
  have hactive : (⟨"put"⟩ : Key) ∈ shelfActive := by decide
  obtain ⟨hhotkey, hprepositions⟩ :=
    ofLine_hotkey_and_prepositions shelfRequests hput rfl hactive ⟨"player"⟩
  have hlongest : (Request.run shelfRequests).StartsNoLonger shelfActive "Put"
      (Token.ofLine "Put LAMP in Box.") :=
    Registry.startsNoLonger_of_entries (by decide +kernel)
  refine ⟨hput, hhotkey.mpr (by decide +kernel), ?_⟩
  refine (hprepositions "in" (by decide +kernel) "LAMP" "Box." "lamp" "box" (by decide +kernel)
    (by decide +kernel) (by decide +kernel) (by decide +kernel) hlongest).mpr ⟨?_, ?_, ?_⟩
  · decide +kernel
  · exact Text.isRun_iff_any.mpr (by decide)
  · decide +kernel

/-- A hotkey with a mark among its letters is accepted, and so is a preposition of two words, but
neither can be typed. -/
theorem ofLine_hotkey_and_prepositions_untypeable :
    Entity.command "Wave" "w!" .wait ∈ (Request.run shelfRequests).entities ∧
      ofLine (Request.run shelfRequests) shelfActive ⟨"player"⟩ "w!" = .unrecognized "w" ∧
      ((Entity.action "Put" "p" .put).withPreposition "In").withPreposition "next to" ∈
        (Request.run shelfRequests).entities ∧
      (ofLine (Request.run shelfRequests) shelfActive ⟨"player"⟩
          "put lamp next to box").operation?.map
        (fun operation => (operation.preposition, operation.directPhrase)) =
        some (none, ⟨["lamp", "next", "to", "box"]⟩) := by
  decide +kernel

end Reading

end TextAdventure
