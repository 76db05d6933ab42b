import Mathlib.Data.List.TakeWhile
import TextAdventure.Proofs.Input.CommandWords
import TextAdventure.Proofs.Text.Lowered

/-!
# Names typed after a verb

What a phrase denotes has the words of the phrase for its name, an article aside, so a name that
has lost a word on the way denotes something else.  A word is lost to a longer verb, to a
quantity or to a preposition; a name that comes through whole is resolved to the first thing in
reach that bears it.
-/

namespace TextAdventure

/-! ## What a phrase denotes -/

namespace NounPhrase

theorem exists_bare (phrase : NounPhrase) :
    ∃ words, words <:+ phrase.words ∧ phrase.bare = Text.unwords words := by
  obtain ⟨words⟩ := phrase
  unfold bare
  split
  next first second rest hwords =>
    split
    · exact ⟨second :: rest, hwords ▸ List.suffix_cons _ _, rfl⟩
    · exact ⟨words, List.suffix_refl _, rfl⟩
  next => exact ⟨words, List.suffix_refl _, rfl⟩

theorem names_iff {phrase : NounPhrase} {key : Key} :
    phrase.names key = true ↔
      phrase.words ≠ [] ∧ (key = Key.ofName phrase.text ∨ key = Key.ofName phrase.bare) := by
  simp only [names, isEmpty, Bool.and_eq_true, Bool.or_eq_true, Bool.not_eq_true',
    Key.matchesName_iff, ne_eq, ← List.isEmpty_iff, Bool.not_eq_true]

theorem names_ofText_iff {name : String} (h : Text.isTypeable name = true) {key : Key} :
    (ofText name).names key = true ↔
      key = Key.ofName name ∨ key = Key.ofName (ofText name).bare := by
  have htext : Key.ofName (ofText name).text = Key.ofName name :=
    Text.ofName_unwords_lowerWords (Text.isSpaced_of_isTypeable h)
  rw [names_iff, htext]
  exact and_iff_right (Text.lowerWords_ne_nil h)

/-- What a phrase names has no more words than the phrase. -/
theorem length_le_of_names {phrase : NounPhrase} (h : Text.AreWords phrase.words) {name : String}
    (hnames : phrase.names (Key.ofName name) = true) :
    (Text.lowerWords name).length ≤ phrase.words.length := by
  obtain ⟨words, hsuffix, hbare⟩ := phrase.exists_bare
  rcases (names_iff.mp hnames).2 with htext | hwithout
  · rw [Text.lowerWords_eq_of_ofName htext]
    exact Nat.le_of_eq h.length_lowerWords_unwords
  · rw [hbare] at hwithout
    rw [Text.lowerWords_eq_of_ofName hwithout,
      (h.of_subset hsuffix.subset).length_lowerWords_unwords]
    exact hsuffix.length_le

theorem takeQuantity_suffix (phrase : NounPhrase) :
    phrase.takeQuantity.2.words <:+ phrase.words := by
  obtain ⟨words⟩ := phrase
  cases words with
  | nil => exact List.suffix_refl _
  | cons first rest =>
      rw [takeQuantity]
      dsimp only
      split
      · exact List.suffix_refl _
      · exact List.suffix_cons first rest

theorem takeQuantity_of_uncounted {phrase : NounPhrase}
    (h : ∀ first ∈ phrase.words.head?, Text.readSigned? first = none) :
    phrase.takeQuantity.2 = phrase := by
  obtain ⟨words⟩ := phrase
  cases words with
  | nil => rfl
  | cons first rest => simp only [takeQuantity, h first rfl]

/-- A number written first is lost to the phrase. -/
theorem uncounted_of_length {phrase : NounPhrase}
    (h : phrase.words.length ≤ phrase.takeQuantity.2.words.length) :
    ∀ first ∈ phrase.words.head?, Text.readSigned? first = none := by
  obtain ⟨words⟩ := phrase
  cases words with
  | nil => exact nofun
  | cons first rest =>
      intro word hword
      obtain rfl := Option.some.inj hword
      cases hquantity : Text.readSigned? first with
      | none => rfl
      | some quantity =>
          simp only [takeQuantity, hquantity, List.length_cons] at h
          exact absurd h (Nat.not_succ_le_self _)

/-- Whether a phrase is left as it is when a quantity and a preposition are looked for in it. -/
structure StaysWhole (phrase : NounPhrase) (prepositions : List String) : Prop where
  uncounted : ∀ first ∈ phrase.words.head?, Text.readSigned? first = none
  undivided : ∀ word ∈ phrase.words, word ∉ prepositions

end NounPhrase

/-! ## What is in reach -/

namespace Scope

/-- What is carried and then what is visible around, nearest first. -/
def reach (scope : Scope) : List Key :=
  scope.inventory ++ scope.location

theorem mem_reach_iff {scope : Scope} {key : Key} :
    key ∈ scope.reach ↔ scope.contains key = true := by
  simp [reach, contains]

theorem names_of_resolve {scope : Scope} {registry : Registry} {phrase : NounPhrase} {key : Key}
    (h : (scope.resolve registry phrase).map Prod.fst = some key) : phrase.names key = true := by
  have hkey : ∀ {name : String} {entity : Entity}, registry.named? name = some entity →
      entity.key = Key.ofName name := Registry.key_of_get?
  unfold resolve at h
  split at h
  next => cases h
  next hempty =>
    split at h
    next found hfound =>
      obtain rfl := Option.some.inj h
      exact List.find?_some hfound
    next =>
      split at h
      next found hfound =>
        obtain rfl := Option.some.inj h
        exact List.find?_some hfound
      next =>
        refine NounPhrase.names_iff.mpr ⟨fun hnil => hempty (List.isEmpty_iff.mpr hnil), ?_⟩
        unfold resolveAnywhere at h
        split at h
        next entity hnamed =>
          obtain rfl := Option.some.inj h
          exact Or.inl (hkey hnamed)
        next =>
          rw [Option.map_map, Option.map_map, Option.map_eq_some_iff] at h
          obtain ⟨entity, hnamed, rfl⟩ := h
          exact Or.inr (hkey hnamed)

/-- A phrase that names something in reach denotes the nearest such thing. -/
theorem resolve_eq_find? {scope : Scope} {phrase : NounPhrase} {key : Key}
    (hreach : key ∈ scope.reach) (hnames : phrase.names key = true) (registry : Registry) :
    (scope.resolve registry phrase).map Prod.fst = scope.reach.find? phrase.names := by
  have hempty : ¬ phrase.isEmpty = true := fun hnil =>
    (NounPhrase.names_iff.mp hnames).1 (List.isEmpty_iff.mp hnil)
  have hsome : scope.reach.find? phrase.names ≠ none := fun hnone =>
    List.find?_eq_none.mp hnone key hreach hnames
  rw [reach, List.find?_append] at hsome ⊢
  rw [resolve, if_neg hempty]
  cases hcarried : scope.inventory.find? phrase.names with
  | some found => rfl
  | none =>
      rw [hcarried, Option.none_or] at hsome
      obtain ⟨found, hfound⟩ := Option.ne_none_iff_exists'.mp hsome
      rw [hfound]
      rfl

theorem find?_eq_some_iff_idxOf_le {p : Key → Bool} {own other : Key}
    (hp : ∀ key, p key = true ↔ key = own ∨ key = other) {keys : List Key} (h : own ∈ keys) :
    keys.find? p = some own ↔ keys.idxOf own ≤ keys.idxOf other := by
  induction keys with
  | nil => cases h
  | cons first rest ih =>
      by_cases hown : first = own
      · have hfound : p first = true := (hp first).mpr (Or.inl hown)
        rw [List.find?_cons_of_pos hfound, hown, List.idxOf_cons_self]
        exact iff_of_true rfl (Nat.zero_le _)
      · have hrest : own ∈ rest := (List.mem_cons.mp h).resolve_left fun heq => hown heq.symm
        have hlater : ∀ key, first ≠ key → (first :: rest).idxOf key = rest.idxOf key + 1 :=
          fun key hkey => by rw [List.idxOf_cons, beq_eq_false_iff_ne.mpr hkey, cond_false]
        rw [hlater own hown]
        by_cases hother : first = other
        · have hfound : p first = true := (hp first).mpr (Or.inr hother)
          rw [List.find?_cons_of_pos hfound, hother, List.idxOf_cons_self]
          refine iff_of_false (fun heq => hown ?_) (Nat.not_succ_le_zero _)
          exact hother.trans (Option.some.inj heq)
        · have hpassed : ¬ p first = true := fun hfound =>
            ((hp first).mp hfound).elim hown hother
          rw [List.find?_cons_of_neg hpassed, hlater other hother, ih hrest]
          exact Nat.succ_le_succ_iff.symm

/-- A name typed in full denotes its bearer, unless what is called by the name without its
article is nearer. -/
theorem resolve_name_iff {scope : Scope} {name : String} (h : Text.isTypeable name = true)
    (hreach : Key.ofName name ∈ scope.reach) (registry : Registry) :
    (scope.resolve registry (NounPhrase.ofText name)).map Prod.fst = some (Key.ofName name) ↔
      scope.reach.idxOf (Key.ofName name) ≤
        scope.reach.idxOf (Key.ofName (NounPhrase.ofText name).bare) := by
  have hnames : (NounPhrase.ofText name).names (Key.ofName name) = true :=
    (NounPhrase.names_ofText_iff h).mpr (Or.inl rfl)
  rw [resolve_eq_find? hreach hnames]
  exact find?_eq_some_iff_idxOf_le (fun _ => NounPhrase.names_ofText_iff h) hreach

end Scope

/-! ## Objects of an operation -/

theorem Division.ofTokens_direct (prepositions texts : List String) :
    (ofTokens prepositions (texts.map Token.word)).direct =
      (texts.takeWhile (· ∉ prepositions)).map Token.word := by
  induction texts with
  | nil => rfl
  | cons text texts ih =>
      have hword : prepositions.any (Token.word text).isWord = decide (text ∈ prepositions) := by
        rw [Bool.eq_iff_iff, List.any_eq_true, decide_eq_true_iff]
        simp [Token.isWord]
      rw [List.map_cons, ofTokens, hword]
      by_cases hmem : text ∈ prepositions
      · simp [hmem]
      · simp [hmem, ih]

namespace Reading

/-- The phrase of the direct object in a line of plain words, its quantity still in it. -/
def countedPhrase (registry : Registry) (texts : List String) (verb : VerbMatch) : NounPhrase :=
  ⟨(texts.drop verb.consumed).takeWhile (· ∉ prepositionsOf registry verb.command)⟩

theorem direct_operationOf (registry : Registry) (actor : Key) (line : String)
    (texts : List String) (verb : VerbMatch) :
    (operationOf registry actor line (texts.map Token.word) verb).direct =
      ((Scope.ofActor registry actor).resolve registry
        (countedPhrase registry texts verb).takeQuantity.2).map Prod.fst := by
  have hphrase : NounPhrase.ofTokens (Division.ofTokens (prepositionsOf registry verb.command)
      ((texts.map Token.word).drop verb.consumed)).direct = countedPhrase registry texts verb := by
    rw [← List.map_drop, Division.ofTokens_direct, NounPhrase.ofTokens, Token.texts, List.map_map]
    exact congrArg NounPhrase.mk (List.map_id' _)
  simp only [operationOf, hphrase]

theorem prepositionsOf_of_mem {registry : Registry} {entity : Entity} {command : Command}
    (hentity : entity ∈ registry.entities) (hkind : entity.kind = .command command) :
    prepositionsOf registry entity.key = command.prepositions := by
  have hcommand : registry.command? entity.key = some command := by
    simp [Registry.command?, Registry.get?_of_mem hentity, hkind, Kind.command?]
  rw [prepositionsOf, hcommand]

section Counted

variable {registry : Registry} {verb : VerbMatch} {word name : String}

theorem countedPhrase_length_le :
    (countedPhrase registry (word :: Text.lowerWords name) verb).words.length ≤
      (Text.lowerWords name).length + 1 - verb.consumed := by
  refine Nat.le_trans (List.takeWhile_prefix _).length_le ?_
  rw [List.length_drop, List.length_cons]

theorem countedPhrase_of_consumed (h : verb.consumed = 1) :
    countedPhrase registry (word :: Text.lowerWords name) verb =
      ⟨(Text.lowerWords name).takeWhile (· ∉ prepositionsOf registry verb.command)⟩ := by
  rw [countedPhrase, h, List.drop_one, List.tail_cons]

theorem areWords_takeQuantity_counted (hword : Text.AreWords [word]) :
    Text.AreWords
      (countedPhrase registry (word :: Text.lowerWords name) verb).takeQuantity.2.words := by
  have hall : Text.AreWords (word :: Text.lowerWords name) :=
    List.forall_mem_append.mpr ⟨hword, Text.areWords_lowerWords name⟩
  refine hall.of_subset fun text htext => ?_
  have hcounted := (NounPhrase.takeQuantity_suffix _).subset htext
  exact (List.drop_suffix _ _).subset ((List.takeWhile_prefix _).subset hcounted)

theorem takeQuantity_counted (halone : verb.consumed = 1)
    (h : (NounPhrase.ofText name).StaysWhole (prepositionsOf registry verb.command)) :
    (countedPhrase registry (word :: Text.lowerWords name) verb).takeQuantity.2 =
      NounPhrase.ofText name := by
  have hwhole : (Text.lowerWords name).takeWhile
      (· ∉ prepositionsOf registry verb.command) = Text.lowerWords name :=
    List.takeWhile_eq_self_iff.mpr fun word hword => decide_eq_true (h.undivided word hword)
  rw [countedPhrase_of_consumed halone, hwhole]
  exact NounPhrase.takeQuantity_of_uncounted h.uncounted

/-- A name of which no word is missing was typed after a verb of one word, and stays whole. -/
theorem staysWhole_of_length (hname : Text.lowerWords name ≠ []) (hconsumed : 1 ≤ verb.consumed)
    (h : (Text.lowerWords name).length ≤
      (countedPhrase registry (word :: Text.lowerWords name) verb).takeQuantity.2.words.length) :
    verb.consumed = 1 ∧
      (NounPhrase.ofText name).StaysWhole (prepositionsOf registry verb.command) := by
  have hcounted : (countedPhrase registry (word :: Text.lowerWords name) verb).words.length ≤ _ :=
    countedPhrase_length_le
  have hquantity := (NounPhrase.takeQuantity_suffix
    (countedPhrase registry (word :: Text.lowerWords name) verb)).length_le
  have hpositive : 0 < (Text.lowerWords name).length := List.length_pos_iff.mpr hname
  have halone : verb.consumed = 1 := by omega
  rw [countedPhrase_of_consumed halone] at h hquantity
  have hwhole := (List.takeWhile_prefix
    (· ∉ prepositionsOf registry verb.command)).eq_of_length_le (Nat.le_trans h hquantity)
  rw [hwhole] at h
  refine ⟨halone, NounPhrase.uncounted_of_length h, fun word hword => ?_⟩
  exact of_decide_eq_true (List.takeWhile_eq_self_iff.mp hwhole word hword)

end Counted

end Reading

/-- Whether no phrase of several words starts a line. -/
def VerbTable.TakesOne (table : VerbTable) (texts : List String) : Prop :=
  ∀ entry ∈ table.entries, entry.words <+: texts → entry.words.length ≤ 1

theorem Entity.name_mem_typedPhrases (entity : Entity) : entity.name ∈ entity.typedPhrases := by
  unfold typedPhrases
  split
  · exact List.mem_singleton.mpr rfl
  · exact List.mem_cons_self ..

/-- A line that starts with a verb of one word is read with this verb, unless a longer one starts
it as well. -/
theorem Registry.IsScreened.exists_verb {registry : Registry} (h : registry.IsScreened)
    {entity : Entity} {command : Command} (hentity : entity ∈ registry.entities)
    (hkind : entity.kind = .command command) {active : List Key} (hactive : entity.key ∈ active)
    {phrase word : String} (hphrase : phrase ∈ entity.verbPhrases command)
    (hword : Text.lowerWords phrase = [word]) (texts : List String) :
    ∃ verb, (VerbTable.ofActive registry active).lookup ((word :: texts).map Token.word) =
        some verb ∧ 1 ≤ verb.consumed ∧
      ((VerbTable.ofActive registry active).TakesOne (word :: texts) ↔ verb.consumed = 1) ∧
      (verb.consumed = 1 → verb.command = entity.key) := by
  obtain ⟨entry, hentry, hentryWords⟩ :=
    VerbTable.exists_mem_ofActive hentity hkind hactive hphrase (by rw [hword]; exact nofun)
  rw [hword] at hentryWords
  have hfirst : [word] <+: word :: texts := List.prefix_append [word] texts
  obtain ⟨best, hbest, hstarting, hlongest, hlookup⟩ :=
    VerbTable.exists_lookup hentry (hentryWords.symm ▸ hfirst)
  have hconsumed : 1 ≤ best.words.length := by
    have hlonger := hlongest entry hentry (hentryWords.symm ▸ hfirst)
    rwa [hentryWords] at hlonger
  refine ⟨_, hlookup, hconsumed, ⟨fun htakes => ?_, fun hlength => ?_⟩, fun hlength => ?_⟩
  · exact Nat.le_antisymm (htakes best hbest hstarting) hconsumed
  · intro other hother hstarts
    exact Nat.le_trans (hlongest other hother hstarts) (Nat.le_of_eq hlength)
  · have hwords : best.words = [word] :=
      (List.prefix_of_prefix_length_le hstarting hfirst (Nat.le_of_eq hlength)).eq_of_length hlength
    exact h.command_of_words hentity hkind hphrase hbest (hwords.trans hword.symm)

/-- A name in reach that is typed after a verb of one word denotes its bearer exactly if no longer
verb starts the line, the name stays whole, and what is called by the name without its article is
not nearer. -/
theorem Registry.IsScreened.ofLine_name {registry : Registry} (h : registry.IsScreened)
    {entity : Entity} {command : Command} (hentity : entity ∈ registry.entities)
    (hkind : entity.kind = .command command) {active : List Key} (hactive : entity.key ∈ active)
    {phrase word : String} (hphrase : phrase ∈ entity.verbPhrases command)
    (hword : Text.lowerWords phrase = [word]) {thing : Entity}
    (hthing : thing ∈ registry.entities) {actor : Key}
    (hcontains : (Scope.ofActor registry actor).contains thing.key = true) {line : String}
    (hplain : Text.IsPlain line.toList)
    (hline : Text.lowerWords line = word :: Text.lowerWords thing.name) :
    ∃ operation, Reading.ofLine registry active actor line = .parsed operation ∧
      (operation.direct = some thing.key ↔
        (VerbTable.ofActive registry active).TakesOne (word :: Text.lowerWords thing.name) ∧
          (NounPhrase.ofText thing.name).StaysWhole command.prepositions ∧
          (Scope.ofActor registry actor).reach.idxOf thing.key ≤
            (Scope.ofActor registry actor).reach.idxOf
              (Key.ofName (NounPhrase.ofText thing.name).bare)) := by
  obtain ⟨verb, hlookup, hconsumed, htakes, hcommand⟩ :=
    h.exists_verb hentity hkind hactive hphrase hword (Text.lowerWords thing.name)
  have hprepositions : verb.consumed = 1 →
      Reading.prepositionsOf registry verb.command = command.prepositions := by
    intro halone
    rw [hcommand halone, Reading.prepositionsOf_of_mem hentity hkind]
  have htypeable := h.typeable thing hthing _ thing.name_mem_typedPhrases
  have hkeyed : thing.key = Key.ofName thing.name := h.keyed thing hthing
  have hreach := Scope.mem_reach_iff.mpr hcontains
  rw [hkeyed] at hreach ⊢
  refine ⟨Reading.operationOf registry actor line
    ((word :: Text.lowerWords thing.name).map Token.word) verb, ?_, ?_⟩
  · rw [Reading.ofLine, Reading.withVerbs, Token.ofLine_of_isPlain hplain, hline, List.map_cons]
    dsimp only
    rw [← List.map_cons, hlookup]
  · rw [Reading.direct_operationOf, htakes]
    constructor
    · intro hdirect
      -- What is denoted has as many words as the name, so that none of them has been lost.
      have hlength := NounPhrase.length_le_of_names
        (Reading.areWords_takeQuantity_counted (hword ▸ Text.areWords_lowerWords phrase))
        (Scope.names_of_resolve hdirect)
      obtain ⟨halone, hwhole⟩ :=
        Reading.staysWhole_of_length (Text.lowerWords_ne_nil htypeable) hconsumed hlength
      rw [Reading.takeQuantity_counted halone hwhole] at hdirect
      rw [hprepositions halone] at hwhole
      exact ⟨halone, hwhole, (Scope.resolve_name_iff htypeable hreach registry).mp hdirect⟩
    · rintro ⟨halone, hwhole, hnearest⟩
      rw [← hprepositions halone] at hwhole
      rw [Reading.takeQuantity_counted halone hwhole]
      exact (Scope.resolve_name_iff htypeable hreach registry).mpr hnearest

namespace Reading

open Registry (Request)

theorem wordChars_examine_append (name : String) :
    Text.wordChars ("examine " ++ name).toList =
      "examine".toList :: Text.wordChars name.toList := by
  have hchars : ("examine " ++ name).toList = "examine".toList ++ ' ' :: name.toList :=
    String.toList_append
  have hrun : Text.IsRun "examine".toList := Text.isRun_iff_any.mpr (by decide)
  rw [hchars, Text.wordChars_append_blank hrun (by decide)]
  rfl

theorem lowerWords_examine_append (name : String) :
    Text.lowerWords ("examine " ++ name) = "examine" :: Text.lowerWords name := by
  have hverb : Text.lower "examine" = "examine" := by decide +kernel
  rw [Text.lowerWords, Text.words, wordChars_examine_append, List.map_cons, List.map_cons,
    String.ofList_toList, hverb]
  rfl

theorem isPlain_examine_append {name : String} (h : Text.IsPlain name.toList) :
    Text.IsPlain ("examine " ++ name).toList := by
  constructor
  · rw [String.toList_append, List.mem_append, not_or]
    exact ⟨by decide, h.unquoted⟩
  · rw [wordChars_examine_append]
    exact List.forall_mem_cons.mpr ⟨by decide, h.uniform⟩

/-- Whatever was created, and whatever else is active: the name of a thing in reach, typed after
the word by which things are examined, is read as an operation, and it denotes the thing exactly
if no longer verb starts the line, the name starts with no number and holds no preposition, and
what is called by the name without its article is not nearer. -/
theorem ofLine_examine_name (requests : List Request) {examine : Entity} {command : Command}
    (hexamine : examine ∈ (Request.run requests).entities) (hkey : examine.key = ⟨"examine"⟩)
    (hkind : examine.kind = .command command) {active : List Key}
    (hactive : ⟨"examine"⟩ ∈ active) {actor : Key} {entity : Entity}
    (hentity : entity ∈ (Request.run requests).entities)
    (hcontains : (Scope.ofActor (Request.run requests) actor).contains entity.key = true) :
    ∃ operation,
      ofLine (Request.run requests) active actor ("examine " ++ entity.name) =
        .parsed operation ∧
      (operation.direct = some entity.key ↔
        (VerbTable.ofActive (Request.run requests) active).TakesOne
            ("examine" :: Text.lowerWords entity.name) ∧
          (NounPhrase.ofText entity.name).StaysWhole command.prepositions ∧
          (Scope.ofActor (Request.run requests) actor).reach.idxOf entity.key ≤
            (Scope.ofActor (Request.run requests) actor).reach.idxOf
              (Key.ofName (NounPhrase.ofText entity.name).bare)) := by
  have hscreened := Registry.isScreened_run requests
  have hverb : Text.lowerWords examine.name = ["examine"] := by
    have hname : Key.ofName examine.name = Key.ofName "examine" := by
      rw [← hscreened.keyed examine hexamine, hkey]
      decide +kernel
    rw [Text.lowerWords_eq_of_ofName hname]
    decide +kernel
  have htypeable := hscreened.typeable entity hentity _ entity.name_mem_typedPhrases
  exact hscreened.ofLine_name hexamine hkind (hkey ▸ hactive) (List.mem_cons_self ..) hverb hentity
    hcontains (isPlain_examine_append (Text.isPlain_of_isTypeable htypeable))
    (lowerWords_examine_append entity.name)

/-- A hall with things whose names are not what they are taken for when they are typed. -/
def hallRequests : List Request :=
  [ .create ((Entity.action "Examine" "x" .examine).withPreposition "at") rfl,
    .create ((Entity.action "Search" "s" .look).withAlias "Examine Old") rfl,
    .create (Entity.location "Hall") rfl,
    .create (Entity.pawn "Guest" "Hall" ⟨0⟩) rfl,
    .create (Entity.item "3 Coins" ⟨0⟩) rfl,
    .create (Entity.item "Man at Arms" ⟨0⟩) rfl,
    .create (Entity.item "Old Chest" ⟨0⟩) rfl,
    .create (Entity.item "Lamp" ⟨0⟩) rfl,
    .create (Entity.item "The Lamp" ⟨0⟩) rfl,
    .place "3 Coins" "Hall" 1,
    .place "Man at Arms" "Hall" 1,
    .place "Old Chest" "Hall" 1,
    .place "Lamp" "Hall" 1,
    .place "The Lamp" "Hall" 1 ]

/-- The verbs of the hall, in force at once. -/
def hallActive : List Key := [⟨"examine"⟩, ⟨"search"⟩]

theorem exists_parsed_of_direct {reading : Reading} {direct : Option Key}
    (h : reading.operation?.map Operation.direct = some direct) :
    ∃ operation, reading = .parsed operation ∧ operation.direct = direct := by
  cases reading with
  | parsed operation => exact ⟨operation, rfl, Option.some.inj h⟩
  | empty => cases h
  | unrecognized word => cases h

theorem ofLine_examine_name_lamp :
    ∃ examine ∈ (Request.run hallRequests).entities, examine.key = ⟨"examine"⟩ ∧
      (∃ command, examine.kind = .command command) ∧ ⟨"examine"⟩ ∈ hallActive ∧
      Entity.item "Lamp" ⟨0⟩ ∈ (Request.run hallRequests).entities ∧
      (Scope.ofActor (Request.run hallRequests) ⟨"guest"⟩).contains
        (Entity.item "Lamp" ⟨0⟩).key = true ∧
      ∃ operation,
        ofLine (Request.run hallRequests) hallActive ⟨"guest"⟩
          ("examine " ++ (Entity.item "Lamp" ⟨0⟩).name) = .parsed operation ∧
        operation.direct = some (Entity.item "Lamp" ⟨0⟩).key := by
  have hkey : ((Entity.action "Examine" "x" .examine).withPreposition "at").key =
      ⟨"examine"⟩ := by decide +kernel
  have hactive : ⟨"examine"⟩ ∈ hallActive := by decide
  obtain ⟨hexamine, hlamp, hcontains⟩ :
      (Entity.action "Examine" "x" .examine).withPreposition "at" ∈
          (Request.run hallRequests).entities ∧
        Entity.item "Lamp" ⟨0⟩ ∈ (Request.run hallRequests).entities ∧
        (Scope.ofActor (Request.run hallRequests) ⟨"guest"⟩).contains
          (Entity.item "Lamp" ⟨0⟩).key = true := by decide +kernel
  obtain ⟨operation, hparsed, hdirect⟩ :=
    ofLine_examine_name hallRequests hexamine hkey rfl hactive hlamp hcontains
  refine ⟨_, hexamine, hkey, ⟨_, rfl⟩, hactive, hlamp, hcontains, operation, hparsed,
    hdirect.mpr ⟨?_, ⟨?_, ?_⟩, ?_⟩⟩
  · rw [VerbTable.TakesOne]
    decide +kernel
  · decide +kernel
  · decide +kernel
  · decide +kernel

/-- A number is read as a quantity, a preposition divides the line, a longer verb takes up the
first word of a name, and a name with an article denotes what the rest of it denotes. -/
theorem ofLine_examine_name_misread :
    ∃ examine ∈ (Request.run hallRequests).entities, examine.key = ⟨"examine"⟩ ∧
      (∃ command, examine.kind = .command command) ∧ ⟨"examine"⟩ ∈ hallActive ∧
      ∀ entity ∈ [Entity.item "3 Coins" ⟨0⟩, Entity.item "Man at Arms" ⟨0⟩,
          Entity.item "Old Chest" ⟨0⟩, Entity.item "The Lamp" ⟨0⟩],
        entity ∈ (Request.run hallRequests).entities ∧
          (Scope.ofActor (Request.run hallRequests) ⟨"guest"⟩).contains entity.key = true ∧
          ∃ operation,
            ofLine (Request.run hallRequests) hallActive ⟨"guest"⟩ ("examine " ++ entity.name) =
              .parsed operation ∧
            operation.direct ≠ some entity.key := by
  have hexamine : (Entity.action "Examine" "x" .examine).withPreposition "at" ∈
      (Request.run hallRequests).entities := by decide +kernel
  refine ⟨_, hexamine, by decide +kernel, ⟨_, rfl⟩, by decide, fun entity hentity => ?_⟩
  have hread : ∀ thing ∈ [Entity.item "3 Coins" ⟨0⟩, Entity.item "Man at Arms" ⟨0⟩,
      Entity.item "Old Chest" ⟨0⟩, Entity.item "The Lamp" ⟨0⟩],
      thing ∈ (Request.run hallRequests).entities ∧
        (Scope.ofActor (Request.run hallRequests) ⟨"guest"⟩).contains thing.key = true ∧
        ∃ direct ∈ [none, some ⟨"lamp"⟩],
          (ofLine (Request.run hallRequests) hallActive ⟨"guest"⟩
            ("examine " ++ thing.name)).operation?.map Operation.direct = some direct ∧
          direct ≠ some thing.key := by decide +kernel
  obtain ⟨hmem, hcontains, direct, -, hdirect, hne⟩ := hread entity hentity
  obtain ⟨operation, hparsed, rfl⟩ := exists_parsed_of_direct hdirect
  exact ⟨hmem, hcontains, operation, hparsed, hne⟩

end Reading

end TextAdventure
