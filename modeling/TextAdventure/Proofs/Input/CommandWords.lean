import TextAdventure.Input.Reading
import TextAdventure.Proofs.Input.Verbs
import TextAdventure.Proofs.Vocabulary.Requests

/-!
# Command words read back

Every word of an active command is read as that command, in whatever case it is typed.  The
table may hold phrases of other commands that start the line as well, but none as long: a
phrase with the same words would be the same word in force.
-/

namespace TextAdventure

open Text (IsPlain IsSpaced)

/-! ## Words and their owners -/

namespace Entity

/-- The phrases by which a command can be invoked. -/
def verbPhrases (entity : Entity) (command : Command) : List String :=
  entity.name :: command.hotkey :: command.aliases

/-- The phrases that invoke a command in the same way: by its name, its hotkey or an alias. -/
def phrasesOf (entity : Entity) (command : Command) : VerbForm → List String
  | .name => [entity.name]
  | .hotkey => [command.hotkey]
  | .alternative => command.aliases

theorem mem_verbPhrases_iff {entity : Entity} {command : Command} {phrase : String} :
    phrase ∈ entity.verbPhrases command ↔ ∃ form, phrase ∈ entity.phrasesOf command form := by
  rw [verbPhrases, List.mem_cons, List.mem_cons]
  constructor
  · rintro (hname | hhotkey | halias)
    · exact ⟨.name, List.mem_singleton.mpr hname⟩
    · exact ⟨.hotkey, List.mem_singleton.mpr hhotkey⟩
    · exact ⟨.alternative, halias⟩
  · rintro ⟨form, hform⟩
    cases form with
    | name => exact Or.inl (List.mem_singleton.mp hform)
    | hotkey => exact Or.inr (Or.inl (List.mem_singleton.mp hform))
    | alternative => exact Or.inr (Or.inr hform)

theorem ofName_mem_words {entity : Entity} {command : Command}
    (hkind : entity.kind = .command command) {phrase : String}
    (h : phrase ∈ entity.verbPhrases command) : Key.ofName phrase ∈ entity.words := by
  have hwords : entity.words = Key.ofName entity.name ::
      (command.hotkeyWords (Key.ofName entity.name) ++ command.aliasWords) := by
    rw [words, hkind]
    rfl
  rw [verbPhrases, List.mem_cons, List.mem_cons] at h
  rw [hwords, List.mem_cons, List.mem_append]
  rcases h with rfl | rfl | halias
  · exact Or.inl rfl
  · by_cases hsame : Key.ofName command.hotkey = Key.ofName entity.name
    · exact Or.inl hsame
    · rw [Command.hotkeyWords, if_neg hsame]
      exact Or.inr (Or.inl (List.mem_singleton.mpr rfl))
  · exact Or.inr (Or.inr (List.mem_map_of_mem halias))

end Entity

namespace Registry

theorem eq_of_mem_words {entities : List Entity} (h : (entities.flatMap Entity.words).Nodup)
    {left right : Entity} (hleft : left ∈ entities) (hright : right ∈ entities) {key : Key}
    (hleftWord : key ∈ left.words) (hrightWord : key ∈ right.words) : left = right := by
  induction entities with
  | nil => cases hleft
  | cons first rest ih =>
      rw [List.flatMap_cons, List.nodup_append] at h
      obtain ⟨-, hrest, hapart⟩ := h
      rcases List.mem_cons.mp hleft with rfl | hleftRest
      · rcases List.mem_cons.mp hright with rfl | hrightRest
        · rfl
        · exact absurd rfl (hapart key hleftWord key
            (List.mem_flatMap.mpr ⟨right, hrightRest, hrightWord⟩))
      · rcases List.mem_cons.mp hright with rfl | hrightRest
        · exact absurd rfl (hapart key hrightWord key
            (List.mem_flatMap.mpr ⟨left, hleftRest, hleftWord⟩))
        · exact ih hrest hleftRest hrightRest

theorem IsScreened.typeable_of_command {registry : Registry} (h : registry.IsScreened)
    {entity : Entity} (hentity : entity ∈ registry.entities) {command : Command}
    (hkind : entity.kind = .command command) :
    ∀ phrase ∈ entity.name :: command.aliases, Text.isTypeable phrase = true := by
  have htypeable := h.typeable entity hentity
  rw [Entity.typedPhrases, hkind] at htypeable
  exact htypeable

/-- All phrases that invoke a registered command are parted by single spaces. -/
theorem IsScreened.isSpaced {registry : Registry} (h : registry.IsScreened) {entity : Entity}
    (hentity : entity ∈ registry.entities) {command : Command}
    (hkind : entity.kind = .command command) {phrase : String}
    (hphrase : phrase ∈ entity.verbPhrases command) : IsSpaced phrase := by
  have htyped := h.typeable_of_command hentity hkind
  rw [Entity.verbPhrases, List.mem_cons, List.mem_cons] at hphrase
  rcases hphrase with rfl | rfl | halias
  · exact Text.isSpaced_of_isTypeable (htyped _ (List.mem_cons_self ..))
  · have hblank := h.unbroken entity hentity command (by rw [hkind]; rfl)
    exact Text.isSpaced_of_isRun (Text.isRun_iff_any.mpr hblank)
  · exact Text.isSpaced_of_isTypeable (htyped phrase (List.mem_cons_of_mem _ halias))

end Registry

/-! ## Entries of the table -/

namespace VerbTable

theorem mem_entryOf_iff {command : Key} {form : VerbForm} {phrase : String} {entry : VerbEntry} :
    entry ∈ entryOf command form phrase ↔
      Text.lowerWords phrase ≠ [] ∧ entry = ⟨command, Text.lowerWords phrase, form⟩ := by
  rw [entryOf]
  split
  next hempty => simp [List.isEmpty_iff.mp hempty]
  next hnonempty =>
    rw [List.mem_singleton]
    exact ⟨fun heq => ⟨fun hnil => hnonempty (List.isEmpty_iff.mpr hnil), heq⟩, And.right⟩

theorem entriesOf_eq (entity : Entity) (command : Command) :
    entriesOf entity command = [VerbForm.name, .hotkey, .alternative].flatMap fun form =>
      (entity.phrasesOf command form).flatMap (entryOf entity.key form) := by
  simp [entriesOf, Entity.phrasesOf]

/-- The entries of a command are those of its phrases, under the form of the phrase. -/
theorem mem_entriesOf_iff {entity : Entity} {command : Command} {entry : VerbEntry} :
    entry ∈ entriesOf entity command ↔
      ∃ phrase ∈ entity.phrasesOf command entry.form, Text.lowerWords phrase ≠ [] ∧
        entry = ⟨entity.key, Text.lowerWords phrase, entry.form⟩ := by
  simp only [entriesOf_eq, List.mem_flatMap, mem_entryOf_iff]
  constructor
  · rintro ⟨form, -, phrase, hphrase, hwords, rfl⟩
    exact ⟨phrase, hphrase, hwords, rfl⟩
  · rintro ⟨phrase, hphrase, hentry⟩
    exact ⟨entry.form, by cases entry.form <;> decide, phrase, hphrase, hentry⟩

/-- The forms of the phrases are left aside. -/
theorem mem_entriesOf {entity : Entity} {command : Command} {entry : VerbEntry}
    (h : entry ∈ entriesOf entity command) :
    entry.command = entity.key ∧
      ∃ phrase ∈ entity.verbPhrases command, entry.words = Text.lowerWords phrase := by
  obtain ⟨phrase, hphrase, -, heq⟩ := mem_entriesOf_iff.mp h
  exact ⟨congrArg VerbEntry.command heq, phrase,
    Entity.mem_verbPhrases_iff.mpr ⟨entry.form, hphrase⟩, congrArg VerbEntry.words heq⟩

theorem words_ne_nil_of_mem_entriesOf {entity : Entity} {command : Command} {entry : VerbEntry}
    (h : entry ∈ entriesOf entity command) : entry.words ≠ [] := by
  obtain ⟨phrase, -, hwords, heq⟩ := mem_entriesOf_iff.mp h
  have hsame : entry.words = Text.lowerWords phrase := congrArg VerbEntry.words heq
  rwa [hsame]

theorem exists_mem_entriesOf {entity : Entity} {command : Command} {phrase : String}
    (hphrase : phrase ∈ entity.verbPhrases command) (hwords : Text.lowerWords phrase ≠ []) :
    ∃ entry ∈ entriesOf entity command, entry.words = Text.lowerWords phrase := by
  obtain ⟨form, hform⟩ := Entity.mem_verbPhrases_iff.mp hphrase
  refine ⟨⟨entity.key, Text.lowerWords phrase, form⟩, ?_, rfl⟩
  exact mem_entriesOf_iff.mpr ⟨phrase, hform, hwords, rfl⟩

theorem entriesFor_of_mem {registry : Registry} {entity : Entity} {command : Command}
    (hentity : entity ∈ registry.entities) (hkind : entity.kind = .command command) :
    entriesFor registry entity.key = entriesOf entity command := by
  rw [entriesFor, Registry.get?_of_mem hentity]
  dsimp only
  rw [hkind]

theorem exists_of_mem_entriesFor {registry : Registry} {key : Key} {entry : VerbEntry}
    (h : entry ∈ entriesFor registry key) :
    ∃ entity ∈ registry.entities, ∃ command, entity.kind = .command command ∧
      entry ∈ entriesOf entity command := by
  unfold entriesFor at h
  split at h
  next => cases h
  next entity hget =>
    split at h
    next command hkind => exact ⟨entity, Registry.mem_of_get? hget, command, hkind, h⟩
    next => cases h

theorem exists_mem_ofActive {registry : Registry} {entity : Entity} {command : Command}
    (hentity : entity ∈ registry.entities) (hkind : entity.kind = .command command)
    {active : List Key} (hactive : entity.key ∈ active) {phrase : String}
    (hphrase : phrase ∈ entity.verbPhrases command) (hwords : Text.lowerWords phrase ≠ []) :
    ∃ entry ∈ (ofActive registry active).entries, entry.words = Text.lowerWords phrase := by
  obtain ⟨entry, hentry, hentryWords⟩ := exists_mem_entriesOf hphrase hwords
  refine ⟨entry, ?_, hentryWords⟩
  rw [ofActive, List.mem_flatMap]
  exact ⟨entity.key, hactive, by rwa [entriesFor_of_mem hentity hkind]⟩

/-- No command is invoked by saying nothing. -/
theorem lookup_ofActive_nil (registry : Registry) (active : List Key) :
    (ofActive registry active).lookup [] = none := by
  rw [lookup_eq_none_iff]
  rintro ⟨entry, hentry, hstarts⟩
  obtain ⟨key, -, hkey⟩ := List.mem_flatMap.mp hentry
  obtain ⟨owner, -, record, -, hof⟩ := exists_of_mem_entriesFor hkey
  exact words_ne_nil_of_mem_entriesOf hof (List.map_eq_nil_iff.mp (List.prefix_nil.mp hstarts))

end VerbTable

/-! ## Readings -/

/-- Whether an operation names a command and nothing besides. -/
structure Operation.NamesOnly (operation : Operation) (command : Key) : Prop where
  command : operation.command = command
  rest : operation.rest = ""
  quantity : operation.quantity = 1
  preposition : operation.preposition = none
  directPhrase : operation.directPhrase = NounPhrase.empty
  indirectPhrase : operation.indirectPhrase = NounPhrase.empty
  direct : operation.direct = none
  indirect : operation.indirect = none

namespace Reading

theorem ofLine_of_lookup {registry : Registry} {active : List Key} {line : String}
    {verb : VerbMatch}
    (h : (VerbTable.ofActive registry active).lookup (Token.ofLine line) = some verb)
    (actor : Key) :
    ofLine registry active actor line =
      .parsed (operationOf registry actor line (Token.ofLine line) verb) := by
  rw [ofLine, withVerbs]
  cases htokens : Token.ofLine line with
  | nil =>
      rw [htokens, VerbTable.lookup_ofActive_nil] at h
      cases h
  | cons first rest =>
      rw [htokens] at h
      dsimp only
      rw [h]

/-- A line that a verb takes up wholly is read as that verb without any object. -/
theorem withVerbs_of_lookup_whole {table : VerbTable} {registry : Registry} {line : String}
    {tokens : List Token} {verb : VerbMatch} (htokens : Token.ofLine line = tokens)
    (hnonempty : tokens ≠ []) (hverb : table.lookup tokens = some verb)
    (hconsumed : verb.consumed = tokens.length) (actor : Key) :
    ∃ operation, withVerbs table registry actor line = .parsed operation ∧
      operation.NamesOnly verb.command := by
  have hrest : tokens.drop verb.consumed = [] := by rw [hconsumed, List.drop_length]
  refine ⟨operationOf registry actor line tokens verb, ?_, ?_⟩
  · obtain ⟨first, rest, rfl⟩ := List.exists_cons_of_ne_nil hnonempty
    rw [withVerbs, htokens]
    dsimp only
    rw [hverb]
  · simp only [operationOf, hrest]
    constructor <;> rfl

end Reading

/-- An entry with the words of a phrase belongs to the command that the phrase invokes: its own
phrase is the same word in force. -/
theorem Registry.IsScreened.command_of_words {registry : Registry} (h : registry.IsScreened)
    {entity : Entity} {command : Command} (hentity : entity ∈ registry.entities)
    (hkind : entity.kind = .command command) {phrase : String}
    (hphrase : phrase ∈ entity.verbPhrases command) {active : List Key} {entry : VerbEntry}
    (hentry : entry ∈ (VerbTable.ofActive registry active).entries)
    (hwords : entry.words = Text.lowerWords phrase) : entry.command = entity.key := by
  obtain ⟨key, -, hkey⟩ := List.mem_flatMap.mp hentry
  obtain ⟨owner, howner, record, hrecord, hof⟩ := VerbTable.exists_of_mem_entriesFor hkey
  obtain ⟨hcommand, other, hother, hotherWords⟩ := VerbTable.mem_entriesOf hof
  have hsame : Key.ofName other = Key.ofName phrase :=
    Text.ofName_eq_of_lowerWords (h.isSpaced howner hrecord hother)
      (h.isSpaced hentity hkind hphrase) (hotherWords.symm.trans hwords)
  have hword := Entity.ofName_mem_words hrecord hother
  rw [hsame] at hword
  rw [hcommand, eq_of_mem_words h.distinct howner hentity hword
    (Entity.ofName_mem_words hkind hphrase)]

theorem Registry.IsScreened.ofLine_phrase {registry : Registry} (h : registry.IsScreened)
    {entity : Entity} {command : Command} (hentity : entity ∈ registry.entities)
    (hkind : entity.kind = .command command) {active : List Key} (hactive : entity.key ∈ active)
    {phrase : String} (hphrase : phrase ∈ entity.verbPhrases command)
    (htypeable : Text.isTypeable phrase = true) {line : String}
    (hcase : Text.lower line = Text.lower phrase) (actor : Key) :
    ∃ operation, Reading.ofLine registry active actor line = .parsed operation ∧
      operation.NamesOnly entity.key := by
  have hwords : Text.lowerWords line = Text.lowerWords phrase := by
    rw [← Text.words_lower, hcase, Text.words_lower]
  have hplain : IsPlain line.toList := by
    have hlower : Text.lowerChars line.toList = Text.lowerChars phrase.toList :=
      String.ofList_injective hcase
    rw [← Text.isPlain_lowerChars_iff, hlower, Text.isPlain_lowerChars_iff]
    exact Text.isPlain_of_isTypeable htypeable
  have hnonempty := Text.lowerWords_ne_nil htypeable
  obtain ⟨entry, hentry, hentryWords⟩ :=
    VerbTable.exists_mem_ofActive hentity hkind hactive hphrase hnonempty
  obtain ⟨best, hbest, hbestWords, hlookup⟩ := VerbTable.lookup_whole hentry hentryWords
  have howner := h.command_of_words hentity hkind hphrase hbest hbestWords
  have htokens : Token.ofLine line = (Text.lowerWords phrase).map Token.word := by
    rw [Token.ofLine_of_isPlain hplain, hwords]
  rw [← howner]
  exact Reading.withVerbs_of_lookup_whole htokens (by simpa using hnonempty) hlookup (by simp) actor

namespace Reading

open Registry (Request)

/-- Whatever else is active and in whatever order: the name of a registered command, each of its
aliases and a hotkey that can be typed all invoke it, in any case. -/
theorem ofLine_command_word (requests : List Request) {entity : Entity} {command : Command}
    (hentity : entity ∈ (Request.run requests).entities) (hkind : entity.kind = .command command)
    {active : List Key} (hactive : entity.key ∈ active) (actor : Key) {phrase : String}
    (hphrase : phrase = entity.name ∨ phrase ∈ command.aliases ∨
      phrase = command.hotkey ∧ Text.isTypeable phrase = true)
    {line : String} (hcase : Text.lower line = Text.lower phrase) :
    ∃ operation, ofLine (Request.run requests) active actor line = .parsed operation ∧
      operation.NamesOnly entity.key := by
  have hscreened := Registry.isScreened_run requests
  have htyped := hscreened.typeable_of_command hentity hkind
  have hverb : phrase ∈ entity.verbPhrases command ∧ Text.isTypeable phrase = true := by
    rw [Entity.verbPhrases]
    rcases hphrase with rfl | halias | ⟨rfl, hhotkey⟩
    · exact ⟨List.mem_cons_self .., htyped _ (List.mem_cons_self ..)⟩
    · exact ⟨List.mem_cons_of_mem _ (List.mem_cons_of_mem _ halias),
        htyped phrase (List.mem_cons_of_mem _ halias)⟩
    · exact ⟨List.mem_cons_of_mem _ (List.mem_cons_self ..), hhotkey⟩
  exact hscreened.ofLine_phrase hentity hkind hactive hverb.1 hverb.2 hcase actor

/-- Two commands whose words start alike, after a third one has been created and removed. -/
def pickRequests : List Request :=
  [ .create (Entity.command "Wait" "z" .wait) rfl,
    .create (Entity.command "Pick" "p" .help) rfl,
    .create ((Entity.action "Get" "g" .get).withAlias "Pick Up") rfl,
    .remove "wait" ]

theorem ofLine_command_word_pick_up :
    ((Entity.action "Get" "g" .get).withAlias "Pick Up") ∈ (Request.run pickRequests).entities ∧
      ∃ operation, ofLine (Request.run pickRequests) [⟨"pick"⟩, ⟨"get"⟩] ⟨"player"⟩ "PICK uP" =
        .parsed operation ∧ operation.NamesOnly ⟨"get"⟩ := by
  have hmem : ((Entity.action "Get" "g" .get).withAlias "Pick Up") ∈
      (Request.run pickRequests).entities := by decide +kernel
  refine ⟨hmem, ofLine_command_word pickRequests hmem rfl (by decide +kernel) ⟨"player"⟩
    (Or.inr (Or.inl (by decide +kernel : "Pick Up" ∈ _))) (by decide +kernel)⟩

end Reading

end TextAdventure
