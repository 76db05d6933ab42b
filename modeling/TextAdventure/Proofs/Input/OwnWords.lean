import Mathlib.Data.List.TFAE
import TextAdventure.Proofs.Input.CommandWords
import TextAdventure.Proofs.Text.AsciiCase
import TextAdventure.Proofs.Vocabulary.Creation

/-!
# The words of one command

Whether a phrase is the hotkey or an alias of a command is asked of the command itself, of the
vocabulary and of the verb table.  Of a command that has been accepted all of them say the same of
every phrase that can be typed, but for the command itself, which compares its hotkey letter by
letter and knows no capitals besides A to Z.
-/

namespace TextAdventure

/-! ## Phrases by form -/

namespace Entity

/-- Whether a key is that of a phrase of this form. -/
def IsKnownBy (entity : Entity) (command : Command) (form : VerbForm) (key : Key) : Prop :=
  ∃ phrase ∈ entity.phrasesOf command form, key = Key.ofName phrase

theorem isKnownBy_hotkey_iff {entity : Entity} {command : Command} {key : Key} :
    entity.IsKnownBy command .hotkey key ↔ key = Key.ofName command.hotkey := by
  simp [IsKnownBy, phrasesOf]

end Entity

/-- Whether a table has an entry of a form whose words are all the tokens of a line. -/
def VerbTable.HasEntry (table : VerbTable) (form : VerbForm) (line : String) : Prop :=
  ∃ entry ∈ table.entries, entry.form = form ∧ entry.words.map Token.word = Token.ofLine line

namespace VerbTable

variable {entity : Entity} {command : Command}

/-- The table of one registered command has its entries only. -/
theorem entries_ofActive_single {registry : Registry} (hentity : entity ∈ registry.entities)
    (hkind : entity.kind = .command command) :
    (ofActive registry [entity.key]).entries = entriesOf entity command := by
  rw [ofActive, List.flatMap_singleton, entriesFor_of_mem hentity hkind]

/-- A phrase that can be typed has the words of an entry exactly if it is known by its form. -/
theorem hasEntry_iff {table : VerbTable} (htable : table.entries = entriesOf entity command)
    {form : VerbForm} (hspaced : ∀ phrase ∈ entity.phrasesOf command form, Text.IsSpaced phrase)
    {line : String} (htypeable : Text.isTypeable line = true) :
    table.HasEntry form line ↔ entity.IsKnownBy command form (Key.ofName line) := by
  have htokens : Token.ofLine line = (Text.lowerWords line).map Token.word :=
    Token.ofLine_of_isPlain (Text.isPlain_of_isTypeable htypeable)
  rw [HasEntry, htable, htokens]
  constructor
  · rintro ⟨entry, hentry, rfl, hwords⟩
    obtain ⟨phrase, hphrase, -, heq⟩ := mem_entriesOf_iff.mp hentry
    rw [heq, List.map_inj_right (fun _ _ => Token.word.inj)] at hwords
    exact ⟨phrase, hphrase, Text.ofName_eq_of_lowerWords (Text.isSpaced_of_isTypeable htypeable)
      (hspaced phrase hphrase) hwords.symm⟩
  · rintro ⟨phrase, hphrase, hkey⟩
    have hwords := Text.lowerWords_eq_of_ofName hkey
    refine ⟨⟨entity.key, Text.lowerWords phrase, form⟩, ?_, rfl, by rw [hwords]⟩
    refine mem_entriesOf_iff.mpr ⟨phrase, hphrase, ?_, rfl⟩
    exact hwords ▸ Text.lowerWords_ne_nil htypeable

end VerbTable

/-! ## The vocabulary -/

namespace Registry

variable {registry after : Registry} {entity : Entity} {command : Command} {key : Key}

/-- A registry with a single entity. -/
def alone (entity : Entity) : Registry :=
  ofList [entity]

theorem entities_alone (entity : Entity) :
    (alone entity).entities = empty.entities ++ [entity] := by
  have hfresh : entity.key ∉ empty.keys := List.not_mem_nil
  exact insert_entities hfresh

theorem hasHotkey_iff_of_append (hkind : entity.kind = .command command)
    (hentities : after.entities = registry.entities ++ [entity]) :
    after.HasHotkey key ↔ registry.HasHotkey key ∨ entity.IsKnownBy command .hotkey key := by
  simp [HasHotkey, hentities, or_and_right, exists_or, hkind, Entity.IsKnownBy, Entity.phrasesOf]

theorem hasAlias_iff_of_append (hkind : entity.kind = .command command)
    (hentities : after.entities = registry.entities ++ [entity]) :
    after.HasAlias key ↔ registry.HasAlias key ∨ entity.IsKnownBy command .alternative key := by
  simp [HasAlias, hentities, or_and_right, exists_or, hkind, Entity.IsKnownBy, Entity.phrasesOf]

theorem Admits.not_isTaken (h : registry.Admits entity) (hkind : entity.kind = .command command)
    {form : VerbForm} (hknown : entity.IsKnownBy command form key) : ¬registry.IsTaken key := by
  obtain ⟨phrase, hphrase, rfl⟩ := hknown
  cases form with
  | name =>
      obtain rfl := List.mem_singleton.mp hphrase
      exact h.free
  | hotkey =>
      obtain rfl := List.mem_singleton.mp hphrase
      exact (h.command command hkind).hotkeyFree
  | alternative =>
      obtain ⟨earlier, halias⟩ := (h.command command hkind).admitsAlias hphrase
      exact halias.free

theorem Admits.isSpaced (h : registry.Admits entity) (hkind : entity.kind = .command command)
    {form : VerbForm} : ∀ phrase ∈ entity.phrasesOf command form, Text.IsSpaced phrase := by
  intro phrase hphrase
  cases form with
  | name =>
      obtain rfl := List.mem_singleton.mp hphrase
      exact Text.isSpaced_of_isTypeable h.typeable
  | hotkey =>
      obtain rfl := List.mem_singleton.mp hphrase
      exact Text.isSpaced_of_isRun (h.command command hkind).hotkeyUnbroken
  | alternative =>
      obtain ⟨earlier, halias⟩ := (h.command command hkind).admitsAlias hphrase
      exact Text.isSpaced_of_isTypeable halias.typeable

/-- What is known only since a command was accepted are its own words. -/
theorem Admits.isNew_iff (h : registry.Admits entity) (hkind : entity.kind = .command command)
    {form : VerbForm} {old new : Prop} (htaken : old → registry.IsTaken key)
    (hnew : new ↔ old ∨ entity.IsKnownBy command form key) :
    new ∧ ¬old ↔ entity.IsKnownBy command form key := by
  rw [hnew]
  constructor
  · rintro ⟨hold | hown, hnone⟩
    · exact absurd hold hnone
    · exact hown
  · exact fun hown => ⟨Or.inr hown, fun hold => h.not_isTaken hkind hown (htaken hold)⟩

theorem isHotkey_after_iff (hadmits : registry.Admits entity)
    (hkind : entity.kind = .command command)
    (hentities : after.entities = registry.entities ++ [entity]) :
    after.isHotkey key = true ∧ registry.isHotkey key = false ↔
      entity.IsKnownBy command .hotkey key := by
  rw [Bool.eq_false_iff, ne_eq, isHotkey_iff, isHotkey_iff]
  exact hadmits.isNew_iff hkind (fun hold => Or.inr (Or.inl hold))
    (hasHotkey_iff_of_append hkind hentities)

theorem isAlias_after_iff (hadmits : registry.Admits entity)
    (hkind : entity.kind = .command command)
    (hentities : after.entities = registry.entities ++ [entity]) :
    after.isAlias key = true ∧ registry.isAlias key = false ↔
      entity.IsKnownBy command .alternative key := by
  rw [Bool.eq_false_iff, ne_eq, isAlias_iff, isAlias_iff]
  exact hadmits.isNew_iff hkind (fun hold => Or.inr (Or.inr hold))
    (hasAlias_iff_of_append hkind hentities)

theorem isHotkey_alone_iff (hkind : entity.kind = .command command) :
    (alone entity).isHotkey key = true ↔ entity.IsKnownBy command .hotkey key := by
  rw [isHotkey_iff, hasHotkey_iff_of_append hkind (entities_alone entity)]
  exact or_iff_right nofun

theorem isAlias_alone_iff (hkind : entity.kind = .command command) :
    (alone entity).isAlias key = true ↔ entity.IsKnownBy command .alternative key := by
  rw [isAlias_iff, hasAlias_iff_of_append hkind (entities_alone entity)]
  exact or_iff_right nofun

end Registry

/-! ## The command itself -/

namespace Command

variable {command : Command} {phrase : String}

theorem hasAlias_iff {entity : Entity} :
    command.hasAlias phrase = true ↔
      entity.IsKnownBy command .alternative (Key.ofName phrase) := by
  simp [hasAlias, Entity.IsKnownBy, Entity.phrasesOf, Key.matchesName_iff]

theorem normalize_hotkey (hrun : Text.IsRun command.hotkey.toList) :
    Text.normalize command.hotkey = Text.lower command.hotkey := by
  rw [Text.normalize, Text.trim, Text.trimChars_run hrun, String.ofList_toList]

theorem ofName_eq_of_hotkeyMatches (hrun : Text.IsRun command.hotkey.toList)
    (h : command.hotkeyMatches phrase = true) :
    Key.ofName phrase = Key.ofName command.hotkey := by
  have hsame : Text.lowerAscii command.hotkey = Text.lowerAscii (Text.trim phrase) :=
    beq_iff_eq.mp h
  rw [Key.ofName, Key.ofName, normalize_hotkey hrun, Text.normalize, ← Text.lower_lowerAscii,
    ← hsame, Text.lower_lowerAscii]

/-- Without capitals besides A to Z, nothing is lost when letters are compared one by one. -/
theorem hotkeyMatches_of_ofName_eq (hrun : Text.IsRun command.hotkey.toList)
    (hhotkey : Text.HasAsciiCapitals command.hotkey) (hphrase : Text.HasAsciiCapitals phrase)
    (hkey : Key.ofName phrase = Key.ofName command.hotkey) :
    command.hotkeyMatches phrase = true := by
  have hsame : Text.normalize phrase = Text.normalize command.hotkey := congrArg Key.text hkey
  rw [normalize_hotkey hrun, Text.normalize, hphrase.trim.lower_eq, hhotkey.lower_eq] at hsame
  exact beq_iff_eq.mpr hsame.symm

end Command

namespace Registry

/-- Of every phrase that can be typed, the vocabulary with an accepted command alone, the vocabulary
before and after it was created, and the verb table of this command agree on whether it is the
hotkey; and so do they and the command itself on whether it is an alias.  What the command itself
takes for its hotkey is the hotkey, and the converse holds if neither the hotkey nor the phrase has
a capital besides the letters A to Z. -/
theorem own_words_agree {registry after : Registry} {entity : Entity} {command : Command}
    (hkeyed : entity.IsKeyed) (hcreate : registry.create entity = .ok after)
    (hkind : entity.kind = .command command) {phrase : String}
    (hphrase : Text.isTypeable phrase = true) :
    [ (alone entity).isHotkey (Key.ofName phrase) = true,
      after.isHotkey (Key.ofName phrase) = true ∧ registry.isHotkey (Key.ofName phrase) = false,
      (VerbTable.ofActive after [entity.key]).HasEntry .hotkey phrase ].TFAE ∧
    [ (alone entity).isAlias (Key.ofName phrase) = true,
      after.isAlias (Key.ofName phrase) = true ∧ registry.isAlias (Key.ofName phrase) = false,
      (VerbTable.ofActive after [entity.key]).HasEntry .alternative phrase,
      command.hasAlias phrase = true ].TFAE ∧
    (command.hotkeyMatches phrase = true →
      (alone entity).isHotkey (Key.ofName phrase) = true) ∧
    (Text.HasAsciiCapitals command.hotkey → Text.HasAsciiCapitals phrase →
      (alone entity).isHotkey (Key.ofName phrase) = true →
      command.hotkeyMatches phrase = true) := by
  obtain ⟨hpassed, rfl⟩ := create_eq_ok_iff.mp hcreate
  have hadmits := screenEntity_eq_passed_iff.mp hpassed
  have hentities := insert_entities (key_notMem_of_screenEntity hkeyed hpassed)
  have hmem : entity ∈ (registry.insert entity).entities := by simp [hentities]
  have htable := VerbTable.entries_ofActive_single hmem hkind
  have hentry : ∀ form, (VerbTable.ofActive (registry.insert entity) [entity.key]).HasEntry form
      phrase ↔ entity.IsKnownBy command form (Key.ofName phrase) :=
    fun form => VerbTable.hasEntry_iff htable (hadmits.isSpaced hkind) hphrase
  have hrun := (hadmits.command command hkind).hotkeyUnbroken
  have hhotkey : (alone entity).isHotkey (Key.ofName phrase) = true ↔
      Key.ofName phrase = Key.ofName command.hotkey :=
    (isHotkey_alone_iff hkind).trans Entity.isKnownBy_hotkey_iff
  refine ⟨List.tfae_of_forall (entity.IsKnownBy command .hotkey (Key.ofName phrase)) _ ?_,
    List.tfae_of_forall (entity.IsKnownBy command .alternative (Key.ofName phrase)) _ ?_,
    fun hmatches => hhotkey.mpr (Command.ofName_eq_of_hotkeyMatches hrun hmatches),
    fun hascii hplain hown =>
      Command.hotkeyMatches_of_ofName_eq hrun hascii hplain (hhotkey.mp hown)⟩
  · simp only [List.forall_mem_cons, List.not_mem_nil, false_imp_iff, implies_true, and_true]
    exact ⟨isHotkey_alone_iff hkind, isHotkey_after_iff hadmits hkind hentities, hentry .hotkey⟩
  · simp only [List.forall_mem_cons, List.not_mem_nil, false_imp_iff, implies_true, and_true]
    exact ⟨isAlias_alone_iff hkind, isAlias_after_iff hadmits hkind hentities, hentry .alternative,
      Command.hasAlias_iff⟩

/-- A hotkey of two letters and an alias of two words, each typed in another case. -/
theorem own_words_agree_climb :
    ∃ after command, climb.kind = .command command ∧ grasp.create climb = .ok after ∧
      after.isHotkey (Key.ofName "cL") = true ∧
      (VerbTable.ofActive after [climb.key]).HasEntry .hotkey "cL" ∧
      command.hotkeyMatches "cL" = true ∧
      after.isAlias (Key.ofName "Go UP") = true ∧
      (VerbTable.ofActive after [climb.key]).HasEntry .alternative "Go UP" ∧
      command.hasAlias "Go UP" = true := by
  have hkeyed : climb.IsKeyed := (((Entity.IsBuilt.ofKind _ _).mapKind _).mapKind _).isKeyed
  have hcreate := create_eq_ok_iff.mpr ⟨(by decide +kernel : grasp.screenEntity climb = .passed), rfl⟩
  obtain ⟨hhotkey, -, -, hmatches⟩ :=
    own_words_agree hkeyed hcreate rfl (by decide +kernel : Text.isTypeable "cL" = true)
  obtain ⟨-, halias, -, -⟩ :=
    own_words_agree hkeyed hcreate rfl (by decide +kernel : Text.isTypeable "Go UP" = true)
  have hown : (alone climb).isHotkey (Key.ofName "cL") = true := by decide +kernel
  have hother : (alone climb).isAlias (Key.ofName "Go UP") = true := by decide +kernel
  have hnew := (hhotkey.out 0 1).mp hown
  have hnewAlias := (halias.out 0 1).mp hother
  exact ⟨_, _, rfl, hcreate, hnew.1, (hhotkey.out 0 2).mp hown,
    hmatches (by decide +kernel) (by decide +kernel) hown, hnewAlias.1,
    (halias.out 0 2).mp hother, (halias.out 0 3).mp hother⟩

/-- The hotkey of a command with a capital that is not one of the letters A to Z: the vocabulary and
the verb table know it, the command does not. -/
theorem own_words_disagree_accented :
    ∃ after command, (Entity.command "Wave" "é" .wait).kind = .command command ∧
      empty.create (Entity.command "Wave" "é" .wait) = .ok after ∧
      Text.isTypeable command.hotkey = true ∧ Text.isTypeable "É" = true ∧
      after.isHotkey (Key.ofName "É") = true ∧
      (VerbTable.ofActive after [⟨"wave"⟩]).HasEntry .hotkey "É" ∧
      command.hotkeyMatches "É" = false := by
  refine ⟨_, _, rfl, create_eq_ok_iff.mpr ⟨by decide +kernel, rfl⟩, by decide +kernel,
    by decide +kernel, by decide +kernel, ⟨⟨⟨"wave"⟩, ["é"], .hotkey⟩, ?_, rfl, ?_⟩, by decide +kernel⟩
  · decide +kernel
  · decide +kernel

end Registry

end TextAdventure
