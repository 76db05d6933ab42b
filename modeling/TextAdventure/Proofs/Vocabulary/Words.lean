import Mathlib.Data.List.Induction
import Mathlib.Data.List.Nodup
import TextAdventure.Proofs.Vocabulary.Requirements

/-!
# Words in force

The words of an entity are its name and, for a command, its hotkey and its aliases, all
normalized.  An entity that passes the screening brings words that differ from each other
and from every word in force.
-/

namespace TextAdventure

namespace Entity

/-- Whether an entity is known by the key of its own name. -/
def IsKeyed (entity : Entity) : Prop :=
  entity.key = Key.ofName entity.name

end Entity

/-! ## Words -/

namespace Command

/-- The hotkey of a command, unless it repeats the command's own name. -/
def hotkeyWords (own : Key) (command : Command) : List Key :=
  if Key.ofName command.hotkey = own then [] else [Key.ofName command.hotkey]

def aliasWords (command : Command) : List Key :=
  command.aliases.map Key.ofName

end Command

/-- The words of an entity besides its own name. -/
def Kind.furtherWords (own : Key) (kind : Kind) : List Key :=
  match kind.command? with
  | none => []
  | some record => record.hotkeyWords own ++ record.aliasWords

namespace Entity

def words (entity : Entity) : List Key :=
  Key.ofName entity.name :: entity.kind.furtherWords (Key.ofName entity.name)

/-- The phrases of an entity that a player has to be able to type. -/
def typedPhrases (entity : Entity) : List String :=
  match entity.kind.command? with
  | none => [entity.name]
  | some command => entity.name :: command.aliases

theorem words_congr {left right : Entity} (hname : left.name = right.name)
    (hcommand : left.kind.command? = right.kind.command?) : left.words = right.words := by
  rw [words, words, Kind.furtherWords, Kind.furtherWords, hname, hcommand]

theorem typedPhrases_congr {left right : Entity} (hname : left.name = right.name)
    (hcommand : left.kind.command? = right.kind.command?) :
    left.typedPhrases = right.typedPhrases := by
  rw [typedPhrases, typedPhrases, hname, hcommand]

end Entity

namespace Registry

def words (registry : Registry) : List Key :=
  registry.entities.flatMap Entity.words

/-- What holds of a registry into which only screened entities have been put. -/
structure IsScreened (registry : Registry) : Prop where
  keyed : ∀ entity ∈ registry.entities, entity.IsKeyed
  typeable : ∀ entity ∈ registry.entities, ∀ phrase ∈ entity.typedPhrases,
    Text.isTypeable phrase = true
  unbroken : ∀ entity ∈ registry.entities, ∀ command ∈ entity.kind.command?,
    hasBlank command.hotkey = false
  distinct : registry.words.Nodup

theorem isScreened_empty : empty.IsScreened where
  keyed := by simp [empty]
  typeable := by simp [empty]
  unbroken := by simp [empty]
  distinct := List.nodup_nil

/-! ## Free words -/

/-- Whether a key is no name, no hotkey and no alias. -/
structure IsFree (registry : Registry) (key : Key) : Prop where
  notName : key ∉ registry.keys
  notHotkey : registry.isHotkey key = false
  notAlias : registry.isAlias key = false

theorem isFree_of_not_isTaken {registry : Registry} {key : Key} (h : ¬registry.IsTaken key) :
    registry.IsFree key where
  notName := fun hname => h (Or.inl hname)
  notHotkey := Bool.eq_false_iff.mpr fun hhotkey => h (Or.inr (Or.inl (isHotkey_iff.mp hhotkey)))
  notAlias := Bool.eq_false_iff.mpr fun halias => h (Or.inr (Or.inr (isAlias_iff.mp halias)))

theorem IsFree.notMem_words {registry : Registry} {key : Key} (hfree : registry.IsFree key)
    (hkeyed : ∀ entity ∈ registry.entities, entity.IsKeyed) : key ∉ registry.words := by
  intro hmem
  obtain ⟨entity, hentity, hword⟩ := List.mem_flatMap.mp hmem
  rcases List.mem_cons.mp hword with rfl | hfurther
  · have hkey := hkeyed entity hentity
    exact hfree.notName (hkey ▸ List.mem_map_of_mem hentity)
  · cases hkind : entity.kind with
    | command command =>
        rw [hkind] at hfurther
        rcases List.mem_append.mp hfurther with hhotkey | halias
        · have hkey : key = Key.ofName command.hotkey := by
            unfold Command.hotkeyWords at hhotkey
            split at hhotkey
            · cases hhotkey
            · exact List.mem_singleton.mp hhotkey
          have htaken := isHotkey_iff.mpr ⟨entity, hentity, command, hkind, hkey⟩
          rw [hfree.notHotkey] at htaken
          cases htaken
        · obtain ⟨phrase, hphrase, rfl⟩ := List.mem_map.mp halias
          have htaken := isAlias_iff.mpr ⟨entity, hentity, command, hkind, phrase, hphrase, rfl⟩
          rw [hfree.notAlias] at htaken
          cases htaken
    | _ =>
        rw [hkind] at hfurther
        cases hfurther

/-! ## Screened entities -/

theorem AdmitsCommand.admitsAlias {registry : Registry} {entity : Entity} {command : Command}
    (h : registry.AdmitsCommand entity command) {phrase : String}
    (hphrase : phrase ∈ command.aliases) : ∃ earlier,
      registry.AdmitsAlias entity.key (Key.ofName command.hotkey) earlier phrase := by
  obtain ⟨earlier, later, hsplit⟩ := List.append_of_mem hphrase
  exact ⟨_, h.aliases earlier phrase later hsplit⟩

/-- No alias repeats one before it. -/
theorem AdmitsCommand.nodup_aliasWords {registry : Registry} {entity : Entity} {command : Command}
    (h : registry.AdmitsCommand entity command) : command.aliasWords.Nodup := by
  have hprefix : ∀ phrases, phrases <+: command.aliases → (phrases.map Key.ofName).Nodup := by
    intro phrases hprefix
    induction phrases using List.reverseRecOn with
    | nil => exact List.nodup_nil
    | append_singleton earlier phrase ih =>
        obtain ⟨later, hlater⟩ := hprefix
        have hsplit : command.aliases = earlier ++ phrase :: later := by
          rw [← hlater, List.append_assoc, List.singleton_append]
        rw [List.map_append, List.map_singleton, List.nodup_append]
        refine ⟨ih ⟨_, hsplit.symm⟩, List.nodup_singleton _, ?_⟩
        rintro key hkey other hother rfl
        rw [List.mem_singleton] at hother
        exact (h.aliases earlier phrase later hsplit).fresh (hother ▸ hkey)
  exact hprefix command.aliases (List.prefix_refl _)

/-- Every word of a screened entity is free, and no two of them are the same. -/
theorem words_of_screenEntity {registry : Registry} {entity : Entity} (hkeyed : entity.IsKeyed)
    (h : registry.screenEntity entity = .passed) :
    (∀ key ∈ entity.words, registry.IsFree key) ∧ entity.words.Nodup := by
  have hadmits := screenEntity_eq_passed_iff.mp h
  have hname := isFree_of_not_isTaken hadmits.free
  cases hkind : entity.kind with
  | command command =>
      have hcommand := hadmits.command command hkind
      have haliases : ∀ key ∈ command.aliasWords,
          registry.IsFree key ∧ key ≠ Key.ofName entity.name ∧ key ≠ Key.ofName command.hotkey := by
        intro key hkey
        obtain ⟨phrase, hphrase, rfl⟩ := List.mem_map.mp hkey
        obtain ⟨earlier, halias⟩ := hcommand.admitsAlias hphrase
        have hown := halias.notOwn
        rw [hkeyed] at hown
        exact ⟨isFree_of_not_isTaken halias.free, hown, halias.notHotkey⟩
      have hfree : ∀ key ∈ command.aliasWords, registry.IsFree key :=
        fun key hkey => (haliases key hkey).1
      have hnodup := hcommand.nodup_aliasWords
      rw [Entity.words, hkind]
      dsimp only [Kind.furtherWords, Kind.command?, Command.hotkeyWords]
      split
      next hsame =>
        exact ⟨List.forall_mem_cons.mpr ⟨hname, hfree⟩,
          List.nodup_cons.mpr ⟨fun hmem => (haliases _ hmem).2.1 rfl, hnodup⟩⟩
      next hdiffer =>
        have hhotkeyWords : (Key.ofName command.hotkey :: command.aliasWords).Nodup :=
          List.nodup_cons.mpr ⟨fun hmem => (haliases _ hmem).2.2 rfl, hnodup⟩
        refine ⟨List.forall_mem_cons.mpr ⟨hname, List.forall_mem_cons.mpr
          ⟨isFree_of_not_isTaken hcommand.hotkeyFree, hfree⟩⟩,
          List.nodup_cons.mpr ⟨fun hmem => ?_, hhotkeyWords⟩⟩
        rcases List.mem_cons.mp hmem with heq | hmem
        · exact hdiffer heq.symm
        · exact (haliases _ hmem).2.1 rfl
  | _ =>
      have hwords : entity.words = [Key.ofName entity.name] := by
        rw [Entity.words, hkind]
        rfl
      rw [hwords]
      exact ⟨List.forall_mem_singleton.mpr hname, List.nodup_singleton _⟩

theorem typeable_of_screenEntity {registry : Registry} {entity : Entity}
    (h : registry.screenEntity entity = .passed) :
    ∀ phrase ∈ entity.typedPhrases, Text.isTypeable phrase = true := by
  have hadmits := screenEntity_eq_passed_iff.mp h
  cases hkind : entity.kind with
  | command command =>
      rw [Entity.typedPhrases, hkind]
      refine List.forall_mem_cons.mpr ⟨hadmits.typeable, fun phrase hphrase => ?_⟩
      obtain ⟨earlier, halias⟩ := (hadmits.command command hkind).admitsAlias hphrase
      exact halias.typeable
  | _ =>
      rw [Entity.typedPhrases, hkind]
      exact List.forall_mem_singleton.mpr hadmits.typeable

theorem unbroken_of_screenEntity {registry : Registry} {entity : Entity}
    (h : registry.screenEntity entity = .passed) :
    ∀ command ∈ entity.kind.command?, hasBlank command.hotkey = false := by
  intro command hcommand
  have hkind := Kind.eq_command_of_command? hcommand
  have hrun := ((screenEntity_eq_passed_iff.mp h).command command hkind).hotkeyUnbroken
  exact Bool.eq_false_iff.mpr fun hblank => hasBlank_iff.mp hblank hrun

theorem key_notMem_of_screenEntity {registry : Registry} {entity : Entity}
    (hkeyed : entity.IsKeyed) (h : registry.screenEntity entity = .passed) :
    entity.key ∉ registry.keys := by
  rw [hkeyed]
  exact ((words_of_screenEntity hkeyed h).1 _ (List.mem_cons_self ..)).notName

theorem IsScreened.create {registry after : Registry} {entity : Entity}
    (hscreened : registry.IsScreened) (hkeyed : entity.IsKeyed)
    (h : registry.create entity = .ok after) : after.IsScreened := by
  unfold Registry.create at h
  split at h
  next hpassed =>
    obtain ⟨hfree, hnodup⟩ := words_of_screenEntity hkeyed hpassed
    cases h
    have hentities := insert_entities (key_notMem_of_screenEntity hkeyed hpassed)
    constructor
    · rw [hentities, List.forall_mem_append]
      exact ⟨hscreened.keyed, List.forall_mem_singleton.mpr hkeyed⟩
    · rw [hentities, List.forall_mem_append]
      exact ⟨hscreened.typeable,
        List.forall_mem_singleton.mpr (typeable_of_screenEntity hpassed)⟩
    · rw [hentities, List.forall_mem_append]
      exact ⟨hscreened.unbroken,
        List.forall_mem_singleton.mpr (unbroken_of_screenEntity hpassed)⟩
    · rw [words, hentities, List.flatMap_append, List.flatMap_singleton, List.nodup_append]
      refine ⟨hscreened.distinct, hnodup, ?_⟩
      rintro key hold other hnew rfl
      exact (hfree key hnew).notMem_words hscreened.keyed hold
  next => cases h

end Registry

end TextAdventure
