import Mathlib.Logic.Basic
import TextAdventure.Proofs.Registry
import TextAdventure.Proofs.Text.Words
import TextAdventure.Vocabulary

/-!
# Requirements on new entities

An entity is admitted to a registry if its words have the right length, can be typed and are not in
use.  The same is asked of it in a list of requirements, one after another, and screening it settles
them: the verdict is that of the first one that is not met.
-/

namespace TextAdventure

/-! ## Requirements -/

/-- Something that is asked of a new entity, and the verdict on one that does not comply. -/
structure Requirement where
  condition : Prop
  verdict : Verdict
  refuses : verdict ≠ .passed := by decide

namespace Requirement

/-- Requirements are gone through in order, and the first that is not met gives the verdict. -/
inductive Settle : List Requirement → Verdict → Prop where
  | passed : Settle [] .passed
  | met {requirement : Requirement} {rest : List Requirement} {verdict : Verdict}
      (hmet : requirement.condition) (later : Settle rest verdict) :
      Settle (requirement :: rest) verdict
  | unmet {requirement : Requirement} {rest : List Requirement}
      (hunmet : ¬requirement.condition) : Settle (requirement :: rest) requirement.verdict

namespace Settle

theorem ite {requirement : Requirement} {rest : List Requirement} {verdict : Verdict} {c : Prop}
    [Decidable c] (hc : c ↔ ¬requirement.condition) (later : Settle rest verdict) :
    Settle (requirement :: rest) (if c then requirement.verdict else verdict) := by
  split
  next hunmet => exact .unmet (hc.mp hunmet)
  next hmet => exact .met (not_not.mp (mt hc.mpr hmet)) later

theorem append {left right : List Requirement} {verdict : Verdict} (h : Settle left .passed)
    (later : Settle right verdict) : Settle (left ++ right) verdict := by
  generalize hpassed : Verdict.passed = first at h
  induction h with
  | passed => exact later
  | met hmet _ ih => exact .met hmet (ih hpassed)
  | @unmet requirement rest hunmet => exact absurd hpassed.symm requirement.refuses

theorem append_of_ne {left : List Requirement} {verdict : Verdict} (h : Settle left verdict)
    (hrefused : verdict ≠ .passed) (right : List Requirement) : Settle (left ++ right) verdict := by
  induction h with
  | passed => exact absurd rfl hrefused
  | met hmet _ ih => exact .met hmet (ih hrefused)
  | unmet hunmet => exact .unmet hunmet

theorem passed_iff {requirements : List Requirement} {verdict : Verdict}
    (h : Settle requirements verdict) :
    verdict = .passed ↔ ∀ requirement ∈ requirements, requirement.condition := by
  induction h with
  | passed => exact iff_of_true rfl nofun
  | met hmet _ ih => rw [ih, List.forall_mem_cons, and_iff_right hmet]
  | @unmet requirement rest hunmet =>
      exact iff_of_false requirement.refuses fun hall => hunmet (hall _ (List.mem_cons_self ..))

/-- A verdict that refuses is that of the first requirement that is not met. -/
theorem exists_first {requirements : List Requirement} {verdict : Verdict}
    (h : Settle requirements verdict) (hrefused : verdict ≠ .passed) :
    ∃ before requirement later, requirements = before ++ requirement :: later ∧
      (∀ earlier ∈ before, earlier.condition) ∧ ¬requirement.condition ∧
      verdict = requirement.verdict := by
  induction h with
  | passed => exact absurd rfl hrefused
  | @met requirement _ _ hmet _ ih =>
      obtain ⟨before, first, later, rfl, hbefore, hunmet, rfl⟩ := ih hrefused
      exact ⟨requirement :: before, first, later, rfl, List.forall_mem_cons.mpr ⟨hmet, hbefore⟩,
        hunmet, rfl⟩
  | @unmet requirement rest hunmet => exact ⟨[], requirement, rest, rfl, nofun, hunmet, rfl⟩

end Settle

end Requirement

/-! ## Admitted entities -/

namespace Registry

def HasHotkey (registry : Registry) (key : Key) : Prop :=
  ∃ entity ∈ registry.entities, ∃ command, entity.kind = .command command ∧
    key = Key.ofName command.hotkey

def HasAlias (registry : Registry) (key : Key) : Prop :=
  ∃ entity ∈ registry.entities, ∃ command, entity.kind = .command command ∧
    ∃ phrase ∈ command.aliases, key = Key.ofName phrase

/-- Whether a key is a registered name, or the hotkey or an alias of a registered command. -/
def IsTaken (registry : Registry) (key : Key) : Prop :=
  key ∈ registry.keys ∨ registry.HasHotkey key ∨ registry.HasAlias key

/-- Whether a phrase can be an alias of a new command, after other aliases of this command. -/
structure AdmitsAlias (registry : Registry) (own hotkey : Key) (earlier : List Key)
    (phrase : String) : Prop where
  length : 1 ≤ (Text.trim phrase).length ∧ (Text.trim phrase).length ≤ 20
  typeable : Text.isTypeable phrase = true
  free : ¬registry.IsTaken (Key.ofName phrase)
  notOwn : Key.ofName phrase ≠ own
  notHotkey : Key.ofName phrase ≠ hotkey
  fresh : Key.ofName phrase ∉ earlier

/-- Whether the words that only a command has can be those of a new one. -/
structure AdmitsCommand (registry : Registry) (entity : Entity) (command : Command) : Prop where
  unbroken : Text.IsRun entity.name.toList
  hotkeyLength : 1 ≤ command.hotkey.length ∧ command.hotkey.length ≤ 3
  hotkeyUnbroken : Text.IsRun command.hotkey.toList
  hotkeyFree : ¬registry.IsTaken (Key.ofName command.hotkey)
  aliases : ∀ earlier phrase later, command.aliases = earlier ++ phrase :: later →
    registry.AdmitsAlias entity.key (Key.ofName command.hotkey) (earlier.map Key.ofName) phrase

/-- Whether the words of an entity can be those of a new one. -/
structure Admits (registry : Registry) (entity : Entity) : Prop where
  length : 1 ≤ entity.name.length ∧ entity.name.length ≤ 20
  typeable : Text.isTypeable entity.name = true
  free : ¬registry.IsTaken (Key.ofName entity.name)
  command : ∀ command, entity.kind = .command command → registry.AdmitsCommand entity command

/-! ## What is asked of an entity -/

/-- A new word is no registered name, hotkey or alias. -/
def freeRequirements (registry : Registry) (key : Key) (name hotkey alternative : Verdict)
    (hname : name ≠ .passed := by decide) (hhotkey : hotkey ≠ .passed := by decide)
    (halternative : alternative ≠ .passed := by decide) : List Requirement :=
  [ ⟨key ∉ registry.keys, name, hname⟩,
    ⟨¬registry.HasHotkey key, hotkey, hhotkey⟩,
    ⟨¬registry.HasAlias key, alternative, halternative⟩ ]

def nameLength (name : String) : Requirement :=
  { condition := 1 ≤ name.length ∧ name.length ≤ 20, verdict := .nameLength }

def nameTypeable (phrase : String) : Requirement :=
  { condition := Text.isTypeable phrase = true, verdict := .untypeableName }

def unbroken (word : String) : Requirement :=
  { condition := Text.IsRun word.toList, verdict := .invalidWhitespace }

def nameFree (registry : Registry) (name : String) : List Requirement :=
  registry.freeRequirements (Key.ofName name) .nameDuplication .nameDuplicatesHotkey
    .nameDuplicatesAlias

def hotkeyRequirements (registry : Registry) (hotkey : String) : List Requirement :=
  { condition := 1 ≤ hotkey.length ∧ hotkey.length ≤ 3, verdict := .hotkeyLength } ::
    unbroken hotkey ::
    registry.freeRequirements (Key.ofName hotkey) .hotkeyDuplicatesName .hotkeyDuplication
      .hotkeyDuplicatesAlias

def aliasRequirements (registry : Registry) (phrase : String) : List Requirement :=
  { condition := 1 ≤ (Text.trim phrase).length ∧ (Text.trim phrase).length ≤ 20
    verdict := .aliasLength } ::
    nameTypeable phrase ::
    registry.freeRequirements (Key.ofName phrase) .aliasDuplicatesName .aliasDuplicatesHotkey
      .aliasDuplication

/-- An alias is not the name or the hotkey of its own command, nor one of the aliases before it. -/
def ownRequirements (own hotkey : Key) (earlier : List Key) (key : Key) : List Requirement :=
  [ { condition := key ≠ own, verdict := .aliasDuplicatesName },
    { condition := key ≠ hotkey, verdict := .aliasDuplicatesHotkey },
    { condition := key ∉ earlier, verdict := .aliasDuplication } ]

def aliasesRequirements (registry : Registry) (own hotkey : Key) (earlier : List Key) :
    List String → List Requirement
  | [] => []
  | phrase :: rest =>
      registry.aliasRequirements phrase ++ ownRequirements own hotkey earlier (Key.ofName phrase) ++
        registry.aliasesRequirements own hotkey (earlier ++ [Key.ofName phrase]) rest

/-- All that is asked of a new entity, in the order in which it is checked. -/
def requirements (registry : Registry) (entity : Entity) : List Requirement :=
  match entity.kind with
  | .command command =>
      (nameLength entity.name :: unbroken entity.name :: nameTypeable entity.name ::
          registry.nameFree entity.name) ++
        (registry.hotkeyRequirements command.hotkey ++
          registry.aliasesRequirements entity.key (Key.ofName command.hotkey) [] command.aliases)
  | _ => nameLength entity.name :: nameTypeable entity.name :: registry.nameFree entity.name

theorem forall_freeRequirements_iff {registry : Registry} {key : Key}
    {name hotkey alternative : Verdict} {hname : name ≠ .passed} {hhotkey : hotkey ≠ .passed}
    {halternative : alternative ≠ .passed} :
    (∀ requirement ∈ registry.freeRequirements key name hotkey alternative hname hhotkey
      halternative, requirement.condition) ↔ ¬registry.IsTaken key := by
  simp [freeRequirements, IsTaken]

theorem forall_aliasRequirements_iff {registry : Registry} {own hotkey : Key}
    {earlier : List Key} {phrase : String} :
    (∀ requirement ∈ registry.aliasRequirements phrase ++
      ownRequirements own hotkey earlier (Key.ofName phrase), requirement.condition) ↔
      registry.AdmitsAlias own hotkey earlier phrase := by
  simp only [aliasRequirements, ownRequirements, nameTypeable, List.forall_mem_append,
    List.forall_mem_cons, forall_freeRequirements_iff, List.not_mem_nil, false_imp_iff,
    implies_true, and_true]
  constructor
  · rintro ⟨⟨hlength, htypeable, hfree⟩, hown, hhotkey, hfresh⟩
    exact ⟨hlength, htypeable, hfree, hown, hhotkey, hfresh⟩
  · rintro ⟨hlength, htypeable, hfree, hown, hhotkey, hfresh⟩
    exact ⟨⟨hlength, htypeable, hfree⟩, hown, hhotkey, hfresh⟩

/-- The aliases before a phrase are those before all of them, and those among them. -/
theorem forall_aliasesRequirements_iff {registry : Registry} {own hotkey : Key}
    {seen : List Key} {phrases : List String} :
    (∀ requirement ∈ registry.aliasesRequirements own hotkey seen phrases,
      requirement.condition) ↔
      ∀ earlier phrase later, phrases = earlier ++ phrase :: later →
        registry.AdmitsAlias own hotkey (seen ++ earlier.map Key.ofName) phrase := by
  induction phrases generalizing seen with
  | nil => simp [aliasesRequirements]
  | cons first rest ih =>
      rw [aliasesRequirements, List.forall_mem_append, forall_aliasRequirements_iff, ih]
      constructor
      · rintro ⟨hfirst, hrest⟩ earlier phrase later hsplit
        cases earlier with
        | nil =>
            obtain ⟨rfl, -⟩ := List.cons.inj hsplit
            simpa using hfirst
        | cons other earlier =>
            obtain ⟨rfl, hlater⟩ := List.cons.inj hsplit
            simpa using hrest earlier phrase later hlater
      · intro hall
        refine ⟨by simpa using hall [] first rest rfl, fun earlier phrase later hsplit => ?_⟩
        simpa using hall (first :: earlier) phrase later (by rw [hsplit, List.cons_append])

/-- An entity is admitted exactly if it meets all requirements. -/
theorem admits_iff_requirements {registry : Registry} {entity : Entity} :
    registry.Admits entity ↔
      ∀ requirement ∈ registry.requirements entity, requirement.condition := by
  cases hkind : entity.kind with
  | command command =>
      rw [requirements, hkind]
      simp only [nameFree, nameLength, unbroken, nameTypeable, hotkeyRequirements,
        List.forall_mem_append, List.forall_mem_cons, forall_freeRequirements_iff,
        forall_aliasesRequirements_iff, List.nil_append]
      constructor
      · rintro ⟨hlength, htypeable, hfree, hcommand⟩
        obtain ⟨hunbroken, hhotkey, hhotkeyRun, hhotkeyFree, haliases⟩ := hcommand command hkind
        exact ⟨⟨hlength, hunbroken, htypeable, hfree⟩, ⟨hhotkey, hhotkeyRun, hhotkeyFree⟩, haliases⟩
      · rintro ⟨⟨hlength, hunbroken, htypeable, hfree⟩, ⟨hhotkey, hhotkeyRun, hhotkeyFree⟩,
          haliases⟩
        refine ⟨hlength, htypeable, hfree, fun other hother => ?_⟩
        obtain rfl := Kind.command.inj (hkind.symm.trans hother)
        exact ⟨hunbroken, hhotkey, hhotkeyRun, hhotkeyFree, haliases⟩
  | _ =>
      rw [requirements, hkind]
      simp only [nameFree, nameLength, nameTypeable, List.forall_mem_cons,
        forall_freeRequirements_iff]
      constructor
      · rintro ⟨hlength, htypeable, hfree, -⟩
        exact ⟨hlength, htypeable, hfree⟩
      · rintro ⟨hlength, htypeable, hfree⟩
        exact ⟨hlength, htypeable, hfree, fun command hcommand => by simp [hkind] at hcommand⟩

/-! ## Screening settles the requirements -/

open Requirement (Settle)

theorem isHotkey_iff {registry : Registry} {key : Key} :
    registry.isHotkey key = true ↔ registry.HasHotkey key := by
  constructor
  · intro h
    obtain ⟨⟨entity, command⟩, hmem, hmatches⟩ := List.any_eq_true.mp h
    obtain ⟨hentity, hkind⟩ := of_mem_commands hmem
    exact ⟨entity, hentity, command, hkind, (Key.matchesName_iff _ _).mp hmatches⟩
  · rintro ⟨entity, hentity, command, hkind, rfl⟩
    exact List.any_eq_true.mpr ⟨_, mem_commands hentity hkind, (Key.matchesName_iff _ _).mpr rfl⟩

theorem isAlias_iff {registry : Registry} {key : Key} :
    registry.isAlias key = true ↔ registry.HasAlias key := by
  constructor
  · intro h
    obtain ⟨⟨entity, command⟩, hmem, hany⟩ := List.any_eq_true.mp h
    obtain ⟨hentity, hkind⟩ := of_mem_commands hmem
    obtain ⟨phrase, hphrase, hmatches⟩ := List.any_eq_true.mp hany
    exact ⟨entity, hentity, command, hkind, phrase, hphrase,
      (Key.matchesName_iff _ _).mp hmatches⟩
  · rintro ⟨entity, hentity, command, hkind, phrase, hphrase, rfl⟩
    exact List.any_eq_true.mpr ⟨_, mem_commands hentity hkind,
      List.any_eq_true.mpr ⟨phrase, hphrase, (Key.matchesName_iff _ _).mpr rfl⟩⟩

theorem hasLength_iff {text : String} {longest : Nat} :
    (!hasLength text longest) = true ↔ ¬(1 ≤ text.length ∧ text.length ≤ longest) := by
  rw [hasLength, Bool.not_eq_true', Bool.eq_false_iff, ne_eq, Bool.and_eq_true, decide_eq_true_iff,
    decide_eq_true_iff]

theorem hasBlank_iff {text : String} : hasBlank text = true ↔ ¬Text.IsRun text.toList := by
  simp [hasBlank, Text.IsRun]

theorem untypeable_iff {text : String} :
    (!Text.isTypeable text) = true ↔ ¬Text.isTypeable text = true := by
  simp

/-- Whether a word is taken is looked up in this order. -/
theorem settle_free (registry : Registry) (word : String) {name hotkey alternative : Verdict}
    (hname : name ≠ .passed) (hhotkey : hotkey ≠ .passed) (halternative : alternative ≠ .passed) :
    Settle (registry.freeRequirements (Key.ofName word) name hotkey alternative hname hhotkey
        halternative)
      (if registry.contains word then name
        else if registry.isHotkey (Key.ofName word) then hotkey
        else if registry.isAlias (Key.ofName word) then alternative
        else .passed) :=
  .ite ((registry.contains_iff word).trans not_not.symm)
    (.ite (isHotkey_iff.trans not_not.symm) (.ite (isAlias_iff.trans not_not.symm) .passed))

theorem settle_screenName (registry : Registry) (name : String) :
    Settle (nameLength name :: nameTypeable name :: registry.nameFree name)
      (registry.screenName name) :=
  .ite hasLength_iff (.ite untypeable_iff (registry.settle_free name _ _ _))

theorem settle_screenCommandName (registry : Registry) (name : String) :
    Settle (nameLength name :: unbroken name :: nameTypeable name :: registry.nameFree name)
      (registry.screenCommandName name) :=
  .ite hasLength_iff
    (.ite hasBlank_iff (.ite untypeable_iff (registry.settle_free name _ _ _)))

theorem settle_screenHotkey (registry : Registry) (hotkey : String) :
    Settle (registry.hotkeyRequirements hotkey) (registry.screenHotkey hotkey) :=
  .ite hasLength_iff (.ite hasBlank_iff (registry.settle_free hotkey _ _ _))

theorem settle_screenAlias (registry : Registry) (phrase : String) :
    Settle (registry.aliasRequirements phrase) (registry.screenAlias phrase) :=
  .ite hasLength_iff (.ite untypeable_iff (registry.settle_free phrase _ _ _))

/-- Each alias adds its own key to those before the next one. -/
theorem settle_screenAliases (registry : Registry) (own : Key) (hotkey : String)
    (earlier : List Key) (phrases : List String) :
    Settle (registry.aliasesRequirements own (Key.ofName hotkey) earlier phrases)
      (registry.screenAliases own hotkey earlier phrases) := by
  induction phrases generalizing earlier with
  | nil => exact .passed
  | cons phrase rest ih =>
      have halias := registry.settle_screenAlias phrase
      unfold aliasesRequirements screenAliases
      rw [List.append_assoc]
      split
      next hpassed =>
        rw [hpassed] at halias
        refine halias.append (.ite not_not.symm (.ite ?_ (.ite not_not.symm (ih _))))
        exact (Key.matchesName_iff _ _).trans not_not.symm
      next hrefused => exact halias.append_of_ne hrefused _

theorem settle_screenEntity (registry : Registry) (entity : Entity) :
    Settle (registry.requirements entity) (registry.screenEntity entity) := by
  cases hkind : entity.kind with
  | command command =>
      have hname := registry.settle_screenCommandName entity.name
      have hhotkey := registry.settle_screenHotkey command.hotkey
      rw [requirements, screenEntity, hkind]
      dsimp only
      split
      next hpassed =>
        rw [hpassed] at hname
        refine hname.append ?_
        split
        next hpassed =>
          rw [hpassed] at hhotkey
          exact hhotkey.append (registry.settle_screenAliases _ _ _ _)
        next hrefused => exact hhotkey.append_of_ne hrefused _
      next hrefused => exact hname.append_of_ne hrefused _
  | _ =>
      rw [requirements, screenEntity, hkind]
      exact registry.settle_screenName entity.name

theorem screenEntity_eq_passed_iff {registry : Registry} {entity : Entity} :
    registry.screenEntity entity = .passed ↔ registry.Admits entity :=
  (registry.settle_screenEntity entity).passed_iff.trans admits_iff_requirements.symm

end Registry

end TextAdventure
