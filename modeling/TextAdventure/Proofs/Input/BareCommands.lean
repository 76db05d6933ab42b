import TextAdventure.Proofs.Input.CommandWords
import TextAdventure.Proofs.Text.Lowered

/-!
# Commands without objects

A command can be run by its name alone, as a bare operation.  The name of a registered command is a
single word that can be typed.  Whatever has the same key is that word again, so the line made of it
has this one token, no other command has it, and reading it makes the same operation.
-/

namespace TextAdventure

open Text (IsPlain IsRun)

/-! ## Names of commands -/

/-- Whether an entity, if it is a command, has a name without blanks. -/
def Entity.HasUnbrokenVerb (entity : Entity) : Prop :=
  ∀ command ∈ entity.kind.command?, IsRun entity.name.toList

namespace Registry

theorem hasUnbrokenVerb_run (requests : List Request) :
    ∀ entity ∈ (Request.run requests).entities, entity.HasUnbrokenVerb := by
  refine Request.forall_mem_run ?_ ?_ requests
  · intro registry entity hpassed command hcommand
    have hadmits := screenEntity_eq_passed_iff.mp hpassed
    exact (hadmits.command command (Kind.eq_command_of_command? hcommand)).unbroken
  · intro change entity hunbroken command hcommand
    rw [change.name_apply]
    exact hunbroken command (change.command?_apply entity ▸ hcommand)

end Registry

/-! ## Lines of one word -/

/-- A line with the key of a single word that can be typed is that word. -/
theorem Token.ofLine_of_ofName_eq {name line : String} (hrun : IsRun name.toList)
    (htypeable : Text.isTypeable name = true) (hkey : Key.ofName line = Key.ofName name) :
    Text.lowerWords name = [(Key.ofName line).text] ∧
      ofLine line = [word (Key.ofName line).text] := by
  have hnonempty := Text.toList_ne_nil_of_isTypeable htypeable
  have hwords : Text.lowerWords name = [Text.lower name] :=
    Text.lowerWords_of_isRun hrun hnonempty
  have htext : (Key.ofName line).text = Text.lower name := by
    rw [hkey, Key.ofName, Text.normalize_of_isSpaced (Text.isSpaced_of_isRun hrun), hwords,
      Text.unwords_singleton]
  have hsame : Text.lowerWords line = [Text.lower name] := by
    rw [Text.lowerWords_eq_of_ofName hkey, hwords]
  have hplain : IsPlain line.toList := by
    refine Text.isPlain_of_lowerWords ?_
    rw [hsame, List.forall_mem_singleton, Text.lower, String.toList_ofList,
      Text.isPlain_lowerChars_iff]
    exact Text.isPlain_of_isTypeable htypeable
  rw [htext, hwords, ofLine_of_isPlain hplain, hsame]
  exact ⟨rfl, rfl⟩

namespace Reading

open Registry (Request)

/-- When the verb takes up all there is, the operation is bare. -/
theorem operationOf_eq_bare {line : String} {verb : VerbMatch}
    (hcommand : verb.command = Key.ofName line) (hconsumed : verb.consumed = 1)
    (registry : Registry) (actor : Key) :
    operationOf registry actor line [.word (Key.ofName line).text] verb = Operation.bare line := by
  obtain ⟨command, consumed, form⟩ := verb
  dsimp only at hcommand hconsumed
  subst hcommand hconsumed
  have htake : [Token.word (Key.ofName line).text].take 1 = [.word (Key.ofName line).text] := rfl
  have hdrop : [Token.word (Key.ofName line).text].drop 1 = [] := rfl
  have hverb : joined [.word (Key.ofName line).text] = (Key.ofName line).text :=
    Text.unwords_singleton _
  simp only [operationOf, htake, hdrop, hverb]
  rfl

/-- Whatever has been created and removed before, whatever else is active and whoever acts: a line
with the key of an active command is read as the bare operation of that line. -/
theorem ofLine_eq_bare (requests : List Request) {entity : Entity} {command : Command}
    (hentity : entity ∈ (Request.run requests).entities) (hkind : entity.kind = .command command)
    {active : List Key} (hactive : entity.key ∈ active) (actor : Key) {line : String}
    (hline : Key.ofName line = entity.key) :
    ofLine (Request.run requests) active actor line = .parsed (Operation.bare line) := by
  have hscreened := Registry.isScreened_run requests
  have hrun : IsRun entity.name.toList :=
    Registry.hasUnbrokenVerb_run requests entity hentity command (by rw [hkind]; rfl)
  have hkey : Key.ofName line = Key.ofName entity.name :=
    hline.trans (hscreened.keyed entity hentity)
  have htypeable := hscreened.typeable_of_command hentity hkind _ (List.mem_cons_self ..)
  obtain ⟨hwords, htokens⟩ := Token.ofLine_of_ofName_eq hrun htypeable hkey
  have hphrase : entity.name ∈ entity.verbPhrases command := List.mem_cons_self ..
  obtain ⟨entry, hentry, hentryWords⟩ := VerbTable.exists_mem_ofActive hentity hkind hactive hphrase
    (hwords ▸ List.cons_ne_nil _ _)
  obtain ⟨best, hbest, hbestWords, hlookup⟩ := VerbTable.lookup_whole hentry hentryWords
  have howner := hscreened.command_of_words hentity hkind hphrase hbest hbestWords
  rw [hwords, List.map_singleton, List.length_singleton, ← htokens] at hlookup
  rw [ofLine_of_lookup hlookup actor, htokens, operationOf_eq_bare (howner.trans hline.symm) rfl]

/-- A command whose name ends in a final sigma and whose hotkey does not, and an action that is also
called by the same word and another one. -/
def sigmaRequests : List Request :=
  [ .create (Entity.command "Wait" "w" .wait) rfl,
    .create (Entity.command "ΣΑΣ" "σασ" .look) rfl,
    .create ((Entity.action "Get" "g" .get).withAlias "ΣΑΣ Up") rfl,
    .remove "wait" ]

theorem ofLine_eq_bare_sigma :
    Entity.command "ΣΑΣ" "σασ" .look ∈ (Request.run sigmaRequests).entities ∧
      Key.ofName " ΣαΣ\t" = ⟨"σας"⟩ ∧
      ofLine (Request.run sigmaRequests) [⟨"get"⟩, ⟨"σας"⟩] ⟨"player"⟩ " ΣαΣ\t" =
        .parsed (Operation.bare " ΣαΣ\t") := by
  have hmem : Entity.command "ΣΑΣ" "σασ" .look ∈ (Request.run sigmaRequests).entities := by
    decide +kernel
  have hkey : (Entity.command "ΣΑΣ" "σασ" .look).key = ⟨"σας"⟩ := by decide +kernel
  have hline : Key.ofName " ΣαΣ\t" = ⟨"σας"⟩ := by decide +kernel
  have hactive : (Entity.command "ΣΑΣ" "σασ" .look).key ∈ [⟨"get"⟩, ⟨"σας"⟩] := by
    rw [hkey]
    decide
  exact ⟨hmem, hline,
    ofLine_eq_bare sigmaRequests hmem rfl hactive ⟨"player"⟩ (hline.trans hkey.symm)⟩

end Reading

end TextAdventure
