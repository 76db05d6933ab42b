import TextAdventure.Proofs.Input.ActivationOrder
import TextAdventure.Proofs.Input.Typeable

/-!
# How operations are spelled

Reading a line loses none of its words and adds none.  A line has no token exactly if it is all
blank.  Otherwise its tokens start with the words of an active verb, or its first word is reported;
and after a verb they are a number, the direct phrase, a preposition and the indirect phrase, in
this order, each of which may be missing.
-/

namespace TextAdventure

/-! ## Blank lines -/

namespace Token

/-- A run in hand becomes a token, whatever follows. -/
theorem scan_run_ne_nil (first : Char) (reversed cs : List Char) :
    scan (.run (first :: reversed)) cs ≠ [] := by
  induction cs generalizing first reversed with
  | nil => exact List.cons_ne_nil _ _
  | cons c rest ih =>
      rw [scan]
      split
      · exact List.cons_ne_nil _ _
      · split
        · exact List.cons_ne_nil _ _
        · exact ih c (first :: reversed)

theorem scan_quotation_ne_nil (reversed cs : List Char) :
    scan (.quotation reversed) cs ≠ [] := by
  obtain ⟨content, hcontent⟩ := exists_quoted_mem_scan reversed cs
  exact List.ne_nil_of_mem hcontent

theorem scan_eq_nil_iff {cs : List Char} :
    scan (.run []) cs = [] ↔ ∀ c ∈ cs, Text.isBlank c = true := by
  induction cs with
  | nil => exact iff_of_true rfl nofun
  | cons c rest ih =>
      rw [List.forall_mem_cons, scan]
      split
      next hquote =>
        subst hquote
        constructor
        · intro hnil
          exact absurd hnil (scan_quotation_ne_nil [] rest)
        · rintro ⟨hblank, -⟩
          cases hblank
      next =>
        split
        next hblank => exact ih.trans (and_iff_right hblank).symm
        next hvisible =>
          constructor
          · intro hnil
            exact absurd hnil (scan_run_ne_nil c [] rest)
          · rintro ⟨hblank, -⟩
            exact absurd hblank hvisible

theorem ofLine_eq_nil_iff {line : String} :
    ofLine line = [] ↔ ∀ c ∈ line.toList, Text.isBlank c = true :=
  scan_eq_nil_iff

end Token

/-! ## Verbs -/

/-- Whether an active command is invoked by these words: they are those of its name, of its hotkey
or of an alias, and there is at least one. -/
def Registry.IsVerb (registry : Registry) (active : List Key) (command : Key)
    (words : List String) : Prop :=
  command ∈ active ∧ words ≠ [] ∧ ∃ entity record, registry.get? command = some entity ∧
    entity.kind = .command record ∧ ∃ phrase ∈ entity.verbPhrases record,
      words = Text.lowerWords phrase

/-- Whether some verb starts a line of tokens. -/
def Registry.StartsWithVerb (registry : Registry) (active : List Key) (tokens : List Token) :
    Prop :=
  ∃ command words, registry.IsVerb active command words ∧ words.map Token.word <+: tokens

namespace VerbTable

variable {registry : Registry} {active : List Key}

theorem isVerb_of_mem_ofActive {entry : VerbEntry}
    (h : entry ∈ (ofActive registry active).entries) :
    registry.IsVerb active entry.command entry.words := by
  obtain ⟨key, hactive, hentry⟩ := List.mem_flatMap.mp h
  unfold entriesFor at hentry
  split at hentry
  next => cases hentry
  next entity hget =>
    split at hentry
    next record hkind =>
      obtain ⟨hcommand, hphrase⟩ := mem_entriesOf hentry
      rw [hcommand, Registry.key_of_get? hget]
      exact ⟨hactive, words_ne_nil_of_mem_entriesOf hentry, entity, record, hget, hkind, hphrase⟩
    next => cases hentry

theorem exists_mem_ofActive_of_isVerb {command : Key} {words : List String}
    (h : registry.IsVerb active command words) :
    ∃ entry ∈ (ofActive registry active).entries, entry.words = words := by
  obtain ⟨hactive, hnonempty, entity, record, hget, hkind, phrase, hphrase, rfl⟩ := h
  obtain rfl := Registry.key_of_get? hget
  exact exists_mem_ofActive (Registry.mem_of_get? hget) hkind hactive hphrase hnonempty

theorem knows_ofActive_iff {tokens : List Token} :
    (ofActive registry active).Knows tokens ↔ registry.StartsWithVerb active tokens := by
  constructor
  · rintro ⟨entry, hentry, hstarts⟩
    exact ⟨entry.command, entry.words, isVerb_of_mem_ofActive hentry, hstarts⟩
  · rintro ⟨command, words, hverb, hstarts⟩
    obtain ⟨entry, hentry, rfl⟩ := exists_mem_ofActive_of_isVerb hverb
    exact ⟨entry, hentry, hstarts⟩

/-- What is found at the start of a line is a verb with which it starts, and no other one that
starts it has more words. -/
theorem verb_of_lookup {tokens : List Token} {verb : VerbMatch}
    (h : (ofActive registry active).lookup tokens = some verb) :
    ∃ words, registry.IsVerb active verb.command words ∧ words.length = verb.consumed ∧
      words.map Token.word <+: tokens ∧
      ∀ command others, registry.IsVerb active command others →
        others.map Token.word <+: tokens → others.length ≤ words.length := by
  obtain ⟨best, hbest, hlookup⟩ := (ofActive registry active).exists_isBest tokens
  rw [h] at hlookup
  obtain ⟨entry, rfl, rfl⟩ := Option.map_eq_some_iff.mp hlookup.symm
  obtain ⟨hentry, hstarts, hlongest⟩ := hbest
  refine ⟨entry.words, isVerb_of_mem_ofActive hentry, rfl,
    VerbEntry.matchesStart_iff_isPrefix.mp hstarts, fun command others hothers hprefix => ?_⟩
  obtain ⟨other, hother, rfl⟩ := exists_mem_ofActive_of_isVerb hothers
  exact hlongest other hother (VerbEntry.matchesStart_iff_isPrefix.mpr hprefix)

end VerbTable

/-! ## Prepositions -/

/-- Whether a division parts tokens at the first one that is an unquoted preposition, or leaves
them whole because there is none. -/
inductive Division.Parts (prepositions : List String) : List Token → Division → Prop where
  | whole {tokens : List Token}
      (h : ∀ token ∈ tokens, ∀ word ∈ prepositions, token ≠ .word word) :
      Parts prepositions tokens ⟨tokens, none, []⟩
  | apart {direct indirect : List Token} {word : String} (hword : word ∈ prepositions)
      (h : ∀ token ∈ direct, ∀ word ∈ prepositions, token ≠ .word word) :
      Parts prepositions (direct ++ .word word :: indirect) ⟨direct, some word, indirect⟩

namespace Division

variable {prepositions : List String}

theorem any_isWord_iff {token : Token} :
    prepositions.any token.isWord = true ↔ ∃ word ∈ prepositions, token = .word word := by
  simp only [List.any_eq_true, Token.isWord, beq_iff_eq]

theorem parts_ofTokens (prepositions : List String) (tokens : List Token) :
    Parts prepositions tokens (ofTokens prepositions tokens) := by
  induction tokens with
  | nil => exact .whole nofun
  | cons token rest ih =>
      rw [ofTokens]
      split
      next hdivides =>
        obtain ⟨word, hword, rfl⟩ := any_isWord_iff.mp hdivides
        have hnone : ∀ token ∈ ([] : List Token), ∀ word ∈ prepositions, token ≠ .word word := nofun
        exact .apart hword hnone
      next hpassed =>
        have hfirst : ∀ word ∈ prepositions, token ≠ .word word := fun word hword heq =>
          hpassed (any_isWord_iff.mpr ⟨word, hword, heq⟩)
        dsimp only
        generalize ofTokens prepositions rest = division at ih
        cases ih with
        | whole h => exact .whole (List.forall_mem_cons.mpr ⟨hfirst, h⟩)
        | apart hword h => exact .apart hword (List.forall_mem_cons.mpr ⟨hfirst, h⟩)

/-- Put together again, the parts are all the tokens. -/
theorem Parts.eq_append {tokens : List Token} {division : Division}
    (h : Parts prepositions tokens division) :
    tokens = division.direct ++ division.preposition.toList.map Token.word ++
      division.indirect := by
  cases h with
  | whole h => simp
  | apart hword h => simp

end Division

/-! ## Quantities -/

/-- Whether taking the quantity of a phrase takes nothing but the number that it starts with. -/
structure NounPhrase.Takes (tokens : List Token) (number : Option Token) (direct : List Token) :
    Prop where
  eq_append : tokens = number.toList ++ direct
  phrase : (ofTokens tokens).takeQuantity.2 = ofTokens direct
  isSome : (ofTokens tokens).takeQuantity.1.isSome = number.isSome
  reads : ∀ token ∈ number,
    Text.readSigned? token.text = some ((ofTokens tokens).takeQuantity.1.getD 1)
  noNumber : number = none → (ofTokens tokens).takeQuantity.1 = none ∧
    ∀ token ∈ direct.head?, Text.readSigned? token.text = none

theorem NounPhrase.exists_takes (tokens : List Token) :
    ∃ number direct, Takes tokens number direct := by
  have hnone : ∀ {P : Token → Prop}, ∀ token ∈ (none : Option Token), P token :=
    fun token htoken => absurd htoken (Option.not_mem_none token)
  cases tokens with
  | nil => exact ⟨none, [], rfl, rfl, rfl, hnone, fun _ => ⟨rfl, hnone⟩⟩
  | cons first rest =>
      cases hnumber : Text.readSigned? first.text with
      | none =>
          have htaken : (ofTokens (first :: rest)).takeQuantity =
              (none, ofTokens (first :: rest)) := by
            simp only [ofTokens, Token.texts, List.map_cons, takeQuantity, hnumber]
          refine ⟨none, first :: rest, rfl, ?_, ?_, hnone, fun _ => ⟨?_, ?_⟩⟩
          · rw [htaken]
          · rw [htaken]
            rfl
          · rw [htaken]
          · intro token htoken
            rw [← Option.some.inj htoken, hnumber]
      | some quantity =>
          have htaken : (ofTokens (first :: rest)).takeQuantity =
              (some quantity, ofTokens rest) := by
            simp only [ofTokens, Token.texts, List.map_cons, takeQuantity, hnumber]
          refine ⟨some first, rest, rfl, ?_, ?_, ?_, fun h => absurd h (Option.some_ne_none first)⟩
          · rw [htaken]
          · rw [htaken]
            rfl
          · intro token htoken
            rw [← Option.some.inj htoken, hnumber, htaken, Option.getD_some]

/-! ## Spellings -/

/-- The tokens of a line by what they stand for. -/
structure Spelling where
  verb : List String
  number : Option Token
  direct : List Token
  preposition : Option String
  indirect : List Token
  deriving DecidableEq, Repr

namespace Spelling

/-- What stands before the preposition. -/
def counted (spelling : Spelling) : List Token :=
  spelling.number.toList ++ spelling.direct

def rest (spelling : Spelling) : List Token :=
  spelling.counted ++ spelling.preposition.toList.map Token.word ++ spelling.indirect

def tokens (spelling : Spelling) : List Token :=
  spelling.verb.map Token.word ++ spelling.rest

end Spelling

/-- What it means that an operation is spelled by some tokens: each of them is accounted for, and
nothing in the operation is made of anything else. -/
structure Operation.IsSpelled (registry : Registry) (active : List Key) (operation : Operation)
    (spelling : Spelling) : Prop where
  isVerb : registry.IsVerb active operation.command spelling.verb
  longest : ∀ command words, registry.IsVerb active command words →
    words.map Token.word <+: spelling.tokens → words.length ≤ spelling.verb.length
  tokens : operation.tokens = Token.texts spelling.tokens
  verb : operation.segment 0 = Text.unwords spelling.verb
  rest : operation.segment 2 = Text.unwords (Token.texts spelling.rest)
  directPhrase : operation.directPhrase = NounPhrase.ofTokens spelling.direct
  preposition : operation.preposition = spelling.preposition
  indirectPhrase : operation.indirectPhrase = NounPhrase.ofTokens spelling.indirect
  /-- The preposition is the first one of the command's, and without any there is no indirect
  phrase. -/
  parts : Division.Parts (Reading.prepositionsOf registry operation.command) spelling.rest
    ⟨spelling.counted, spelling.preposition, spelling.indirect⟩
  isExplicit : operation.isExplicit = spelling.number.isSome
  quantity : ∀ token ∈ spelling.number, Text.readSigned? token.text = some operation.quantity
  uncounted : spelling.number = none → operation.quantity = 1 ∧
    ∀ token ∈ spelling.direct.head?, Text.readSigned? token.text = none

namespace Reading

variable {registry : Registry} {active : List Key}

/-- Whatever verb is found, the operation is spelled by all the tokens. -/
theorem exists_isSpelled {tokens : List Token} {verb : VerbMatch}
    (h : (VerbTable.ofActive registry active).lookup tokens = some verb) (actor : Key)
    (line : String) :
    ∃ spelling : Spelling, tokens = spelling.tokens ∧
      (operationOf registry actor line tokens verb).IsSpelled registry active spelling := by
  obtain ⟨words, hverb, hconsumed, ⟨rest, rfl⟩, hlongest⟩ := VerbTable.verb_of_lookup h
  have hlength : (words.map Token.word).length = verb.consumed := by
    rw [List.length_map, hconsumed]
  have htake : (words.map Token.word ++ rest).take verb.consumed = words.map Token.word :=
    List.take_left' hlength
  have hdrop : (words.map Token.word ++ rest).drop verb.consumed = rest :=
    List.drop_left' hlength
  have hparts := Division.parts_ofTokens (prepositionsOf registry verb.command) rest
  have hwhole := hparts.eq_append
  generalize hdivision : Division.ofTokens (prepositionsOf registry verb.command) rest =
    division at hparts hwhole
  obtain ⟨before, preposition, indirect⟩ := division
  obtain ⟨number, direct, htakes⟩ := NounPhrase.exists_takes before
  obtain rfl := htakes.eq_append
  have hrest : rest = (Spelling.mk words number direct preposition indirect).rest := hwhole
  refine ⟨⟨words, number, direct, preposition, indirect⟩, ?_, ?_⟩
  · rw [Spelling.tokens, ← hrest]
  · constructor
    case isVerb => exact hverb
    case longest =>
      intro command others hothers hstarts
      rw [Spelling.tokens, ← hrest] at hstarts
      exact hlongest command others hothers hstarts
    case tokens => simp only [operationOf, Spelling.tokens, ← hrest]
    case verb => simp only [Operation.segment, operationOf, htake, joined, Token.texts_map_word]
    case rest => simp only [Operation.segment, operationOf, hdrop, joined, ← hrest]
    case directPhrase => simp only [operationOf, hdrop, hdivision, htakes.phrase]
    case preposition => simp only [operationOf, hdrop, hdivision]
    case indirectPhrase => simp only [operationOf, hdrop, hdivision]
    case parts =>
      rw [← hrest]
      exact hparts
    case isExplicit => simp only [operationOf, hdrop, hdivision, htakes.isSome]
    case quantity =>
      intro token htoken
      simp only [operationOf, hdrop, hdivision]
      exact htakes.reads token htoken
    case uncounted =>
      intro hnone
      obtain ⟨htaken, hunread⟩ := htakes.noNumber hnone
      simp only [operationOf, hdrop, hdivision, htaken, Option.getD_none]
      exact ⟨trivial, hunread⟩

/-- Every line is read in one of three ways.  A blank line is empty; of a line that starts with no
active verb the first word is reported; and any other line is an operation that is spelled by its
tokens. -/
theorem ofLine_spells (registry : Registry) (active : List Key) (actor : Key) (line : String) :
    (ofLine registry active actor line = .empty ↔
        ∀ c ∈ line.toList, Text.isBlank c = true) ∧
      (∀ word, ofLine registry active actor line = .unrecognized word ↔
        ¬ (∀ c ∈ line.toList, Text.isBlank c = true) ∧
          ¬ registry.StartsWithVerb active (Token.ofLine line) ∧
          (Token.ofLine line).head?.map Token.text = some word) ∧
      (¬ (∀ c ∈ line.toList, Text.isBlank c = true) →
        registry.StartsWithVerb active (Token.ofLine line) →
        ∃ operation spelling, ofLine registry active actor line = .parsed operation ∧
          Token.ofLine line = spelling.tokens ∧
          operation.IsSpelled registry active spelling) := by
  rw [← Token.ofLine_eq_nil_iff, ← VerbTable.knows_ofActive_iff, ofLine, withVerbs]
  cases htokens : Token.ofLine line with
  | nil => simp
  | cons first rest =>
      dsimp only
      cases hverb : (VerbTable.ofActive registry active).lookup (first :: rest) with
      | none =>
          have hunknown := VerbTable.lookup_eq_none_iff.mp hverb
          simp [hunknown]
      | some verb =>
          obtain ⟨words, hwords, -, hstarts, -⟩ := VerbTable.verb_of_lookup hverb
          have hknown := VerbTable.knows_ofActive_iff.mpr ⟨_, words, hwords, hstarts⟩
          obtain ⟨spelling, hspelling, hspelled⟩ := exists_isSpelled hverb actor line
          refine ⟨by simp, by simp [hknown], fun _ _ => ⟨_, spelling, rfl, hspelling, hspelled⟩⟩

end Reading

end TextAdventure
