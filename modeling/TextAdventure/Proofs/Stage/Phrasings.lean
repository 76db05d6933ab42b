import TextAdventure.Proofs.Input.Prepositions
import TextAdventure.Proofs.Stage.Synonyms

/-!
# Two phrasings of one command

Somebody can be talked to, and a place can be gone to, with or without the preposition in between.
The phrase is the direct one on one path and the indirect one on the other, but both commands look
at either of them in the same way, and everything that comes after them only knows the command.
-/

namespace TextAdventure

/-! ## Verbs that are a whole phrase -/

namespace VerbTable

/-- Whether a phrase is taken from the start of a line as the verb of a command, the whole phrase
and nothing besides. -/
def TakesPhrase (table : VerbTable) (command : Key) (phrase line : String) : Prop :=
  ∃ verb, table.lookup (Token.ofLine line) = some verb ∧ verb.command = command ∧
    (Token.ofLine line).take verb.consumed = (Text.lowerWords phrase).map Token.word

variable {registry : Registry} {active : List Key} {command : Key} {phrase : String}

theorem TakesPhrase.isPlain {table : VerbTable} {line : String}
    (h : table.TakesPhrase command phrase line) : Text.IsPlain phrase.toList := by
  obtain ⟨verb, -, -, htaken⟩ := h
  refine Text.isPlain_of_lowerWords fun text htext => ?_
  have hmem : Token.word text ∈ (Token.ofLine line).take verb.consumed :=
    htaken ▸ List.mem_map_of_mem htext
  exact Text.isPlain_of_isTypeable
    (Token.isTypedWord_of_word_mem (List.mem_of_mem_take hmem)).typeable

/-- What follows a phrase that is taken as the verb is read as if it stood alone. -/
theorem TakesPhrase.exists_rest {texts : List String}
    (hunquoted : ∀ text ∈ texts, '"' ∉ text.toList) {last : String}
    (h : (ofActive registry active).TakesPhrase command phrase
      (Text.unwords (phrase :: (texts ++ [last])))) :
    ∃ verb, (ofActive registry active).lookup
        (Token.ofLine (Text.unwords (phrase :: (texts ++ [last])))) = some verb ∧
      verb.command = command ∧
      (Token.ofLine (Text.unwords (phrase :: (texts ++ [last])))).drop verb.consumed =
        texts.flatMap Token.ofLine ++ Token.ofLine last := by
  have hplain := h.isPlain
  have htokens := Token.ofLine_unwords
    (List.forall_mem_cons.mpr ⟨hplain.unquoted, hunquoted⟩) last
  rw [List.cons_append, List.flatMap_cons, Token.ofLine_of_isPlain hplain,
    List.append_assoc] at htokens
  obtain ⟨verb, hlookup, hcommand, htaken⟩ := h
  refine ⟨verb, hlookup, hcommand, ?_⟩
  have hsplit := List.take_append_drop verb.consumed
    (Token.ofLine (Text.unwords (phrase :: (texts ++ [last]))))
  rw [htaken] at hsplit
  exact List.append_cancel_left (hsplit.trans htokens)

end VerbTable

/-! ## Addressees -/

namespace Operation

/-- The phrase that is looked at when there may be a preposition before it, and what it denotes. -/
def addressee (operation : Operation) : NounPhrase × Option Key :=
  if operation.directPhrase.isEmpty then (operation.indirectPhrase, operation.indirect)
  else (operation.directPhrase, operation.direct)

theorem addressee_fst (operation : Operation) :
    operation.addressee.1 =
      if operation.directPhrase.isEmpty then operation.indirectPhrase
      else operation.directPhrase :=
  apply_ite Prod.fst ..

theorem addressee_snd (operation : Operation) :
    operation.addressee.2 =
      if operation.directPhrase.isEmpty then operation.indirect else operation.direct :=
  apply_ite Prod.snd ..

end Operation

namespace Reading

/-- The phrase that is made of tokens, and what it denotes for an actor. -/
def denoted (registry : Registry) (actor : Key) (tokens : List Token) : NounPhrase × Option Key :=
  (NounPhrase.ofTokens tokens,
    ((Scope.ofActor registry actor).resolve registry (NounPhrase.ofTokens tokens)).map Prod.fst)

variable {registry : Registry} {tokens rest : List Token} {verb : VerbMatch}

theorem addressee_of_whole (hrest : tokens.drop verb.consumed = rest)
    (hundivided : ∀ token ∈ rest, ∀ word ∈ prepositionsOf registry verb.command,
      token ≠ .word word)
    (huncounted : ∀ token ∈ rest.head?, Text.readSigned? token.text = none) (actor : Key)
    (line : String) :
    (operationOf registry actor line tokens verb).addressee = denoted registry actor rest := by
  have hcounted : (NounPhrase.ofTokens rest).takeQuantity.2 = NounPhrase.ofTokens rest := by
    refine NounPhrase.takeQuantity_of_uncounted fun first hfirst => ?_
    rw [NounPhrase.ofTokens, Token.texts, List.head?_map] at hfirst
    obtain ⟨token, htoken, rfl⟩ := Option.map_eq_some_iff.mp hfirst
    exact huncounted token htoken
  simp only [Operation.addressee, operationOf, hrest, Division.ofTokens_whole hundivided, hcounted]
  -- A missing phrase is missing on both sides of a preposition.
  split
  next hempty =>
    have hnone : rest = [] := List.map_eq_nil_iff.mp (List.isEmpty_iff.mp hempty)
    rw [hnone, denoted]
  next => rfl

theorem addressee_of_apart {word : String}
    (hrest : tokens.drop verb.consumed = .word word :: rest)
    (hword : word ∈ prepositionsOf registry verb.command) (actor : Key) (line : String) :
    (operationOf registry actor line tokens verb).addressee = denoted registry actor rest := by
  have hnone : ∀ token ∈ ([] : List Token), ∀ other ∈ prepositionsOf registry verb.command,
      token ≠ .word other := nofun
  have hdivision := Division.ofTokens_apart hnone hword rest
  rw [List.nil_append] at hdivision
  simp only [Operation.addressee, operationOf, hrest, hdivision]
  rfl

section

variable {active : List Key} {command : Key} {record : Command} {phrase rest : String}

theorem exists_parsed_without (hrecord : registry.command? command = some record)
    (hundivided : ∀ token ∈ Token.ofLine rest, ∀ word ∈ record.prepositions, token ≠ .word word)
    (huncounted : ∀ token ∈ (Token.ofLine rest).head?, Text.readSigned? token.text = none)
    (htakes : (VerbTable.ofActive registry active).TakesPhrase command phrase
      (Text.unwords [phrase, rest])) (actor : Key) :
    ∃ operation, ofLine registry active actor (Text.unwords [phrase, rest]) = .parsed operation ∧
      operation.command = command ∧
      operation.addressee = denoted registry actor (Token.ofLine rest) := by
  have hnone : ∀ text ∈ ([] : List String), '"' ∉ text.toList := nofun
  obtain ⟨verb, hlookup, rfl, hrest⟩ := VerbTable.TakesPhrase.exists_rest hnone htakes
  refine ⟨_, ofLine_of_lookup hlookup actor, rfl, addressee_of_whole hrest ?_ huncounted actor _⟩
  rw [prepositionsOf, hrecord]
  exact hundivided

theorem exists_parsed_with (hrecord : registry.command? command = some record) {word : String}
    (hword : word ∈ record.prepositions) (htyped : Text.IsTypedWord word)
    (htakes : (VerbTable.ofActive registry active).TakesPhrase command phrase
      (Text.unwords [phrase, word, rest])) (actor : Key) :
    ∃ operation, ofLine registry active actor (Text.unwords [phrase, word, rest]) =
        .parsed operation ∧
      operation.command = command ∧
      operation.addressee = denoted registry actor (Token.ofLine rest) := by
  have hunquoted : ∀ text ∈ [word], '"' ∉ text.toList :=
    List.forall_mem_singleton.mpr (Text.isPlain_of_isTypeable htyped.typeable).unquoted
  obtain ⟨verb, hlookup, rfl, hrest⟩ := VerbTable.TakesPhrase.exists_rest hunquoted htakes
  rw [List.flatMap_singleton, Token.ofLine_of_isTypedWord htyped] at hrest
  refine ⟨_, ofLine_of_lookup hlookup actor, rfl, addressee_of_apart hrest ?_ actor _⟩
  rw [prepositionsOf, hrecord]
  exact hword

end

end Reading

/-! ## Commands that look at the addressee -/

section

variable {left right : Operation}

theorem World.address_congr (h : left.addressee = right.addressee) (world : World) :
    world.address left = world.address right := by
  unfold World.address
  simp only [← Operation.addressee_fst, ← Operation.addressee_snd, h]

theorem World.go_congr (h : left.addressee = right.addressee) (world : World) :
    world.go left = world.go right := by
  unfold World.go
  simp only [← Operation.addressee_fst, h]

namespace Activity

theorem runBehavior_congr (handlers : Handlers) (h : left.addressee = right.addressee)
    {behavior : Behavior} (hbehavior : behavior = .talk ∨ behavior = .go) :
    runBehavior handlers left behavior = runBehavior handlers right behavior := by
  rcases hbehavior with rfl | rfl
  · simp only [runBehavior, talk, World.address_congr h]
  · simp only [runBehavior, World.go_congr h]

theorem perform_run_congr (handlers : Handlers) (hcommand : left.command = right.command)
    (haddressee : left.addressee = right.addressee) {stage : Stage} {record : Command}
    (hrecord : stage.session.world.registry.command? left.command = some record)
    (hbehavior : record.behavior = .talk ∨ record.behavior = .go) :
    (run handlers left).perform stage = (run handlers right).perform stage := by
  rw [perform_run_of_command? handlers hrecord, runBehavior_congr handlers haddressee hbehavior,
    perform_run_of_command? handlers (hcommand ▸ hrecord)]

/-- With `to` among the prepositions of a command that talks or goes, it makes no difference for a
turn whether it is typed between the verb and a phrase, neither for what it comes to nor for the
stage afterwards.  The phrase may be anything that is not divided itself and starts with no number,
as long as the same words are taken as the verb with it and without it. -/
theorem turn_with_or_without_to (handlers : Handlers) (stage : Stage) {command : Key}
    {record : Command} (hrecord : stage.session.world.registry.command? command = some record)
    (hbehavior : record.behavior = .talk ∨ record.behavior = .go)
    (hto : "to" ∈ record.prepositions) {verb phrase : String}
    (hundivided : ∀ token ∈ Token.ofLine phrase, ∀ word ∈ record.prepositions, token ≠ .word word)
    (huncounted : ∀ token ∈ (Token.ofLine phrase).head?, Text.readSigned? token.text = none)
    (hwithout : (VerbTable.ofActive stage.session.world.registry
      stage.session.world.active).TakesPhrase command verb (Text.unwords [verb, phrase]))
    (hwith : (VerbTable.ofActive stage.session.world.registry
      stage.session.world.active).TakesPhrase command verb (Text.unwords [verb, "to", phrase])) :
    (turn handlers (Text.unwords [verb, phrase])).perform stage =
      (turn handlers (Text.unwords [verb, "to", phrase])).perform stage := by
  have htyped : Text.IsTypedWord "to" :=
    ⟨by decide +kernel, Text.isRun_iff_any.mpr (by decide), by decide +kernel⟩
  obtain ⟨left, hleft, hleftCommand, hleftAddressee⟩ := Reading.exists_parsed_without hrecord
    hundivided huncounted hwithout stage.session.world.player
  obtain ⟨right, hright, hrightCommand, hrightAddressee⟩ :=
    Reading.exists_parsed_with hrecord hto htyped hwith stage.session.world.player
  have hcommand : left.command = right.command := hleftCommand.trans hrightCommand.symm
  have haddressee := hleftAddressee.trans hrightAddressee.symm
  rw [perform_turn_of_reading handlers hleft, perform_turn_of_reading handlers hright]
  split
  · rfl
  · have hrun : (run handlers left).perform stage.running =
        (run handlers right).perform stage.running :=
      perform_run_congr handlers hcommand haddressee (hleftCommand ▸ hrecord) hbehavior
    exact perform_runTurn_congr handlers hcommand hrun

/-- Somebody stands in front of a guard, and knows two ways to talk. -/
def gateStage : Stage where
  session :=
    { Session.fresh with
      world :=
        { World.empty with
          registry := Registry.Request.run
            [ .create (Entity.location "Gate") rfl,
              .create (Entity.pawn "Herald" "Gate" Weight.zero) rfl,
              .create (Entity.pawn "Night guard" "Gate" Weight.zero) rfl,
              .create (((Entity.action "talk" "t" .talk).withAlias "Speak up").withPreposition
                "to") rfl ]
          active := [⟨"talk"⟩]
          player := ⟨"herald"⟩ } }
  terminal := .scripted (Script.ofLines [])
  store := .slots Slots.empty

def gateVerbs : VerbTable :=
  VerbTable.ofActive gateStage.session.world.registry gateStage.session.world.active

/-- Two words are the verb, and a quotation is part of the phrase. -/
theorem turn_with_or_without_to_speak_up :
    gateVerbs.TakesPhrase ⟨"talk"⟩ "Speak up" "Speak up the \"Night\" guard!" ∧
      gateVerbs.TakesPhrase ⟨"talk"⟩ "Speak up" "Speak up to the \"Night\" guard!" ∧
      (turn [] "Speak up the \"Night\" guard!").perform gateStage =
        (turn [] "Speak up to the \"Night\" guard!").perform gateStage := by
  have hrecord : gateStage.session.world.registry.command? ⟨"talk"⟩ =
      some ⟨"t", .talk, some ⟨["Speak up"], ["to"]⟩, ""⟩ := by decide +kernel
  have hundivided : ∀ token ∈ Token.ofLine "the \"Night\" guard!", ∀ word ∈ ["to"],
      token ≠ .word word := by decide +kernel
  have huncounted : ∀ token ∈ (Token.ofLine "the \"Night\" guard!").head?,
      Text.readSigned? token.text = none := by decide +kernel
  have hwithoutLine : Text.unwords ["Speak up", "the \"Night\" guard!"] =
      "Speak up the \"Night\" guard!" := by decide +kernel
  have hwithLine : Text.unwords ["Speak up", "to", "the \"Night\" guard!"] =
      "Speak up to the \"Night\" guard!" := by decide +kernel
  have hwithout : gateVerbs.TakesPhrase ⟨"talk"⟩ "Speak up" "Speak up the \"Night\" guard!" :=
    ⟨⟨⟨"talk"⟩, 2, .alternative⟩, by decide +kernel, rfl, by decide +kernel⟩
  have hwith : gateVerbs.TakesPhrase ⟨"talk"⟩ "Speak up" "Speak up to the \"Night\" guard!" :=
    ⟨⟨⟨"talk"⟩, 2, .alternative⟩, by decide +kernel, rfl, by decide +kernel⟩
  have hsame := turn_with_or_without_to [] gateStage hrecord (Or.inl rfl)
    (List.mem_singleton.mpr rfl) hundivided huncounted (hwithoutLine.symm ▸ hwithout)
    (hwithLine.symm ▸ hwith)
  rw [hwithoutLine, hwithLine] at hsame
  exact ⟨hwithout, hwith, hsame⟩

end Activity

end

end TextAdventure
