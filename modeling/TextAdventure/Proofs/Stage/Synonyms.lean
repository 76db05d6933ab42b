import TextAdventure.Proofs.Input.CommandWords
import TextAdventure.Proofs.Stage.ParallelTurns

/-!
# Synonymous lines

Which phrase of a command was typed is kept in an operation, but no command of the game itself
looks at it, and neither does a condition.  Lines that invoke the same command and go on alike
are played alike, to the last field of the stage.
-/

namespace TextAdventure

/-! ## Operations of the same command -/

section

variable {left right : Operation}

theorem Predicate.holds_congr (hcommand : left.command = right.command) (world : World)
    (predicate : Predicate) :
    predicate.holds world (some left) = predicate.holds world (some right) := by
  cases predicate with
  | commandIs command => exact congrArg (fun key => key == command) hcommand
  | _ => rfl

theorem World.meets_congr (hcommand : left.command = right.command) (world : World) :
    world.meets (some left) = world.meets (some right) := by
  funext condition
  unfold World.meets
  simp only [Predicate.holds_congr hcommand]

namespace Activity

theorem runEvent_congr (hcommand : left.command = right.command) :
    runEvent (some left) = runEvent (some right) := by
  funext report key
  unfold runEvent
  simp only [World.meets_congr hcommand]

theorem runEvents_congr (hcommand : left.command = right.command) (report : Report)
    (keys : List Key) : runEvents (some left) report keys = runEvents (some right) report keys := by
  induction keys generalizing report with
  | nil => rfl
  | cons key rest ih => simp only [runEvents, runEvent_congr hcommand, ih]

theorem finishTurn_congr (hcommand : left.command = right.command) :
    finishTurn left = finishTurn right := by
  simp only [finishTurn, sweep, sweepAll, runEvents_congr hcommand]

theorem perform_runTurn (handlers : Handlers) (operation : Operation) (stage : Stage) :
    (runTurn handlers operation).perform stage =
      (do
        endingIdle (run handlers operation)
        let report ← finishTurn operation
        flush
        return Outcome.ran operation.command report : Activity Outcome).perform stage.running :=
  rfl

/-- What follows the command in a turn depends on which command it was, and on nothing else of the
operation. -/
theorem perform_runTurn_congr (handlers : Handlers) (hcommand : left.command = right.command)
    {stage : Stage} (hrun : (run handlers left).perform stage.running =
      (run handlers right).perform stage.running) :
    (runTurn handlers left).perform stage = (runTurn handlers right).perform stage := by
  have hended : (endingIdle (run handlers left)).perform stage.running =
      (endingIdle (run handlers right)).perform stage.running :=
    congrArg (fun outcome => (outcome.1, idled outcome.2)) hrun
  rw [perform_runTurn, perform_runTurn, perform_bind, perform_bind, hended,
    finishTurn_congr hcommand, hcommand]

end Activity

end

/-! ## Operations without the words that invoked them -/

/-- The operation without its line, its tokens and its verb as they were typed. -/
def Operation.unworded (operation : Operation) : Operation :=
  { operation with input := "", tokens := [], verb := "" }

namespace Activity

/-- Only a command with a handler of its own could tell. -/
theorem runBehavior_unworded (handlers : Handlers) (operation : Operation) {behavior : Behavior}
    (h : behavior.isBuiltIn = true) :
    runBehavior handlers operation.unworded behavior = runBehavior handlers operation behavior := by
  cases behavior with
  | custom name => cases h
  | _ => rfl

theorem perform_run_unworded (handlers : Handlers) {operation : Operation} {stage : Stage}
    (h : stage.session.world.registry.HasBuiltIn operation.command) :
    (run handlers operation.unworded).perform stage = (run handlers operation).perform stage := by
  rw [run, run, perform_bind, perform_bind, perform_session]
  dsimp only
  rw [show operation.unworded.command = operation.command from rfl]
  split
  · rfl
  next command hcommand => rw [runBehavior_unworded handlers operation (h command hcommand)]

theorem perform_runTurn_unworded (handlers : Handlers) {operation : Operation} {stage : Stage}
    (h : stage.session.world.registry.HasBuiltIn operation.command) :
    (runTurn handlers operation.unworded).perform stage =
      (runTurn handlers operation).perform stage := by
  have hcommand : operation.unworded.command = operation.command := rfl
  have hrun : (run handlers operation.unworded).perform stage.running =
      (run handlers operation).perform stage.running := perform_run_unworded handlers h
  exact perform_runTurn_congr handlers hcommand hrun

end Activity

/-! ## Readings of synonymous lines -/

namespace Reading

/-- After the verb an operation only depends on the tokens that follow it. -/
theorem unworded_operationOf {leftVerb rightVerb : VerbMatch} {leftTokens rightTokens : List Token}
    (hcommand : leftVerb.command = rightVerb.command)
    (hrest : leftTokens.drop leftVerb.consumed = rightTokens.drop rightVerb.consumed)
    (registry : Registry) (actor : Key) (left right : String) :
    (operationOf registry actor left leftTokens leftVerb).unworded =
      (operationOf registry actor right rightTokens rightVerb).unworded := by
  simp only [operationOf, Operation.unworded, hcommand, hrest]

end Reading

namespace Activity

/-! ## Turns -/

theorem perform_turn_of_reading (handlers : Handlers) {stage : Stage} {line : String}
    {operation : Operation} (h : stage.session.reading line = .parsed operation) :
    (turn handlers line).perform stage =
      if stage.session.isFinished then (.ok .ignored, stage)
      else (runTurn handlers operation).perform stage := by
  rw [turn, perform_bind, perform_session]
  dsimp only
  split
  · rfl
  · rw [h]

/-- Two lines whose verbs invoke the same command of the game itself, and which go on with the
same tokens, come to the same result on the same stage: the same outcome or fault, and the same
session, terminal and store. -/
theorem turn_synonymous_lines (handlers : Handlers) (stage : Stage) {left right : String}
    {leftVerb rightVerb : VerbMatch}
    (hleft : (VerbTable.ofActive stage.session.world.registry stage.session.world.active).lookup
      (Token.ofLine left) = some leftVerb)
    (hright : (VerbTable.ofActive stage.session.world.registry stage.session.world.active).lookup
      (Token.ofLine right) = some rightVerb)
    (hcommand : leftVerb.command = rightVerb.command)
    (hrest : (Token.ofLine left).drop leftVerb.consumed =
      (Token.ofLine right).drop rightVerb.consumed)
    (hbuiltIn : stage.session.world.registry.HasBuiltIn leftVerb.command) :
    (turn handlers left).perform stage = (turn handlers right).perform stage := by
  have htwin : stage.session.world.registry.HasBuiltIn rightVerb.command := hcommand ▸ hbuiltIn
  have hsame := Reading.unworded_operationOf hcommand hrest stage.session.world.registry
    stage.session.world.player left right
  rw [perform_turn_of_reading handlers (Reading.ofLine_of_lookup hleft _),
    perform_turn_of_reading handlers (Reading.ofLine_of_lookup hright _)]
  split
  · rfl
  · rw [← perform_runTurn_unworded handlers hbuiltIn, hsame,
      perform_runTurn_unworded handlers htwin]

/-- Somebody can pick things, and can get them by picking them up. -/
def pickStage : Stage where
  session :=
    { Session.fresh with
      world :=
        { World.empty with
          registry := Registry.Request.run Reading.pickRequests
          active := [⟨"pick"⟩, ⟨"get"⟩] } }
  terminal := .scripted (Script.ofLines [])
  store := .slots Slots.empty

def pickVerbs : VerbTable :=
  VerbTable.ofActive pickStage.session.world.registry pickStage.session.world.active

/-- The hotkey takes one token and the alias takes two. -/
theorem turn_synonymous_lines_pick_up :
    pickVerbs.lookup (Token.ofLine "g 2 Figs") = some ⟨⟨"get"⟩, 1, .hotkey⟩ ∧
      pickVerbs.lookup (Token.ofLine "PICK uP 2 figs") = some ⟨⟨"get"⟩, 2, .alternative⟩ ∧
      (Token.ofLine "g 2 Figs").drop 1 = (Token.ofLine "PICK uP 2 figs").drop 2 ∧
      pickStage.session.world.registry.HasBuiltIn ⟨"get"⟩ ∧
      (turn [] "g 2 Figs").perform pickStage = (turn [] "PICK uP 2 figs").perform pickStage := by
  have hhotkey : pickVerbs.lookup (Token.ofLine "g 2 Figs") =
      some ⟨⟨"get"⟩, 1, .hotkey⟩ := by decide +kernel
  have halias : pickVerbs.lookup (Token.ofLine "PICK uP 2 figs") =
      some ⟨⟨"get"⟩, 2, .alternative⟩ := by decide +kernel
  have hrest : (Token.ofLine "g 2 Figs").drop 1 = (Token.ofLine "PICK uP 2 figs").drop 2 := by
    decide +kernel
  have hbehavior : (pickStage.session.world.registry.command? ⟨"get"⟩).all
      (fun command => command.behavior.isBuiltIn) = true := by decide +kernel
  have hbuiltIn : pickStage.session.world.registry.HasBuiltIn ⟨"get"⟩ := by
    intro command hcommand
    rwa [hcommand] at hbehavior
  exact ⟨hhotkey, halias, hrest, hbuiltIn,
    turn_synonymous_lines [] pickStage hhotkey halias rfl hrest hbuiltIn⟩

end Activity

end TextAdventure
