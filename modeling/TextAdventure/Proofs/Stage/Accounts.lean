import TextAdventure.Proofs.Input.Verbs
import TextAdventure.Proofs.Rulebook.Runs
import TextAdventure.Proofs.Stage.Sweeps

/-!
# The account of a turn

Which answer a line gets, and what it costs: a finished game answers to nothing, a line without
a known verb costs no turn, and a command costs one turn with one sweep unless it has put
another world in place of the one in play.
-/

namespace TextAdventure

namespace Session

variable {session : Session} {line : String}

/-- Whether a line starts with the words of an active command. -/
def Knows (session : Session) (line : String) : Prop :=
  (VerbTable.ofActive session.world.registry session.world.active).Knows (Token.ofLine line)

theorem reading_of_blank (h : Token.ofLine line = []) : session.reading line = .empty := by
  rw [reading, Reading.ofLine, Reading.withVerbs, h]

theorem reading_of_unknown {first : Token} {rest : List Token}
    (h : Token.ofLine line = first :: rest) (hunknown : ¬ session.Knows line) :
    session.reading line = .unrecognized first.text := by
  rw [Knows, h] at hunknown
  rw [reading, Reading.ofLine, Reading.withVerbs, h]
  dsimp only
  rw [VerbTable.lookup_eq_none_iff.mpr hunknown]

theorem exists_reading_of_knows (h : Token.ofLine line ≠ []) (hknows : session.Knows line) :
    ∃ operation, session.reading line = .parsed operation := by
  obtain ⟨first, rest, hline⟩ := List.exists_cons_of_ne_nil h
  rw [Knows, hline] at hknows
  rw [reading, Reading.ofLine, Reading.withVerbs, hline]
  dsimp only
  cases hverb : (VerbTable.ofActive session.world.registry session.world.active).lookup
      (first :: rest) with
  | none => exact absurd hknows (VerbTable.lookup_eq_none_iff.mp hverb)
  | some verb => exact ⟨_, rfl⟩

end Session

/-- A level that opens a new game: the player is a registered pawn, and no turn has been
counted. -/
structure Level.Opens (level : Level) : Prop extends level.CanStart where
  turns : level.draft.2.world.turns = 0

namespace Stage

variable {stage middle : Stage} {line : String} {operation : Operation}

/-! ## Showing -/

/-- Everything that was said has been shown, and nothing else has changed. -/
structure Shows (before after : Stage) : Prop where
  session : after.session = { before.session with output := [] }
  store : after.store = before.store

/-! ## The account of a command -/

/-- What a command has done about the turn it is run in. -/
inductive Settles (stage : Stage) (line : String) (ran : Stage) : Prop where
  | played (hstays : ¬ stage.ReplacesWorld line) (hskips : ran.session.skipsSweep = false)
      (hturns : ran.session.world.turns = stage.session.world.turns)
  | replaced (hreplaces : stage.ReplacesWorld line) (hskips : ran.session.skipsSweep = true)
      (hloaded : ∀ operation world, stage.Runs line .load operation →
        stage.store.Offers operation.slot world → ran.session.world.turns = world.turns)
      (hrestarted : ∀ operation, stage.Runs line .restart operation →
        ran.session.world.turns = 0)

theorem Settles.idled (h : stage.Settles line middle) :
    stage.Settles line (Activity.idled middle) := by
  cases h with
  | played hstays hskips hturns => exact .played hstays hskips hturns
  | replaced hreplaces hskips hloaded hrestarted =>
      exact .replaced hreplaces hskips hloaded hrestarted

theorem settles_saved (hskips : stage.session.skipsSweep = false)
    (hruns : stage.Runs line .save operation) (text : String) (store : Store) :
    stage.Settles line
      { stage.running with session := stage.running.session.say text, store := store } :=
  .played (hruns.not_replacesWorld nofun nofun) hskips rfl

theorem settles_loaded (hruns : stage.Runs line .load operation) {world : World}
    (hoffers : stage.store.Offers operation.slot world) :
    stage.Settles line (stage.running.loaded operation.slot world) := by
  have hturns := (World.PassesTo.describeLocation world).turns
  refine .replaced (.inl ⟨operation, world, hruns, hoffers⟩) rfl ?_ ?_
  · intro other offered hother hoffered
    obtain ⟨_, rfl⟩ := hruns.unique hother
    cases hoffers.load.symm.trans hoffered.load
    exact hturns
  · intro restarting hrestarts
    cases (hruns.unique hrestarts).1

theorem settles_reopened (hruns : stage.Runs line .restart operation)
    (hturns : middle.session.world.turns = 0) : stage.Settles line middle.reopened := by
  have hdescribed := (World.PassesTo.describeLocation middle.session.world).turns
  refine .replaced (.inr ⟨operation, hruns⟩) rfl ?_ fun _ _ => hdescribed.trans hturns
  intro loading world hloads
  cases (hruns.unique hloads).1

/-! ## The account of a turn -/

/-- The stage on which a turn has been counted. -/
def counted (stage : Stage) : Stage :=
  { stage with session := stage.session.countTurn }

/-- The command of a turn has run, the turn has been counted and swept, and what was said has
been shown. -/
def SweepsOnce (stage : Stage) (handlers : Handlers) (operation : Operation) (report : Report)
    (after : Stage) : Prop :=
  ∃ ran swept : Stage,
    (Activity.endingIdle (Activity.run handlers operation)).perform stage.running =
      (.ok (), ran) ∧
    (Activity.sweep (some operation)).perform ran.counted = (.ok report, swept) ∧
    swept.Shows after

/-- What a turn that runs an operation costs: nothing if it replaces the world in play, and
otherwise one sweep and one turn. -/
structure Charges (stage : Stage) (handlers : Handlers) (line : String) (operation : Operation)
    (report? : Option Report) (after : Stage) : Prop where
  unswept : report? = none ↔ stage.ReplacesWorld line
  loaded : ∀ world, stage.Runs line .load operation →
    stage.store.Offers operation.slot world → after.session.world.turns = world.turns
  restarted : stage.Runs line .restart operation → after.session.world.turns = 0
  swept : ∀ report, report? = some report →
    stage.SweepsOnce handlers operation report after ∧
      after.session.world.turns.toNat = stage.session.world.turns.toNat + 1
  skipsSweep : after.session.skipsSweep = false

theorem charges_swept {handlers : Handlers} {report : Report} {swept after : Stage}
    (hbound : stage.session.world.turns.toNat < 0xFFFFFFFFFFFFFFFF) (hstays : ¬ stage.ReplacesWorld line)
    (hsweeps : stage.SweepsOnce handlers operation report after) (hshown : swept.Shows after)
    (hturns : swept.session.world.turns = stage.session.world.turns + 1)
    (hskips : swept.session.skipsSweep = false) :
    stage.Charges handlers line operation (some report) after where
  unswept := iff_of_false nofun hstays
  loaded := fun world hruns hoffers => absurd (.inl ⟨operation, world, hruns, hoffers⟩) hstays
  restarted := fun hruns => absurd (.inr ⟨operation, hruns⟩) hstays
  swept := by
    intro other hother
    cases hother
    refine ⟨hsweeps, ?_⟩
    have hnext : (stage.session.world.turns + 1).toNat = stage.session.world.turns.toNat + 1 := by
      rw [UInt64.toNat_add, UInt64.toNat_one]
      omega
    rw [hshown.session, ← hnext, ← hturns]
  skipsSweep := by rw [hshown.session, ← hskips]

theorem charges_replaced {handlers : Handlers} {ran after : Stage}
    (hreplaces : stage.ReplacesWorld line)
    (hloaded : ∀ operation world, stage.Runs line .load operation →
      stage.store.Offers operation.slot world → ran.session.world.turns = world.turns)
    (hrestarted : ∀ operation, stage.Runs line .restart operation →
      ran.session.world.turns = 0)
    (hturns : after.session.world.turns = ran.session.world.turns)
    (hskips : after.session.skipsSweep = false) :
    stage.Charges handlers line operation none after where
  unswept := iff_of_true rfl hreplaces
  loaded := fun world hruns hoffers => hturns.trans (hloaded operation world hruns hoffers)
  restarted := fun hruns => hturns.trans (hrestarted operation hruns)
  swept := nofun
  skipsSweep := hskips

/-- The answer to a line, and the stage after it. -/
structure Accounts (stage : Stage) (handlers : Handlers) (line : String) (outcome : Outcome)
    (after : Stage) : Prop where
  finished : stage.session.isFinished = true → outcome = .ignored ∧ after = stage
  blank : stage.session.isFinished = false → Token.ofLine line = [] →
    outcome = .empty ∧ stage.Shows after
  unknown : stage.session.isFinished = false → ∀ first rest,
    Token.ofLine line = first :: rest → ¬ stage.session.Knows line →
      outcome = .unrecognized first.text ∧ stage.Shows after
  known : stage.session.isFinished = false → Token.ofLine line ≠ [] →
    stage.session.Knows line → ∃ operation report?,
      stage.session.reading line = .parsed operation ∧
      outcome = .ran operation.command report? ∧
      stage.Charges handlers line operation report? after

variable {handlers : Handlers} {after : Stage}

theorem accounts_finished (h : stage.session.isFinished = true) :
    stage.Accounts handlers line .ignored stage where
  finished := fun _ => ⟨rfl, rfl⟩
  blank := fun hplaying => absurd (h.symm.trans hplaying) nofun
  unknown := fun hplaying => absurd (h.symm.trans hplaying) nofun
  known := fun hplaying => absurd (h.symm.trans hplaying) nofun

theorem accounts_blank (h : stage.session.isFinished = false) (hline : Token.ofLine line = [])
    (hshown : stage.Shows after) : stage.Accounts handlers line .empty after where
  finished := fun hfinished => absurd (h.symm.trans hfinished) nofun
  blank := fun _ _ => ⟨rfl, hshown⟩
  unknown := fun _ _ _ hcons => absurd (hline.symm.trans hcons) nofun
  known := fun _ hnonempty => absurd hline hnonempty

theorem accounts_unknown (h : stage.session.isFinished = false) {first : Token}
    {rest : List Token} (hline : Token.ofLine line = first :: rest)
    (hunknown : ¬ stage.session.Knows line) (hshown : stage.Shows after) :
    stage.Accounts handlers line (.unrecognized first.text) after where
  finished := fun hfinished => absurd (h.symm.trans hfinished) nofun
  blank := fun _ hnil => absurd (hline.symm.trans hnil) nofun
  unknown := by
    intro _ other others hother _
    cases hline.symm.trans hother
    exact ⟨rfl, hshown⟩
  known := fun _ _ hknows => absurd hknows hunknown

theorem accounts_known (h : stage.session.isFinished = false) (hline : Token.ofLine line ≠ [])
    (hknows : stage.session.Knows line) (hreading : stage.session.reading line = .parsed operation)
    {report? : Option Report} (hcharges : stage.Charges handlers line operation report? after) :
    stage.Accounts handlers line (.ran operation.command report?) after where
  finished := fun hfinished => absurd (h.symm.trans hfinished) nofun
  blank := fun _ hnil => absurd hnil hline
  unknown := fun _ _ _ _ hunknown => absurd hknows hunknown
  known := fun _ _ _ => ⟨operation, report?, hreading, rfl, hcharges⟩

end Stage

namespace Activity

open Stage

variable {stage : Stage} {line : String} {operation : Operation}

theorem ends_flush (stage : Stage) :
    Ends (flush.perform stage) (fun _ => stage.Shows) fun _ => ¬ stage.terminal.IsReliable := by
  apply ends_session_bind
  split
  · apply ends_editSession_bind
    simp only [perform, display, ofStep, ExceptT.mk, ExceptT.run, StateT.run]
    split
    next fault hrefused => exact fun h => h.display_ne_error _ none fault hrefused
    · exact ⟨rfl, rfl⟩
  next hsilent =>
    have houtput : stage.session.output = [] := by simpa [Session.hasOutput] using hsilent
    have hsame : stage.session = { stage.session with output := [] } := by rw [← houtput]
    exact ⟨hsame, rfl⟩

theorem settles_startOver {level : Level} (hlevel : stage.session.level = some level)
    (hopens : level.Opens) (hruns : stage.Runs line .restart operation) :
    Ends (startOver.perform stage.running)
      (fun _ ran => (stage.terminal.IsReliable → ran.terminal.IsReliable) ∧
        stage.Settles line ran)
      fun _ => ¬ stage.terminal.IsReliable := by
  have hrestart : restart.perform stage.running = (start level).perform stage.running :=
    perform_restart hlevel
  rw [perform_startOver, hrestart, perform_start hopens.toCanStart]
  have hsweep := orderly_sweep none (stage.running.rebuilt level)
  generalize (sweep none).perform (stage.running.rebuilt level) = outcome at hsweep
  obtain ⟨result, after⟩ := outcome
  cases result with
  | error fault => exact hsweep.2
  | ok report =>
      have hleads : (stage.running.rebuilt level).LeadsTo after := hsweep
      exact ⟨hleads.terminal, settles_reopened hruns (hleads.world.turns.trans hopens.turns)⟩

/-- A command fails only when the terminal does. -/
theorem settles_run (handlers : Handlers) (hbuiltIn : stage.session.world.registry.IsBuiltIn)
    (hunfinished : stage.session.isFinished = false) (hskips : stage.session.skipsSweep = false)
    {level : Level} (hlevel : stage.session.level = some level) (hopens : level.Opens)
    (hreading : stage.session.reading line = .parsed operation) :
    Ends ((run handlers operation).perform stage.running)
      (fun _ ran => (stage.terminal.IsReliable → ran.terminal.IsReliable) ∧
        stage.Settles line ran)
      fun _ => ¬ stage.terminal.IsReliable := by
  have hruns := runsTo_run handlers hbuiltIn hunfinished hreading
  generalize (run handlers operation).perform stage.running = outcome at hruns
  cases hruns with
  | played hstays hunsaved h =>
      refine Ends.weaken h (fun _ ran hran => ?_) fun _ hfailed => hfailed.2
      exact ⟨hran.terminal, .played hstays (hran.skipsSweep.trans hskips) hran.world.turns⟩
  | saved text hruns => exact ⟨fun h => h, settles_saved hskips hruns text _⟩
  | loaded world hruns hoffers => exact ⟨fun h => h, settles_loaded hruns hoffers⟩
  | restarted hruns => exact settles_startOver hlevel hopens hruns

theorem leadsTo_sweep (operation : Option Operation) (stage : Stage) :
    Ends ((sweep operation).perform stage)
      (fun report swept => (sweep operation).perform stage = (.ok report, swept) ∧
        stage.LeadsTo swept)
      fun _ => ¬ stage.terminal.IsReliable :=
  (Ends.self (orderly_sweep operation stage)).weaken (fun _ _ h => h) fun _ h => h.2

/-! ## Turns -/

theorem perform_finishTurn_of_skips (h : stage.session.skipsSweep = true) :
    (finishTurn operation).perform stage =
      (.ok none, { stage with session := stage.session.takeSkip.2 }) := by
  rw [finishTurn, perform_bind, perform_session]
  dsimp only
  rw [if_pos h]
  rfl

theorem sweeps_finishTurn (h : stage.session.skipsSweep = false) :
    Ends ((finishTurn operation).perform stage)
      (fun report? swept => ∃ report, report? = some report ∧
        (sweep (some operation)).perform stage.counted = (.ok report, swept) ∧
        stage.counted.LeadsTo swept)
      fun _ => ¬ stage.terminal.IsReliable := by
  apply ends_session_bind
  rw [if_neg (by simp [h])]
  apply ends_editSession_bind
  refine (leadsTo_sweep (some operation) stage.counted).bind ?_
  rintro report swept ⟨hsweep, hleads⟩
  exact ⟨report, rfl, hsweep, hleads⟩

theorem charges_runTurn (handlers : Handlers) (hbuiltIn : stage.session.world.registry.IsBuiltIn)
    (hunfinished : stage.session.isFinished = false) (hskips : stage.session.skipsSweep = false)
    (hturns : stage.session.world.turns.toNat < 0xFFFFFFFFFFFFFFFF)
    {level : Level} (hlevel : stage.session.level = some level) (hopens : level.Opens)
    (hreading : stage.session.reading line = .parsed operation) :
    Ends ((runTurn handlers operation).perform stage)
      (fun outcome after => ∃ report?, outcome = .ran operation.command report? ∧
        stage.Charges handlers line operation report? after)
      fun _ => ¬ stage.terminal.IsReliable := by
  have hcommand : Ends ((endingIdle (run handlers operation)).perform stage.running)
      (fun _ ran => (stage.terminal.IsReliable → ran.terminal.IsReliable) ∧
        stage.Settles line ran)
      fun _ => ¬ stage.terminal.IsReliable := by
    apply ends_endingIdle
    have hrun := settles_run handlers hbuiltIn hunfinished hskips hlevel hopens hreading
    exact hrun.weaken (fun _ _ h => ⟨h.1, h.2.idled⟩) fun _ h => h
  apply ends_editSession_bind
  refine (Ends.self hcommand).bind ?_
  rintro ⟨⟩ ran ⟨hran, hterminal, hsettles⟩
  -- The command has settled whether there is a sweep; only the flag tells the rest of the turn.
  cases hsettles with
  | played hstays hranSkips hranTurns =>
      refine ((sweeps_finishTurn hranSkips).weaken (fun _ _ h => h) fun _ => mt hterminal).bind ?_
      rintro _ swept ⟨report, rfl, hsweep, hleads⟩
      have hflush := (ends_flush swept).weaken (fun _ _ h => h)
        fun _ => mt fun h => hleads.terminal (hterminal h)
      refine hflush.bind fun _ after hshown => ⟨some report, rfl, ?_⟩
      have hcounted : swept.session.world.turns = stage.session.world.turns + 1 := by
        rw [hleads.world.turns, ← hranTurns]
        rfl
      have hskipped : swept.session.skipsSweep = false := hleads.skipsSweep.trans hranSkips
      exact charges_swept hturns hstays ⟨ran, swept, hran, hsweep, hshown⟩ hshown hcounted hskipped
  | replaced hreplaces hranSkips hloaded hrestarted =>
      rw [perform_bind, perform_finishTurn_of_skips hranSkips]
      dsimp only
      have hflush := (ends_flush { ran with session := ran.session.takeSkip.2 }).weaken
        (fun _ _ h => h) fun _ => mt hterminal
      refine hflush.bind fun _ after hshown => ⟨none, rfl, ?_⟩
      have hturns : after.session.world.turns = ran.session.world.turns := by
        rw [hshown.session]
        rfl
      have hskipped : after.session.skipsSweep = false := by
        rw [hshown.session]
        rfl
      exact charges_replaced hreplaces hloaded hrestarted hturns hskipped

/-- Every line gets its answer, and costs what it should, on a terminal that refuses no call: a
turn fails only when the terminal does. -/
theorem accounts_turn (handlers : Handlers) (hbuiltIn : stage.session.world.registry.IsBuiltIn)
    (hskips : stage.session.skipsSweep = false)
    (hturns : stage.session.world.turns.toNat < 0xFFFFFFFFFFFFFFFF)
    {level : Level} (hlevel : stage.session.level = some level) (hopens : level.Opens)
    (line : String) :
    Ends ((turn handlers line).perform stage) (stage.Accounts handlers line)
      fun _ => ¬ stage.terminal.IsReliable := by
  apply ends_session_bind
  split
  next hfinished => exact accounts_finished hfinished
  next hplaying =>
    have hunfinished := eq_false_of_ne_true hplaying
    cases hline : Token.ofLine line with
    | nil =>
        rw [Session.reading_of_blank hline]
        exact (ends_flush stage).bind fun _ after hshown =>
          accounts_blank hunfinished hline hshown
    | cons first rest =>
        by_cases hknows : stage.session.Knows line
        · have hnonempty : Token.ofLine line ≠ [] := by simp [hline]
          obtain ⟨operation, hreading⟩ := Session.exists_reading_of_knows hnonempty hknows
          rw [hreading]
          have hran := charges_runTurn handlers hbuiltIn hunfinished hskips hturns hlevel hopens
            hreading
          refine hran.weaken ?_ fun _ h => h
          rintro outcome after ⟨report?, rfl, hcharges⟩
          exact accounts_known hunfinished hnonempty hknows hreading hcharges
        · rw [Session.reading_of_unknown hline hknows]
          apply ends_editSession_bind
          refine (ends_flush _).bind fun _ after hshown => ?_
          exact accounts_unknown hunfinished hline hknows ⟨hshown.session, hshown.store⟩

theorem accounts_turn_belfry :
    Stage.belfry.session.world.registry.IsBuiltIn ∧ Stage.belfry.session.skipsSweep = false ∧
      Stage.belfry.session.world.turns.toNat < 0xFFFFFFFFFFFFFFFF ∧
      Stage.belfry.session.level = some Level.belfry ∧ Level.belfry.Opens ∧
      Ends ((turn [] "restart").perform Stage.belfry) (Stage.belfry.Accounts [] "restart")
        fun _ => ¬ Stage.belfry.terminal.IsReliable := by
  have hbuiltIn : Stage.belfry.session.world.registry.IsBuiltIn := by decide +kernel
  have hturns : Stage.belfry.session.world.turns.toNat < 0xFFFFFFFFFFFFFFFF := by decide
  have hopens : Level.belfry.Opens :=
    { completes := rfl
      player := by decide +kernel
      turns := rfl }
  exact ⟨hbuiltIn, rfl, hturns, rfl, hopens,
    accounts_turn [] hbuiltIn rfl hturns rfl hopens "restart"⟩

end Activity

end TextAdventure
