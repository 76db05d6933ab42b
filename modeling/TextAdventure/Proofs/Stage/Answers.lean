import TextAdventure.Proofs.Action.Errands
import TextAdventure.Proofs.Soundness.Stages
import TextAdventure.Proofs.Stage.ParallelTurns
import TextAdventure.Proofs.Stage.Transcripts

/-!
# Turns that are answered

Every reply of the world says something, whatever its entities refer to, and so does every command
of the game itself, but for one: to talk to a companion whose dialog is not registered does
nothing.  What a command has said is shown before the turn is over.
-/

namespace TextAdventure

namespace World

/-! ## Replies -/

theorem said_describeLocation_ne_nil (world : World) : world.describeLocation.said ≠ [] := by
  unfold describeLocation
  split
  · exact List.cons_ne_nil _ _
  · split
    · exact List.cons_ne_nil _ _
    · exact List.cons_ne_nil _ _

theorem said_examine_ne_nil (world : World) (operation : Operation) :
    (world.examine operation).said ≠ [] := by
  unfold examine
  split
  · exact List.cons_ne_nil _ _
  · dsimp only
    split
    · exact List.cons_ne_nil _ _
    next key _ =>
      split
      · exact List.cons_ne_nil _ _
      next hseen =>
        -- What can be seen is registered.
        cases hget : world.registry.get? key with
        | none => simp [canSee, hget] at hseen
        | some entity => exact List.cons_ne_nil _ _

theorem said_travel_ne_nil (world : World) (destination : Option Key) :
    (world.travel destination).said ≠ [] := by
  unfold travel
  split
  · exact List.cons_ne_nil _ _
  · split
    · exact List.cons_ne_nil _ _
    · exact said_describeLocation_ne_nil _

theorem said_go_ne_nil (world : World) (operation : Operation) :
    (world.go operation).said ≠ [] := by
  unfold go
  generalize (if operation.directPhrase.isEmpty then operation.indirectPhrase
    else operation.directPhrase) = phrase
  dsimp only
  split
  · exact List.cons_ne_nil _ _
  · exact said_travel_ne_nil world _

theorem said_takeStock_ne_nil (world : World) : world.takeStock.said ≠ [] := by
  unfold takeStock
  extract_lets carried
  split
  · exact List.cons_ne_nil _ _
  · exact List.cons_ne_nil _ _

end World

theorem Errand.said_reply_ne_nil (arithmetic : Arithmetic) (world : World) (errand : Errand) :
    (errand.reply arithmetic world).said ≠ [] := by
  have hends := ends_handling arithmetic world errand
  rw [reply_eq_carryOut]
  generalize errand.handling arithmetic world = handling at hends ⊢
  cases hends with
  | refused text => exact List.cons_ne_nil _ _
  | moved text hmoves => exact List.cons_ne_nil _ _

theorem Session.hasOutput_accept (session : Session) {reply : Reply} (h : reply.said ≠ []) :
    (session.accept reply).hasOutput = true := by
  simp [hasOutput, accept, h]

/-- Whom an operation addresses would hold a dialog that is not registered. -/
def World.MissesDialog (world : World) (operation : Operation) : Prop :=
  ∃ dialog, world.address operation = .dialog dialog ∧ world.registry.dialog? dialog = none

namespace Activity

open Stage

variable {α β : Type} {stage : Stage} {operation : Operation}

/-! ## Commands -/

/-- An activity that says or shows something, whenever it comes to its end on a script. -/
def Answering (activity : Activity α) : Prop :=
  ∀ stage : Stage, stage.terminal.IsScripted →
    Ends (activity.perform stage) (fun _ => stage.IsAnswered) fun _ => True

theorem answering_say (text : String) : Answering (say text) :=
  fun stage h => isAnswered_of_said h rfl (stage.session.hasOutput_say text)

theorem answering_answer {reply : World → Reply} (h : ∀ world, (reply world).said ≠ []) :
    Answering (answer reply) :=
  fun stage hstage => isAnswered_of_said hstage rfl (stage.session.hasOutput_accept (h _))

theorem Retentive.answering_bind {activity : Activity α} {next : α → Activity β}
    (h : Retentive activity) (hnext : ∀ value, Answering (next value)) :
    Answering (activity >>= next) := by
  intro stage hstage
  refine (h stage hstage).bind fun value middle hmiddle => ?_
  refine (hnext value middle hmiddle.scripted).weaken ?_ fun _ hfailed => hfailed
  intro _ after hafter
  exact hmiddle.isAnswered hafter

theorem answering_quit : Answering quit := by
  refine Retentive.answering_bind (retentive_editSession ?_) fun _ => answering_say _
  intro session hsaid
  exact hsaid

theorem answering_save (operation : Operation) : Answering (save operation) := by
  intro stage h
  obtain ⟨text, hsave⟩ := exists_perform_save operation stage
  rw [hsave]
  exact isAnswered_of_said h rfl (stage.session.hasOutput_say text)

theorem answering_load (operation : Operation) : Answering (load operation) := by
  intro stage h
  by_cases hoffers : ∃ world, stage.store.Offers operation.slot world
  · obtain ⟨world, hworld⟩ := hoffers
    rw [perform_load hworld]
    have hsaid := world.said_describeLocation_ne_nil
    exact isAnswered_of_said h rfl (Session.hasOutput_accept _ hsaid)
  · obtain ⟨text, hload⟩ := exists_perform_load (not_exists.mp hoffers)
    rw [hload]
    exact isAnswered_of_said h rfl (stage.session.hasOutput_say text)

theorem answering_startOver : Answering startOver := by
  intro stage h
  have hrestart := retentive_restart stage h
  rw [perform_startOver]
  generalize restart.perform stage = outcome at hrestart
  obtain ⟨result, after⟩ := outcome
  cases result with
  | error fault => trivial
  | ok report =>
      have hcarries : stage.CarriesOver after := hrestart
      have hsaid := after.session.world.said_describeLocation_ne_nil
      have hanswered : after.IsAnswered after.reopened :=
        isAnswered_of_said hcarries.scripted rfl (Session.hasOutput_accept _ hsaid)
      exact hcarries.isAnswered hanswered

theorem ends_talk (h : stage.terminal.IsScripted)
    (hdialog : ¬ stage.session.world.MissesDialog operation) :
    Ends ((talk operation).perform stage) (fun _ => stage.IsAnswered) fun _ => True := by
  apply ends_session_bind
  split
  next text _ => exact answering_say text stage h
  next key haddress =>
    cases hregistered : stage.session.world.registry.dialog? key with
    | none => exact absurd ⟨key, haddress, hregistered⟩ hdialog
    | some dialog =>
        have hheld := ends_hold_of_some h hregistered
        have hconverse : (converse key).perform stage = stage.applyAll [.initiateDialog key] := rfl
        rw [hconverse, Stage.applyAll]
        split
        · trivial
        next chosen after hhold =>
          rw [hhold] at hheld
          have hanswered : stage.IsAnswered after := hheld
          refine (ends_applyAll_due hanswered.scripted _).weaken ?_ fun _ hfailed => hfailed
          intro _ last hlast
          exact hanswered.trans hlast

/-- A dialog that is not registered is passed over without a word. -/
theorem perform_talk_of_missesDialog (h : stage.session.world.MissesDialog operation) :
    (talk operation).perform stage = (.ok (), stage) := by
  obtain ⟨key, haddress, hmissing⟩ := h
  have hhold : stage.hold key = (.ok [], stage) := by rw [hold, hmissing]
  rw [talk, perform_bind, perform_session]
  simp only [haddress]
  exact (applyAll_dialog hhold).trans (applyAll_nil stage)

theorem answering_runBehavior (handlers : Handlers) (operation : Operation) {behavior : Behavior}
    (hbuiltIn : behavior.isBuiltIn = true) (htalk : behavior ≠ .talk) :
    Answering (runBehavior handlers operation behavior) := by
  unfold runBehavior
  cases behavior with
  | look => exact answering_answer World.said_describeLocation_ne_nil
  | examine => exact answering_answer (World.said_examine_ne_nil · operation)
  | move => exact answering_answer fun world => world.said_travel_ne_nil _
  | go => exact answering_answer (World.said_go_ne_nil · operation)
  | get => exact answering_answer (Errand.said_reply_ne_nil .binary64 · (.get operation))
  | drop => exact answering_answer (Errand.said_reply_ne_nil .binary64 · (.drop operation))
  | put => exact answering_answer (Errand.said_reply_ne_nil .binary64 · (.put operation))
  | inventory => exact answering_answer World.said_takeStock_ne_nil
  | talk => exact absurd rfl htalk
  | wait => exact answering_say _
  | help => exact answering_answer fun world => List.cons_ne_nil _ _
  | save => exact answering_save operation
  | load => exact answering_load operation
  | restart => exact answering_startOver
  | quit => exact answering_quit
  | custom name => cases hbuiltIn

/-- A command of the game itself is answered, unless it talks to someone whose dialog is not
registered. -/
theorem ends_run_answered (handlers : Handlers) (h : stage.terminal.IsScripted)
    (hbuiltIn : stage.session.world.registry.HasBuiltIn operation.command)
    (hheard : (stage.session.world.registry.command? operation.command).map Command.behavior =
      some .talk → ¬ stage.session.world.MissesDialog operation) :
    Ends ((run handlers operation).perform stage) (fun _ => stage.IsAnswered) fun _ => True := by
  apply ends_session_bind
  cases hcommand : stage.session.world.registry.command? operation.command with
  | none => exact answering_say _ stage h
  | some command =>
      rw [hcommand] at hheard
      by_cases htalk : command.behavior = .talk
      · have hregistered := hheard (congrArg some htalk)
        dsimp only
        rw [htalk]
        exact ends_talk h hregistered
      · exact answering_runBehavior handlers operation (hbuiltIn command hcommand) htalk stage h

theorem perform_run_of_missesDialog (handlers : Handlers)
    (htalk : (stage.session.world.registry.command? operation.command).map Command.behavior =
      some .talk)
    (h : stage.session.world.MissesDialog operation) :
    (run handlers operation).perform stage = (.ok (), stage) := by
  obtain ⟨command, hcommand, hbehavior⟩ := Option.map_eq_some_iff.mp htalk
  rw [perform_run_of_command? handlers hcommand, hbehavior]
  exact perform_talk_of_missesDialog h

/-! ## Turns -/

/-- What its command has said or shown is in the transcript at the end of a turn. -/
theorem ends_runTurn_shown {handlers : Handlers}
    (hrun : Ends ((run handlers operation).perform stage.running) (fun _ => stage.running.IsAnswered)
      fun _ => True) :
    Ends ((runTurn handlers operation).perform stage)
      (fun _ after => stage.terminal.shown.length < after.terminal.shown.length) fun _ => True := by
  have hcommand : Ends ((endingIdle (run handlers operation)).perform stage.running)
      (fun _ => stage.running.IsAnswered) fun _ => True := by
    apply ends_endingIdle
    refine hrun.weaken (fun _ ran hran => ?_) fun _ h => h
    exact hran.trans (carriesOver_of_said hran.scripted rfl fun hsaid => hsaid)
  apply ends_editSession_bind
  refine hcommand.bind fun _ ran hran => ?_
  refine (retentive_finishTurn operation ran hran.scripted).bind fun report swept hswept => ?_
  have hanswered : stage.running.IsAnswered swept := hran.trans hswept
  refine (ends_flush_due hanswered.scripted).bind fun _ after hafter => ?_
  exact Nat.lt_of_lt_of_le hanswered.spoken hafter.2

theorem perform_turn_of_parsed (handlers : Handlers) {line : String}
    (hunfinished : stage.session.isFinished = false)
    (hreading : stage.session.reading line = .parsed operation) :
    (turn handlers line).perform stage = (runTurn handlers operation).perform stage := by
  rw [turn, perform_bind, perform_session]
  simp [hunfinished, hreading]

/-- When a command has been run, what is left of its turn is the sweep and the display. -/
theorem perform_runTurn_of_run {handlers : Handlers} {ran : Stage}
    (h : (run handlers operation).perform stage.running = (.ok (), ran)) :
    (runTurn handlers operation).perform stage =
      ((do
        let report ← finishTurn operation
        flush
        return .ran operation.command report : Activity Outcome).perform (idled ran)) := by
  rw [running] at h
  rw [runTurn, perform_bind, perform_editSession]
  dsimp only
  rw [perform_bind, perform_endingIdle, h]

/-- A turn that ran a command has read its operation from the line. -/
theorem exists_parsed_of_ran {handlers : Handlers} {line : String} {command : Key}
    {report? : Option Report} {after : Stage}
    (h : (turn handlers line).perform stage = (.ok (.ran command report?), after)) :
    ∃ operation, stage.session.isFinished = false ∧
      stage.session.reading line = .parsed operation ∧ operation.command = command := by
  have hends : Ends ((turn handlers line).perform stage)
      (fun outcome _ => outcome = .ran command report? → ∃ operation,
        stage.session.isFinished = false ∧ stage.session.reading line = .parsed operation ∧
          operation.command = command)
      fun _ => True := by
    apply ends_session_bind
    split
    · exact nofun
    next hplaying =>
      have hunfinished := eq_false_of_ne_true hplaying
      cases hreading : stage.session.reading line with
      | empty => exact ends_bind_of_forall fun _ _ => nofun
      | unrecognized word =>
          exact ends_bind_of_forall fun _ _ => ends_bind_of_forall fun _ _ => nofun
      | parsed operation =>
          refine ends_bind_of_forall fun _ _ => ends_bind_of_forall fun _ _ =>
            ends_bind_of_forall fun report _ => ends_bind_of_forall fun _ _ => ?_
          intro hran
          cases hran
          exact ⟨operation, hunfinished, rfl, rfl⟩
  rw [h] at hends
  exact hends rfl

/-- A turn ends alike on the stage that keeps its transcript, which is the same stage if the
terminal is a script. -/
theorem exists_runTurn_recorded {handlers : Handlers}
    (hbuiltIn : stage.session.world.registry.HasBuiltIn operation.command) {outcome : Outcome}
    {after : Stage} (h : (runTurn handlers operation).perform stage = (.ok outcome, after)) :
    ∃ told, (runTurn handlers operation).perform stage.recorded = (.ok outcome, told) ∧
      told.session.world = after.session.world := by
  obtain ⟨session, terminal, store⟩ := stage
  cases terminal with
  | scripted script => exact ⟨after, h, rfl⟩
  | stream lines =>
      have hreliable : (Terminal.stream lines).IsReliable := trivial
      have hparallels : Stage.Parallels ⟨session, .stream lines, store⟩
          (recorded ⟨session, .stream lines, store⟩) :=
        ⟨rfl, rfl, rfl, rfl, hreliable.alike_recorded⟩
      obtain ⟨hresult, hafter⟩ := agrees_runTurn handlers hbuiltIn hparallels rfl rfl
      rw [h] at hresult hafter
      generalize (runTurn handlers operation).perform (recorded _) = outcomeTold at hresult hafter ⊢
      obtain ⟨result, told⟩ := outcomeTold
      cases hresult
      exact ⟨told, rfl, hafter.world.symm⟩

/-- No turn that runs a command of the game itself is silent, whatever the world refers to and
whether or not it is registered, but for one: to talk to somebody whose dialog is not registered
does nothing. -/
theorem turn_shows_or_misses (handlers : Handlers) {line : String} {command : Key}
    {report? : Option Report} {after : Stage}
    (hturn : (turn handlers line).perform stage = (.ok (.ran command report?), after))
    (hbuiltIn : stage.session.world.registry.HasBuiltIn command) :
    ∃ operation told, stage.session.reading line = .parsed operation ∧
      operation.command = command ∧
      (turn handlers line).perform stage.recorded = (.ok (.ran command report?), told) ∧
      told.session.world = after.session.world ∧
      (stage.recorded.terminal.shown.length < told.terminal.shown.length ∨
        stage.Runs line .talk operation ∧ stage.session.world.MissesDialog operation ∧
          (run handlers operation).perform stage.running = (.ok (), stage.running)) := by
  obtain ⟨operation, hunfinished, hreading, rfl⟩ := exists_parsed_of_ran hturn
  rw [perform_turn_of_parsed handlers hunfinished hreading] at hturn
  obtain ⟨told, htold, hworld⟩ := exists_runTurn_recorded hbuiltIn hturn
  have hrecorded : (turn handlers line).perform stage.recorded =
      (runTurn handlers operation).perform stage.recorded :=
    perform_turn_of_parsed handlers hunfinished hreading
  refine ⟨operation, told, hreading, rfl, hrecorded.trans htold, hworld, ?_⟩
  by_cases hmisses : stage.Runs line .talk operation ∧ stage.session.world.MissesDialog operation
  · obtain ⟨hruns, hmissing⟩ := hmisses
    have hrun : (run handlers operation).perform stage.running = (.ok (), stage.running) :=
      perform_run_of_missesDialog handlers hruns.behavior hmissing
    exact .inr ⟨hruns, hmissing, hrun⟩
  · left
    have hscripted : stage.recorded.running.terminal.IsScripted :=
      Terminal.isScripted_recorded stage.terminal
    have hrun : Ends ((run handlers operation).perform stage.recorded.running)
        (fun _ => stage.recorded.running.IsAnswered) fun _ => True := by
      refine ends_run_answered handlers hscripted hbuiltIn ?_
      intro hbehavior hmissing
      exact hmisses ⟨⟨hunfinished, hreading, hbehavior⟩, hmissing⟩
    have hshown := ends_runTurn_shown hrun
    rw [htold] at hshown
    exact hshown

end Activity

/-! ## A hermitage -/

/-- Neither the hermit's dialog nor the valley at the end of the path is registered. -/
def World.hermitage : World where
  registry := Registry.ofList [
    Entity.location "Cave",
    (Entity.exit "Path" "Cave" "Valley").withDirection "north",
    (Entity.pawn "Hermit" "Cave" ⟨0x4024000000000000⟩).withDialog "Vows",
    Entity.pawn "Pilgrim" "Cave" ⟨0x4024000000000000⟩,
    (Entity.action "Talk" "t" .talk).withPreposition "to",
    Entity.command "North" "n" .move]
  active := [⟨"talk"⟩, ⟨"north"⟩]
  player := ⟨"pilgrim"⟩
  turns := 0

def Stage.hermitage : Stage where
  session := { Session.fresh with world := World.hermitage }
  terminal := .stream (LineStream.ofLines [])
  store := .slots Slots.empty

namespace Activity

theorem turn_shows_or_misses_north :
    ∃ after,
      (turn [] "north").perform Stage.hermitage =
        (.ok (.ran ⟨"north"⟩ (some Report.empty)), after) ∧
      Stage.hermitage.session.world.registry.HasBuiltIn ⟨"north"⟩ ∧
      ∃ operation told, Stage.hermitage.session.reading "north" = .parsed operation ∧
        operation.command = ⟨"north"⟩ ∧
        (turn [] "north").perform Stage.hermitage.recorded =
          (.ok (.ran ⟨"north"⟩ (some Report.empty)), told) ∧
        told.session.world = after.session.world ∧
        (Stage.hermitage.recorded.terminal.shown.length < told.terminal.shown.length ∨
          Stage.hermitage.Runs "north" .talk operation ∧
            Stage.hermitage.session.world.MissesDialog operation ∧
            (run [] operation).perform Stage.hermitage.running =
              (.ok (), Stage.hermitage.running)) := by
  have hturn : (turn [] "north").perform Stage.hermitage =
      (.ok (.ran ⟨"north"⟩ (some Report.empty)),
        ((turn [] "north").perform Stage.hermitage).2) := by
    refine Prod.ext ?_ rfl
    decide +kernel
  have hbuiltIn : Stage.hermitage.session.world.registry.HasBuiltIn ⟨"north"⟩ := by
    intro command hcommand
    have hnorth : Stage.hermitage.session.world.registry.command? ⟨"north"⟩ =
        some ⟨"n", .move, none, ""⟩ := by decide +kernel
    cases hnorth.symm.trans hcommand
    rfl
  exact ⟨_, hturn, hbuiltIn, turn_shows_or_misses [] hturn hbuiltIn⟩

end Activity

/-- What is read from the line that talks to the hermit. -/
def Operation.talkToHermit : Operation where
  input := "talk to hermit"
  tokens := ["talk", "to", "hermit"]
  verb := "talk"
  command := ⟨"talk"⟩
  rest := "to hermit"
  quantity := 1
  isExplicit := false
  preposition := some "to"
  directPhrase := NounPhrase.empty
  indirectPhrase := ⟨["hermit"]⟩
  direct := none
  indirect := some ⟨"hermit"⟩

/-- A pilgrim in the hermitage, with nothing said and a terminal that refuses nothing. -/
def Stage.cave : Stage :=
  { Stage.hermitage with terminal := .scripted (Script.ofLines []) }

namespace Stage

theorem isGood_cave : cave.IsGood := by
  have hsound : World.hermitage.IsSound := by decide +kernel
  have hlevel : ∀ level ∈ (none : Option Level), level.draft.2.world.IsSound := nofun
  have hstore : cave.store.HoldsOnly World.IsSound := by
    intro entry hentry
    cases hentry
  exact ⟨⟨⟨hsound, hlevel, hstore⟩, rfl⟩, rfl⟩

theorem runs_talkToHermit : cave.Runs "talk to hermit" .talk .talkToHermit := by
  decide +kernel

end Stage

namespace Activity

/-- To talk to the hermit is a turn in which the terminal is not called at all. -/
theorem turn_talkToHermit_silent :
    Stage.cave.IsGood ∧ Stage.cave.terminal.IsReliable ∧
      Stage.cave.Runs "talk to hermit" .talk .talkToHermit ∧
      ∃ after, (turn [] "talk to hermit").perform Stage.cave =
          (.ok (.ran ⟨"talk"⟩ (some Report.empty)), after) ∧
        after.terminal = Stage.cave.terminal := by
  have hruns := Stage.runs_talkToHermit
  have hmisses : Stage.cave.session.world.MissesDialog .talkToHermit := by
    refine ⟨⟨"vows"⟩, ?_, ?_⟩
    · decide +kernel
    · decide +kernel
  have hrun : (run [] .talkToHermit).perform Stage.cave.running = (.ok (), Stage.cave.running) :=
    perform_run_of_missesDialog [] hruns.behavior hmisses
  refine ⟨Stage.isGood_cave, ⟨rfl, rfl⟩, hruns, ?_⟩
  rw [perform_turn_of_parsed [] hruns.unfinished hruns.reading, perform_runTurn_of_run hrun]
  refine ⟨_, Prod.ext ?_ rfl, ?_⟩
  · decide +kernel
  · decide +kernel

end Activity

end TextAdventure
