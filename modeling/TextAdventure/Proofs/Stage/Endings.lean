import TextAdventure.Proofs.Rulebook.Runs
import TextAdventure.Proofs.Stage.Compositions
import TextAdventure.Proofs.Stage.Logs

/-!
# Endings of activities

Sweeps, commands and turns are made of steps that read nothing and enter no dialog, and of effects
that are applied.  On a script each of them comes to an end by these rules, with a log of the lines
it reads and the dialogs it enters.
-/

namespace TextAdventure

theorem Registry.IsBuiltIn.areUnused {registry : Registry} (h : registry.IsBuiltIn)
    (handlers : Handlers) : handlers.AreUnused registry := by
  intro key command name hcommand hbehavior
  have hbuiltIn := h.of_command? hcommand
  rw [hbehavior] at hbuiltIn
  cases hbuiltIn

namespace Activity

/-- The activities that read nothing and enter no dialog. -/
inductive IsStep : {α : Type} → Activity α → Prop where
  | pure {α : Type} (value : α) : IsStep (Pure.pure value : Activity α)
  | throw {α : Type} (fault : Fault) : IsStep (throw fault : Activity α)
  | session : IsStep session
  | editSession (edit : Session → Session) : IsStep (editSession edit)
  | clear : IsStep (editTerminal Terminal.clear)
  | offer (words : List String) : IsStep (editTerminal (Terminal.offer words))
  | display (text : String) : IsStep (display text)
  | flush : IsStep flush
  | save (operation : Operation) : IsStep (save operation)
  | load (operation : Operation) : IsStep (load operation)

/-- How an activity comes to its end, with a log. -/
inductive Chronicles : {α : Type} → Activity α → Stage → Log → Except Fault α × Stage → Prop where
  | step {α : Type} {activity : Activity α} {stage : Stage} (hstep : IsStep activity) :
      Chronicles activity stage .done (activity.perform stage)
  | read {stage : Stage} {line : String} {terminal : Terminal}
      (hread : stage.terminal.readLine = .ok (some line, terminal)) :
      Chronicles readLine stage (.line line .done)
        (.ok (some line), { stage with terminal := terminal })
  | readNothing {stage : Stage} {terminal : Terminal}
      (hread : stage.terminal.readLine = .ok (none, terminal)) :
      Chronicles readLine stage .done (.ok none, { stage with terminal := terminal })
  | applied {effects : List Effect} {stage after : Stage} {log : Log}
      (happlies : Stage.Applies effects stage log after) :
      Chronicles (applyAll effects) stage log (.ok (), after)
  | failed {α β : Type} {activity : Activity α} {next : α → Activity β} {stage after : Stage}
      {log : Log} {fault : Fault} (hfirst : Chronicles activity stage log (.error fault, after)) :
      Chronicles (activity >>= next) stage log (.error fault, after)
  | bind {α β : Type} {activity : Activity α} {next : α → Activity β} {stage middle : Stage}
      {log later : Log} {value : α} {outcome : Except Fault β × Stage}
      (hfirst : Chronicles activity stage log (.ok value, middle))
      (hnext : Chronicles (next value) middle later outcome) :
      Chronicles (activity >>= next) stage (log.append later) outcome
  | idled {α : Type} {activity : Activity α} {stage : Stage} {log : Log}
      {outcome : Except Fault α × Stage} (hactivity : Chronicles activity stage log outcome) :
      Chronicles (endingIdle activity) stage log (outcome.1, idled outcome.2)

/-- An activity concludes on a script when it comes to an end, with a log that tells of the lines
that are gone. -/
def Concludes {α : Type} (activity : Activity α) (stage : Stage) (lines : List String) : Prop :=
  ∃ log, Chronicles activity stage log (activity.perform stage) ∧
    Stage.Tells lines log (activity.perform stage).2

variable {α β : Type} {stage : Stage} {lines : List String}

/-! ## Steps -/

theorem IsStep.readsFrom {activity : Activity α} (hstep : IsStep activity)
    (h : stage.terminal.ReadsFrom lines) :
    (activity.perform stage).2.terminal.ReadsFrom lines := by
  cases hstep with
  | pure value => exact h
  | throw fault => exact h
  | session => exact h
  | editSession edit => exact h
  | clear => exact h.clear
  | offer words => exact h.offer words
  | display text =>
      obtain ⟨shown, hdisplay, hshown⟩ := h.display text none
      rw [Stage.perform_display hdisplay]
      exact hshown
  | flush =>
      obtain ⟨shown, hflush, hshown⟩ := Stage.exists_flush h
      rw [hflush]
      exact hshown
  | save operation =>
      obtain ⟨text, hsave⟩ := exists_perform_save operation stage
      rw [hsave]
      exact h
  | load operation =>
      by_cases hoffers : ∃ world, stage.store.Offers operation.slot world
      · obtain ⟨world, hworld⟩ := hoffers
        rw [perform_load hworld]
        exact h
      · obtain ⟨text, hload⟩ := exists_perform_load (not_exists.mp hoffers)
        rw [hload]
        exact h

theorem IsStep.concludes {activity : Activity α} (hstep : IsStep activity)
    (h : stage.terminal.ReadsFrom lines) : Concludes activity stage lines :=
  ⟨.done, .step hstep, lines, rfl, hstep.readsFrom h, trivial⟩

/-! ## Rules -/

theorem perform_readLine {line : Option String} {terminal : Terminal}
    (h : stage.terminal.readLine = .ok (line, terminal)) :
    readLine.perform stage = (.ok line, { stage with terminal := terminal }) := by
  simp only [perform, readLine, ofStep, ExceptT.mk, ExceptT.run, StateT.run, h]

/-- Reading gives the first line, or none if no line is left. -/
theorem concludes_readLine (h : stage.terminal.ReadsFrom lines) :
    Concludes readLine stage lines := by
  cases lines with
  | nil =>
      obtain ⟨terminal, hread, -, -, hclosed⟩ := h.read_nil
      rw [Concludes, perform_readLine hread]
      exact ⟨.done, .readNothing hread, [], rfl, hclosed, trivial⟩
  | cons line rest =>
      obtain ⟨terminal, hread, -, -, hrest⟩ := h.read_cons
      rw [Concludes, perform_readLine hread]
      exact ⟨.line line .done, .read hread, rest, rfl, hrest, trivial⟩

theorem concludes_applyAll (h : stage.terminal.ReadsFrom lines) (effects : List Effect) :
    Concludes (applyAll effects) stage lines := by
  obtain ⟨log, after, hperform, happlies, htells⟩ := Stage.canApply h effects
  have hperform : (applyAll effects).perform stage = (.ok (), after) := hperform
  rw [Concludes, hperform]
  exact ⟨log, .applied happlies, htells⟩

/-- Of two activities one after the other, each has to conclude on the lines that are left. -/
theorem Concludes.bind {activity : Activity α} {next : α → Activity β}
    (h : Concludes activity stage lines)
    (hnext : ∀ value {middle rest}, middle.terminal.ReadsFrom rest →
      Concludes (next value) middle rest) : Concludes (activity >>= next) stage lines := by
  obtain ⟨log, hlog, rest, rfl, hrest, hpaid⟩ := h
  rw [Concludes, perform_bind]
  generalize activity.perform stage = outcome at hlog hrest ⊢
  obtain ⟨result, middle⟩ := outcome
  cases result with
  | error fault => exact ⟨log, .failed hlog, rest, rfl, hrest, hpaid⟩
  | ok value =>
      obtain ⟨later, hlater, htells⟩ := hnext value hrest
      exact ⟨log.append later, .bind hlog hlater, htells.append hpaid⟩

theorem Concludes.endingIdle {activity : Activity α} (h : Concludes activity stage lines) :
    Concludes (endingIdle activity) stage lines := by
  obtain ⟨log, hlog, htells⟩ := h
  exact ⟨log, .idled hlog, htells⟩

theorem concludes_session_bind {next : Session → Activity α}
    (h : Concludes (next stage.session) stage lines) :
    Concludes (session >>= next) stage lines := by
  obtain ⟨log, hlog, htells⟩ := h
  have hsession : Chronicles session stage .done (.ok stage.session, stage) := .step .session
  exact ⟨log, .bind hsession hlog, htells⟩

theorem concludes_editSession_bind {edit : Session → Session} {next : Unit → Activity α}
    (h : Concludes (next ()) { stage with session := edit stage.session } lines) :
    Concludes (editSession edit >>= next) stage lines := by
  obtain ⟨log, hlog, htells⟩ := h
  have hedit : Chronicles (editSession edit) stage .done
      (.ok (), { stage with session := edit stage.session }) := .step (.editSession edit)
  exact ⟨log, .bind hedit hlog, htells⟩

/-! ## Sweeps and turns -/

/-- To conclude on every script goes over from the parts of a game to all of it. -/
theorem spansGames_concludes : SpansGames fun activity stage =>
    ∀ lines, stage.terminal.ReadsFrom lines → Concludes activity stage lines where
  pure value _ _ h := (IsStep.pure value).concludes h
  throw fault _ _ h := (IsStep.throw fault).concludes h
  bind hfirst hnext lines h :=
    (hfirst lines h).bind fun value middle rest hrest => hnext value middle rest hrest
  session_bind hnext lines h := concludes_session_bind (hnext lines h)
  phase_bind _ hnext lines h := concludes_editSession_bind (hnext lines h)
  quiet_bind _ hnext lines h := concludes_editSession_bind (hnext lines h)
  endingIdle hactivity lines h := (hactivity lines h).endingIdle
  applyAll effects _ _ h := concludes_applyAll h effects
  drafted _ _ _ h := (IsStep.editSession _).concludes h
  say _ _ _ h := (IsStep.editSession _).concludes h
  answer _ _ _ h := (IsStep.editSession _).concludes h
  display text _ _ h := (IsStep.display text).concludes h
  flush _ _ h := IsStep.flush.concludes h
  clear _ _ h := IsStep.clear.concludes h
  offer words _ _ h := (IsStep.offer words).concludes h
  readLine _ _ h := concludes_readLine h
  save operation _ _ h := (IsStep.save operation).concludes h
  load operation _ _ h := (IsStep.load operation).concludes h

/-- A sweep goes through its events once, whatever their effects register, remove or enter. -/
theorem concludes_sweep (h : stage.terminal.ReadsFrom lines) (operation : Option Operation) :
    Concludes (sweep operation) stage lines :=
  spansGames_concludes.sweep operation stage lines h

/-- A turn comes to an end on every script, if no command in play is left to the handlers. -/
theorem concludes_turn (h : stage.terminal.ReadsFrom lines) {handlers : Handlers}
    (hunused : handlers.AreUnused stage.session.world.registry) (line : String) :
    Concludes (turn handlers line) stage lines :=
  spansGames_concludes.turn hunused line lines h

end Activity

end TextAdventure
