import TextAdventure.Proofs.Rulebook.Runs
import TextAdventure.Proofs.Stage.Sweeps

/-!
# What a turn comes to

A turn goes on from the world in play, unless it loads a world or starts over; only a save
changes the store.  So the rulebook stays as it is in every turn but those two: no entity is
registered, the order of those that stay is kept, and so is all that play does not touch.
-/

namespace TextAdventure

namespace Stage

/-! ## Going on -/

/-- A stage goes on from a registry to another stage, with the same level and store. -/
structure GoesOn (stage : Stage) (registry : Registry) (next : Stage) : Prop where
  registry : registry.LeadsTo next.session.world.registry
  level : next.session.level = stage.session.level
  store : next.store = stage.store
  terminal : stage.terminal.IsReliable → next.terminal.IsReliable

variable {stage middle next : Stage} {registry : Registry}

theorem GoesOn.trans (h : stage.GoesOn registry middle)
    (hnext : middle.GoesOn middle.session.world.registry next) : stage.GoesOn registry next where
  registry := h.registry.trans hnext.registry
  level := hnext.level.trans h.level
  store := hnext.store.trans h.store
  terminal := fun hreliable => hnext.terminal (h.terminal hreliable)

/-- The phase has no part in how a stage goes on. -/
theorem GoesOn.of_running (h : stage.running.GoesOn registry next) :
    stage.GoesOn registry next :=
  ⟨h.registry, h.level, h.store, h.terminal⟩

theorem LeadsTo.goesOn (h : stage.LeadsTo next) :
    stage.GoesOn stage.session.world.registry next :=
  ⟨h.world.registry, h.level, h.store, h.terminal⟩

theorem Follows.goesOn {α : Type} {outcome : Except Fault α × Stage} (h : stage.Follows outcome) :
    stage.GoesOn stage.session.world.registry outcome.2 := by
  obtain ⟨result, after⟩ := outcome
  cases result with
  | error fault => exact h.1.goesOn
  | ok value => exact LeadsTo.goesOn h

/-- What the play of a line comes to, whether it ends well or fails. -/
inductive ComesTo (stage : Stage) (line : String) (next : Stage) : Prop where
  | played (hunsaved : ∀ operation, ¬ stage.Runs line .save operation)
      (h : stage.GoesOn stage.session.world.registry next)
  | saved (operation : Operation) (hruns : stage.Runs line .save operation)
      (h : { stage with
        store := (stage.store.save operation.slot stage.session.world).2 }.GoesOn
          stage.session.world.registry next)
  | loaded (operation : Operation) (world : World) (hruns : stage.Runs line .load operation)
      (hoffers : stage.store.Offers operation.slot world) (h : stage.GoesOn world.registry next)
  | restarted (operation : Operation) (level : Level) (hruns : stage.Runs line .restart operation)
      (hlevel : stage.session.level = some level)
      (h : stage.GoesOn level.draft.2.world.registry next)

theorem ComesTo.goesOn {line : String} (h : stage.ComesTo line middle)
    (hnext : middle.GoesOn middle.session.world.registry next) : stage.ComesTo line next := by
  cases h with
  | played hunsaved h => exact .played hunsaved (h.trans hnext)
  | saved operation hruns h => exact .saved operation hruns (h.trans hnext)
  | loaded operation world hruns hoffers h =>
      exact .loaded operation world hruns hoffers (h.trans hnext)
  | restarted operation level hruns hlevel h =>
      exact .restarted operation level hruns hlevel (h.trans hnext)

theorem ComesTo.terminal {line : String} (h : stage.ComesTo line next) :
    stage.terminal.IsReliable → next.terminal.IsReliable := by
  cases h with
  | played _ h => exact h.terminal
  | saved _ _ h => exact h.terminal
  | loaded _ _ _ _ h => exact h.terminal
  | restarted _ _ _ _ h => exact h.terminal

end Stage

namespace Activity

open Stage

variable {stage : Stage}

/-! ## Commands -/

theorem goesOn_loaded (stage : Stage) (slot : String) (world : World) :
    stage.GoesOn world.registry (stage.loaded slot world) :=
  ⟨(World.PassesTo.describeLocation world).leadsTo.registry, rfl, rfl, fun h => h⟩

theorem goesOn_reopened (stage : Stage) :
    stage.GoesOn stage.session.world.registry stage.reopened :=
  ⟨(World.PassesTo.describeLocation stage.session.world).leadsTo.registry, rfl, rfl, fun h => h⟩

/-- However a new game begins, it goes on from what the level has built. -/
theorem goesOn_start (stage : Stage) {level : Level} (h : stage.session.level = some level) :
    stage.GoesOn level.draft.2.world.registry ((start level).perform stage).2 := by
  by_cases hstart : level.CanStart
  · rw [perform_start hstart]
    have hrebuilt : stage.GoesOn level.draft.2.world.registry (stage.rebuilt level) :=
      ⟨.refl _, h.symm, rfl, fun hreliable => hreliable⟩
    exact hrebuilt.trans (orderly_sweep none (stage.rebuilt level)).goesOn
  · obtain ⟨fault, hfailed⟩ := exists_perform_start hstart stage
    rw [hfailed]
    exact ⟨.refl _, rfl, rfl, fun hreliable => hreliable⟩

theorem goesOn_startOver (stage : Stage) {level : Level} (h : stage.session.level = some level) :
    stage.GoesOn level.draft.2.world.registry (startOver.perform stage).2 := by
  have hstart := goesOn_start stage h
  rw [perform_startOver, perform_restart h]
  generalize (start level).perform stage = outcome at hstart ⊢
  obtain ⟨result, after⟩ := outcome
  cases result with
  | error fault => exact hstart
  | ok report => exact hstart.trans (goesOn_reopened after)

theorem goesOn_startOver_of_none (stage : Stage) (h : stage.session.level = none) :
    stage.GoesOn stage.session.world.registry (startOver.perform stage).2 := by
  have hrestart : ∃ fault, restart.perform stage = (.error fault, stage) := by
    rw [restart, perform_bind, perform_session]
    simp only [h]
    exact ⟨_, rfl⟩
  obtain ⟨fault, hrestart⟩ := hrestart
  rw [perform_startOver, hrestart]
  exact (LeadsTo.refl stage).goesOn

theorem comesTo_run (handlers : Handlers) (hbuiltIn : stage.session.world.registry.IsBuiltIn)
    {line : String} (hunfinished : stage.session.isFinished = false) {operation : Operation}
    (hreading : stage.session.reading line = .parsed operation) :
    stage.ComesTo line ((run handlers operation).perform stage.running).2 := by
  have hruns := runsTo_run handlers hbuiltIn hunfinished hreading
  generalize (run handlers operation).perform stage.running = outcome at hruns
  cases hruns with
  | played hstays hunsaved h => exact .played hunsaved h.goesOn.of_running
  | saved text hruns => exact .saved operation hruns ⟨.refl _, rfl, rfl, fun h => h⟩
  | loaded world hruns hoffers =>
      exact .loaded operation world hruns hoffers (goesOn_loaded stage.running _ world).of_running
  | restarted hruns =>
      cases hlevel : stage.session.level with
      | none =>
          exact .played (hruns.not_saves nofun)
            (goesOn_startOver_of_none stage.running hlevel).of_running
      | some level =>
          exact .restarted operation level hruns hlevel
            (goesOn_startOver stage.running hlevel).of_running

/-! ## Turns -/

/-- An activity that goes on from the world in play. -/
def Continues {α : Type} (activity : Activity α) : Prop :=
  ∀ stage : Stage, stage.GoesOn stage.session.world.registry (activity.perform stage).2

variable {α β : Type} {activity : Activity α} {next : α → Activity β}

theorem Orderly.continues (h : Orderly activity) : Continues activity :=
  fun stage => (h stage).goesOn

theorem Continues.bind (h : Continues activity) (hnext : ∀ value, Continues (next value)) :
    Continues (activity >>= next) := by
  intro stage
  have hfirst := h stage
  rw [perform_bind]
  generalize activity.perform stage = outcome at hfirst
  obtain ⟨result, middle⟩ := outcome
  cases result with
  | error fault => exact hfirst
  | ok value => exact hfirst.trans (hnext value middle)

theorem continues_finishTurn (operation : Operation) : Continues (finishTurn operation) := by
  refine orderly_session.continues.bind fun session => ?_
  split
  · refine Continues.bind (fun stage => ?_) fun _ => (orderly_pure none).continues
    exact ⟨.refl _, rfl, rfl, fun h => h⟩
  · refine Continues.bind (fun stage => ?_) fun _ => ?_
    · exact ⟨.refl _, rfl, rfl, fun h => h⟩
    · exact ((orderly_sweep _).bind fun _ => orderly_pure _).continues

theorem comesTo_runTurn (handlers : Handlers) (hbuiltIn : stage.session.world.registry.IsBuiltIn)
    {line : String} (hunfinished : stage.session.isFinished = false) {operation : Operation}
    (hreading : stage.session.reading line = .parsed operation) :
    stage.ComesTo line ((runTurn handlers operation).perform stage).2 := by
  have hrun := comesTo_run handlers hbuiltIn hunfinished hreading
  have hrest : ∀ _ : Unit, Continues (do
      let report ← finishTurn operation
      flush
      return Outcome.ran operation.command report) :=
    fun _ => (continues_finishTurn operation).bind fun report =>
      (orderly_flush.bind fun _ => orderly_pure _).continues
  have hturn : (runTurn handlers operation).perform stage =
      (endingIdle (run handlers operation) >>= fun _ => do
        let report ← finishTurn operation
        flush
        return Outcome.ran operation.command report).perform stage.running := rfl
  rw [hturn, perform_bind, perform_endingIdle]
  generalize (run handlers operation).perform stage.running = outcome at hrun ⊢
  obtain ⟨result, ran⟩ := outcome
  have hidled : stage.ComesTo line (idled ran) := hrun.goesOn (leadsTo_withPhase ran .idle).goesOn
  cases result with
  | error fault => exact hidled
  | ok value => exact hidled.goesOn (hrest value (idled ran))

/-- Every turn goes on from the world in play, or is a save, a load or a restart. -/
theorem comesTo_turn (handlers : Handlers) (hbuiltIn : stage.session.world.registry.IsBuiltIn)
    (line : String) : stage.ComesTo line ((turn handlers line).perform stage).2 := by
  rw [turn, perform_bind, perform_session]
  dsimp only
  split
  next hfinished =>
    exact .played (fun _ => not_runs (.inl hfinished)) (LeadsTo.refl stage).goesOn
  next hfinished =>
    split
    next hempty =>
      refine .played (fun _ => not_runs (.inr (by rw [hempty]; rfl))) ?_
      exact ((orderly_flush.bind fun _ => orderly_pure _) stage).goesOn
    next word hunknown =>
      refine .played (fun _ => not_runs (.inr (by rw [hunknown]; rfl))) (Orderly.continues ?_ stage)
      exact (orderly_say _).bind fun _ => orderly_flush.bind fun _ => orderly_pure _
    next operation hreading =>
      exact comesTo_runTurn handlers hbuiltIn (eq_false_of_ne_true hfinished) hreading

/-- In a turn that neither loads a world nor starts over, the entities that are registered
afterwards are ones that were so before, in the same order, and none of them differs but in its
statuses, what is in its container, where it is as a pawn, and the options left of it as a
dialog. -/
theorem registry_leadsTo_turn (handlers : Handlers) (stage : Stage) (line : String)
    (hbuiltIn : stage.session.world.registry.IsBuiltIn) (hstays : ¬ stage.ReplacesWorld line) :
    stage.session.world.registry.LeadsTo
      ((turn handlers line).perform stage).2.session.world.registry := by
  cases comesTo_turn handlers hbuiltIn line with
  | played hunsaved h => exact h.registry
  | saved operation hruns h => exact h.registry
  | loaded operation world hruns hoffers h =>
      exact absurd (Or.inl ⟨operation, world, hruns, hoffers⟩) hstays
  | restarted operation level hruns hlevel h => exact absurd (Or.inr ⟨operation, hruns⟩) hstays

/-- While someone waits in the belfry it gets dark, and the bats are gone. -/
theorem registry_leadsTo_turn_belfry :
    Stage.belfry.session.world.registry.IsBuiltIn ∧ ¬ Stage.belfry.ReplacesWorld "wait" ∧
      Stage.belfry.session.world.registry.LeadsTo
        ((turn [] "wait").perform Stage.belfry).2.session.world.registry := by
  have hbuiltIn : Stage.belfry.session.world.registry.IsBuiltIn := by decide +kernel
  have hwaits : (Stage.belfry.session.reading "wait").operation?.bind (fun operation =>
      (Stage.belfry.session.world.registry.command? operation.command).map Command.behavior) =
        some .wait := by decide +kernel
  have hstays : ¬ Stage.belfry.ReplacesWorld "wait" := by
    rintro (⟨operation, world, hruns, _⟩ | ⟨operation, hruns⟩)
    · rw [hruns.reading] at hwaits
      cases hruns.behavior.symm.trans hwaits
    · rw [hruns.reading] at hwaits
      cases hruns.behavior.symm.trans hwaits
  exact ⟨hbuiltIn, hstays, registry_leadsTo_turn [] Stage.belfry "wait" hbuiltIn hstays⟩

end Activity

end TextAdventure
