import TextAdventure.Proofs.Rulebook.Stages
import TextAdventure.Proofs.Soundness.Entities
import TextAdventure.Proofs.Stage.Commands
import TextAdventure.Stage.Turn

/-!
# What a command comes to

With behaviors that the game itself has, a command goes on in the world in play, saves it,
loads another one, or starts over; which of these it is can be told from the line, the
registered commands and the store.
-/

namespace TextAdventure

/-- All commands of a registry have behaviors that the game itself has. -/
def Registry.IsBuiltIn (registry : Registry) : Prop :=
  ∀ entity ∈ registry.entities, ∀ command ∈ entity.kind.command?,
    command.behavior.isBuiltIn = true

instance (registry : Registry) : Decidable registry.IsBuiltIn :=
  inferInstanceAs (Decidable (∀ entity ∈ registry.entities, ∀ command ∈ entity.kind.command?,
    command.behavior.isBuiltIn = true))

namespace Registry.IsBuiltIn

variable {registry : Registry}

theorem of_command? (h : registry.IsBuiltIn) {key : Key} {command : Command}
    (hcommand : registry.command? key = some command) : command.behavior.isBuiltIn = true := by
  obtain ⟨entity, hget, hkind⟩ := Option.bind_eq_some_iff.mp hcommand
  exact h entity (mem_of_get? hget) command hkind

theorem leadsTo {after : Registry} (h : registry.IsBuiltIn) (hleads : registry.LeadsTo after) :
    after.IsBuiltIn := by
  intro entity hentity command hcommand
  obtain ⟨old, hold, hlater⟩ := hleads.entities entity hentity
  rw [hlater.kind.command?_eq] at hcommand
  exact h old hold command hcommand

end Registry.IsBuiltIn

namespace Stage

/-- A line makes an operation run whose command has a behavior. -/
structure Runs (stage : Stage) (line : String) (behavior : Behavior) (operation : Operation) :
    Prop where
  unfinished : stage.session.isFinished = false
  reading : stage.session.reading line = .parsed operation
  behavior : (stage.session.world.registry.command? operation.command).map Command.behavior =
    some behavior

instance (stage : Stage) (line : String) (behavior : Behavior) (operation : Operation) :
    Decidable (stage.Runs line behavior operation) :=
  decidable_of_decidable_of_iff
    (p := stage.session.isFinished = false ∧ stage.session.reading line = .parsed operation ∧
      (stage.session.world.registry.command? operation.command).map Command.behavior =
        some behavior)
    ⟨fun h => ⟨h.1, h.2.1, h.2.2⟩, fun h => ⟨h.unfinished, h.reading, h.behavior⟩⟩

/-- A line that puts another world in place of the one in play: it loads one that the store
offers, or starts over. -/
def ReplacesWorld (stage : Stage) (line : String) : Prop :=
  (∃ operation world, stage.Runs line .load operation ∧
    stage.store.Offers operation.slot world) ∨
  ∃ operation, stage.Runs line .restart operation

variable {stage : Stage} {line : String} {behavior : Behavior} {operation : Operation}

theorem not_runs (h : stage.session.isFinished = true ∨
    (stage.session.reading line).operation? = none) : ¬ stage.Runs line behavior operation := by
  intro hruns
  rcases h with hfinished | hunread
  · cases hruns.unfinished.symm.trans hfinished
  · rw [hruns.reading] at hunread
    cases hunread

/-- A line runs one operation, by one behavior. -/
theorem Runs.unique (h : stage.Runs line behavior operation) {other : Behavior}
    {otherOperation : Operation} (hother : stage.Runs line other otherOperation) :
    behavior = other ∧ operation = otherOperation := by
  have hoperation : operation = otherOperation :=
    Reading.parsed.inj (h.reading.symm.trans hother.reading)
  subst hoperation
  exact ⟨Option.some.inj (h.behavior.symm.trans hother.behavior), rfl⟩

theorem Runs.not_replacesWorld (h : stage.Runs line behavior operation)
    (hload : behavior = .load → ∀ world, ¬ stage.store.Offers operation.slot world)
    (hrestart : behavior ≠ .restart) : ¬ stage.ReplacesWorld line := by
  rintro (⟨loading, world, hruns, hoffers⟩ | ⟨restarting, hruns⟩)
  · obtain ⟨hbehavior, rfl⟩ := h.unique hruns
    exact hload hbehavior world hoffers
  · exact hrestart (h.unique hruns).1

theorem not_replacesWorld_of_behavior
    (h : (stage.session.reading line).operation?.bind (fun operation =>
      (stage.session.world.registry.command? operation.command).map Command.behavior) =
        some behavior)
    (hload : behavior ≠ .load) (hrestart : behavior ≠ .restart) : ¬ stage.ReplacesWorld line := by
  rintro (⟨operation, world, hruns, -⟩ | ⟨operation, hruns⟩)
  · rw [hruns.reading] at h
    exact hload (Option.some.inj (h.symm.trans hruns.behavior))
  · rw [hruns.reading] at h
    exact hrestart (Option.some.inj (h.symm.trans hruns.behavior))

theorem Runs.not_saves (h : stage.Runs line behavior operation) (hsave : behavior ≠ .save)
    (saving : Operation) : ¬ stage.Runs line .save saving :=
  fun hruns => hsave (h.unique hruns).1

/-- The stage on which a command is about to run. -/
def running (stage : Stage) : Stage :=
  { stage with session := { stage.session with phase := .commandRunning } }

/-- What the operation of a line comes to. -/
inductive RunsTo (stage : Stage) (line : String) (operation : Operation) :
    Except Fault Unit × Stage → Prop where
  | played {outcome : Except Fault Unit × Stage} (hstays : ¬ stage.ReplacesWorld line)
      (hunsaved : ∀ saving, ¬ stage.Runs line .save saving)
      (h : stage.running.Follows outcome) : RunsTo stage line operation outcome
  | saved (text : String) (hruns : stage.Runs line .save operation) :
      RunsTo stage line operation (.ok (),
        { stage.running with
          session := stage.running.session.say text
          store := (stage.store.save operation.slot stage.session.world).2 })
  | loaded (world : World) (hruns : stage.Runs line .load operation)
      (hoffers : stage.store.Offers operation.slot world) :
      RunsTo stage line operation (.ok (), stage.running.loaded operation.slot world)
  | restarted (hruns : stage.Runs line .restart operation) :
      RunsTo stage line operation (Activity.startOver.perform stage.running)

end Stage

namespace Activity

open Stage

variable {stage : Stage} {line : String} {operation : Operation}

theorem runsTo_runBehavior (handlers : Handlers) {behavior : Behavior}
    (hbuiltIn : behavior.isBuiltIn = true) (hruns : stage.Runs line behavior operation) :
    stage.RunsTo line operation
      ((runBehavior handlers operation behavior).perform stage.running) := by
  cases behavior with
  | save =>
      obtain ⟨text, hsave⟩ := exists_perform_save operation stage.running
      rw [runBehavior, hsave]
      exact .saved text hruns
  | load =>
      rw [runBehavior]
      by_cases hoffers : ∃ world, stage.running.store.Offers operation.slot world
      · obtain ⟨world, hworld⟩ := hoffers
        rw [perform_load hworld]
        exact .loaded world hruns hworld
      · have hrefused := not_exists.mp hoffers
        obtain ⟨text, hload⟩ := exists_perform_load hrefused
        rw [hload]
        exact .played (hruns.not_replacesWorld (fun _ => hrefused) nofun)
          (hruns.not_saves nofun) (leadsTo_say stage.running text)
  | restart => exact .restarted hruns
  | custom handler => cases hbuiltIn
  | _ =>
      exact .played (hruns.not_replacesWorld nofun nofun) (hruns.not_saves nofun)
        (orderly_runBehavior handlers operation rfl stage.running)

theorem runsTo_run (handlers : Handlers) (hbuiltIn : stage.session.world.registry.IsBuiltIn)
    (hunfinished : stage.session.isFinished = false)
    (hreading : stage.session.reading line = .parsed operation) :
    stage.RunsTo line operation ((run handlers operation).perform stage.running) := by
  rw [run, perform_bind, perform_session]
  dsimp only
  split
  next hnone =>
    have hnotRun : ∀ behavior other, ¬ stage.Runs line behavior other := by
      intro behavior other hruns
      cases hreading.symm.trans hruns.reading
      have hbehavior := hruns.behavior
      have hnone : stage.session.world.registry.command? operation.command = none := hnone
      rw [hnone] at hbehavior
      cases hbehavior
    have hstays : ¬ stage.ReplacesWorld line := by
      rintro (⟨loading, _, hruns, _⟩ | ⟨restarting, hruns⟩)
      · exact hnotRun _ _ hruns
      · exact hnotRun _ _ hruns
    exact .played hstays (hnotRun _) (leadsTo_say stage.running _)
  next command hcommand =>
    have hcommand : stage.session.world.registry.command? operation.command = some command :=
      hcommand
    have hruns : stage.Runs line command.behavior operation :=
      ⟨hunfinished, hreading, by rw [hcommand]; rfl⟩
    exact runsTo_runBehavior handlers (hbuiltIn.of_command? hcommand) hruns

end Activity

end TextAdventure
