import TextAdventure.Proofs.Stage.Contracts
import TextAdventure.Stage.Command

/-!
# Saving, loading and starting over

What the three commands do that reach beyond the world in play: a save changes the store, and
a load and a restart put another world in place of the one in play.
-/

namespace TextAdventure

/-- A store offers a world under a name when it can go on from there. -/
structure Store.Offers (store : Store) (name : String) (world : World) : Prop where
  load : store.load name = .ok world
  player : world.playerPawn?.isSome = true

/-- A level whose layout can be built to its end, with a registered pawn for the player. -/
structure Level.CanStart (level : Level) : Prop where
  completes : level.draft.1 = .ok ()
  player : level.draft.2.world.playerPawn?.isSome = true

namespace Session

theorem restore_of_player {world : World} (session : Session)
    (h : world.playerPawn?.isSome = true) :
    session.restore world = .ok { session with world := world, isFinished := false } := by
  obtain ⟨pawn, hpawn⟩ := Option.isSome_iff_exists.mp h
  rw [restore, World.check, hpawn]
  rfl

theorem restore_ne_ok {world : World} (session after : Session)
    (h : ¬ world.playerPawn?.isSome = true) : session.restore world ≠ .ok after := by
  rw [restore, World.check, Option.not_isSome_iff_eq_none.mp h]
  exact nofun

end Session

namespace Stage

/-- The stage on which a world has been loaded and described. -/
def loaded (stage : Stage) (slot : String) (world : World) : Stage :=
  { stage with
    session := (({ stage.session with
        world := world
        isFinished := false
        skipsSweep := true }).say ("Loaded '" ++ slot ++ "'.")).accept world.describeLocation }

/-- The stage on which a level has been built from nothing. -/
def rebuilt (stage : Stage) (level : Level) : Stage :=
  { stage with session := { stage.session.afterDraft level.draft.2 with level := some level } }

/-- The stage on which a new game has been opened and described. -/
def reopened (stage : Stage) : Stage :=
  { stage with
    session := { stage.session with skipsSweep := true }.accept
      stage.session.world.describeLocation }

end Stage

namespace Activity

variable {stage : Stage}

theorem perform_reporting {α : Type} (complaint : String) (activity : Activity α)
    (next : α → Activity Unit) (stage : Stage) :
    (reporting complaint activity next).perform stage =
      match activity.perform stage with
      | (.error fault, after) => (say (complaint ++ fault.message)).perform after
      | (.ok value, after) => (next value).perform after := rfl

/-- Whether the store keeps the world or refuses to, a save says so and goes on. -/
theorem exists_perform_save (operation : Operation) (stage : Stage) :
    ∃ text, (save operation).perform stage = (.ok (),
      { stage with
        session := stage.session.say text
        store := (stage.store.save operation.slot stage.session.world).2 }) := by
  rw [save, perform_reporting]
  have hsave : (saveTo operation.slot).perform stage =
      ((stage.store.save operation.slot stage.session.world).1,
        { stage with store := (stage.store.save operation.slot stage.session.world).2 }) := rfl
  rw [hsave]
  cases (stage.store.save operation.slot stage.session.world).1 with
  | error fault => exact ⟨_, rfl⟩
  | ok value => exact ⟨_, rfl⟩

theorem perform_load {operation : Operation} {world : World}
    (h : stage.store.Offers operation.slot world) :
    (load operation).perform stage = (.ok (), stage.loaded operation.slot world) := by
  have hload : (loadFrom operation.slot).perform stage =
      (.ok (), { stage with
        session := { stage.session with world := world, isFinished := false } }) := by
    simp only [perform, loadFrom, ofStep, ExceptT.mk, ExceptT.run, StateT.run, h.load,
      Session.restore_of_player stage.session h.player]
  rw [load, perform_reporting, hload]
  rfl

/-- Without a world to go on from nothing is loaded. -/
theorem exists_perform_loadFrom {name : String} (h : ∀ world, ¬ stage.store.Offers name world) :
    ∃ fault, (loadFrom name).perform stage = (.error fault, stage) := by
  simp only [perform, loadFrom, ofStep, ExceptT.mk, ExceptT.run, StateT.run]
  split
  next fault _ => exact ⟨fault, rfl⟩
  next world hworld =>
    split
    next fault _ => exact ⟨fault, rfl⟩
    next session hrestore =>
      have hplayer : ¬ world.playerPawn?.isSome = true := fun hplayer => h world ⟨hworld, hplayer⟩
      exact absurd hrestore (stage.session.restore_ne_ok session hplayer)

/-- A load without a world to go on from says so and leaves everything as it is. -/
theorem exists_perform_load {operation : Operation}
    (h : ∀ world, ¬ stage.store.Offers operation.slot world) :
    ∃ text, (load operation).perform stage =
      (.ok (), { stage with session := stage.session.say text }) := by
  obtain ⟨fault, hload⟩ := exists_perform_loadFrom h
  rw [load, perform_reporting, hload]
  exact ⟨_, rfl⟩

/-! ## Starting over -/

theorem perform_build {level : Level} (h : level.CanStart) (stage : Stage) :
    (build level).perform stage =
      (.ok (), { stage with session := stage.session.afterDraft level.draft.2 }) := by
  obtain ⟨pawn, hpawn⟩ := Option.isSome_iff_exists.mp h.player
  rw [build, perform_bind, perform_editSession]
  simp only [h.completes, hpawn]
  rfl

theorem perform_start {level : Level} (h : level.CanStart) (stage : Stage) :
    (start level).perform stage = (sweep none).perform (stage.rebuilt level) := by
  rw [start, perform_bind, perform_build h]
  rfl

/-- A level that cannot be built to its end leaves the half-built world behind. -/
theorem exists_perform_start {level : Level} (h : ¬ level.CanStart) (stage : Stage) :
    ∃ fault, (start level).perform stage =
      (.error fault, { stage with session := stage.session.afterDraft level.draft.2 }) := by
  have hbuild : ∃ fault, (build level).perform stage =
      (.error fault, { stage with session := stage.session.afterDraft level.draft.2 }) := by
    rw [build, perform_bind, perform_editSession]
    cases hdraft : level.draft.1 with
    | error fault => exact ⟨_, rfl⟩
    | ok value =>
        cases hpawn : level.draft.2.world.playerPawn? with
        | none =>
            simp only
            exact ⟨_, rfl⟩
        | some pawn => exact absurd ⟨hdraft, by rw [hpawn]; rfl⟩ h
  obtain ⟨fault, hbuild⟩ := hbuild
  exact ⟨fault, by rw [start, perform_bind, hbuild]⟩

theorem perform_restart {level : Level} (h : stage.session.level = some level) :
    restart.perform stage = (start level).perform stage := by
  rw [restart, perform_bind, perform_session]
  simp only [h]

/-- A restart sweeps the events of the new game, and describes it if that went well. -/
theorem perform_startOver (stage : Stage) :
    startOver.perform stage =
      match restart.perform stage with
      | (.error fault, after) => (.error fault, after)
      | (.ok _, after) => (.ok (), after.reopened) := by
  have hdiscard : (discard restart).perform stage =
      (restart >>= fun _ => (pure () : Activity Unit)).perform stage := rfl
  rw [startOver, perform_bind, hdiscard, perform_bind]
  generalize restart.perform stage = outcome
  obtain ⟨result, after⟩ := outcome
  cases result with
  | error fault => rfl
  | ok report => rfl

/-! ## Running a registered command -/

theorem perform_run_of_command? (handlers : Handlers) {operation : Operation} {command : Command}
    (h : stage.session.world.registry.command? operation.command = some command) :
    (run handlers operation).perform stage =
      (runBehavior handlers operation command.behavior).perform stage := by
  rw [run, perform_bind, perform_session]
  dsimp only
  rw [h]

end Activity

end TextAdventure
