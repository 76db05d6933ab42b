import TextAdventure.Proofs.Games
import TextAdventure.Proofs.Stage.Commands
import TextAdventure.Proofs.Stage.Parallels

/-!
# Fresh starts

A level is built in a world from which everything has been taken, with the flags and the phase of a
new session.  So the opening of a level depends on nothing but the level and what is left to read,
and a restart brings back the game as it was at its very start, whatever has been played before.
-/

namespace TextAdventure

/-- Whether a layout leaves the count of turns alone: it puts no world in place that has been
played. -/
def Layout.KeepsTurns (layout : Layout Unit) : Prop :=
  ∀ draft, (layout.run.run draft).2.world.turns = draft.world.turns

/-- The opening of a level that can be started: nothing but its opening sweep has been played. -/
structure Level.IsOpenedOn (level : Level) (after : Stage) : Prop where
  turns : after.session.world.turns = level.draft.2.world.turns
  uncounted : level.build.KeepsTurns → after.session.world.turns = 0
  skipsSweep : after.session.skipsSweep = false
  phase : after.session.phase = .idle
  level : after.session.level = some level

/-- What is left of a level that cannot be started: the world as far as it could be built. -/
structure Level.IsAbandonedOn (level : Level) (after : Stage) : Prop where
  world : after.session.world = level.draft.2.world
  skipsSweep : after.session.skipsSweep = false
  isFinished : after.session.isFinished = false
  phase : after.session.phase = .idle

namespace Activity

variable {level : Level} {left right : Stage}

theorem blind_throw {α : Type} (fault : Fault) : Blind (throw fault : Activity α) :=
  fun _ _ h => ⟨rfl, h⟩

/-- A draft leaves nothing of the sessions it is put into. -/
theorem agrees_afterDraft (draft : Draft) (h : left.terminal.Alike right.terminal) :
    Agrees ((editSession (·.afterDraft draft)).perform left)
      ((editSession (·.afterDraft draft)).perform right) :=
  ⟨rfl, rfl, rfl, rfl, rfl, h⟩

theorem agrees_build (level : Level) (h : left.terminal.Alike right.terminal) :
    Agrees ((build level).perform left) ((build level).perform right) := by
  refine (agrees_afterDraft level.draft.2 h).bind fun _ leftAfter rightAfter hafter => ?_
  split
  · exact blind_throw _ hafter
  · split
    · exact blind_throw _ hafter
    · exact blind_pure () hafter

/-- Of the stages on which a level is started, only what is left to read matters. -/
theorem agrees_start (level : Level) (h : left.terminal.Alike right.terminal) :
    Agrees ((start level).perform left) ((start level).perform right) := by
  refine (agrees_build level h).bind fun _ leftAfter rightAfter hafter => ?_
  have hlevel : Blind (editSession fun session => { session with level := some level }) :=
    blind_editSession fun _ _ h => ⟨h.world, h.skipsSweep, h.isFinished, h.phase, h.terminals⟩
  exact hlevel.bind (fun _ => blind_sweep none) hafter

/-- A sweep that is not held within another one ends in the idle phase. -/
theorem ends_sweep_idle (operation : Option Operation) {stage : Stage}
    (h : stage.session.phase ≠ .conditionSweep) :
    Ends ((sweep operation).perform stage) (fun _ after => after.session.phase = .idle)
      fun after => after.session.phase = .idle := by
  apply ends_session_bind
  rw [if_neg h]
  apply ends_editSession_bind
  rw [perform_endingIdle]
  generalize (sweepAll operation).perform _ = outcome
  obtain ⟨result, after⟩ := outcome
  cases result with
  | error fault => rfl
  | ok report => rfl

/-- A level opens if it can be started; otherwise it is abandoned. -/
theorem opens_start (level : Level) {stage : Stage} (h : stage.terminal.IsReliable) :
    Ends ((start level).perform stage) (fun _ after => level.CanStart ∧ level.IsOpenedOn after)
      fun after => ¬ level.CanStart ∧ level.IsAbandonedOn after := by
  by_cases hstart : level.CanStart
  · rw [perform_start hstart]
    have hsweep := orderly_sweep none (stage.rebuilt level)
    have hidle : Ends ((sweep none).perform (stage.rebuilt level))
        (fun _ after => after.session.phase = .idle) fun after => after.session.phase = .idle :=
      ends_sweep_idle none nofun
    refine (Ends.and hsweep hidle).weaken ?_ fun _ hfailed => absurd h hfailed.1.2
    rintro report after ⟨hleads, hphase⟩
    have hturns : after.session.world.turns = level.draft.2.world.turns := hleads.world.turns
    refine ⟨hstart, hturns, fun hkeeps => ?_, hleads.skipsSweep, hphase, hleads.level⟩
    rw [hturns]
    exact hkeeps Draft.empty
  · obtain ⟨fault, hfailed⟩ := exists_perform_start hstart stage
    rw [hfailed]
    exact ⟨hstart, rfl, rfl, rfl, rfl⟩

/-- A restart forgets everything.  Whatever has been played in two sessions in which a level was
started, a restart ends with the same report in the same world, with the same flags and in the same
phase, and so does the start of the level in a new session. -/
theorem restart_forgets (hleft : left.session.level = some level)
    (hright : right.session.level = some level) (hsame : left.terminal.Alike right.terminal) :
    Agrees (restart.perform left) (restart.perform right) ∧
      (∀ terminal store, left.terminal.Alike terminal →
        Agrees (restart.perform left) ((start level).perform ⟨Session.fresh, terminal, store⟩)) ∧
      Ends (restart.perform left) (fun _ after => level.CanStart ∧ level.IsOpenedOn after)
        fun after => ¬ level.CanStart ∧ level.IsAbandonedOn after := by
  rw [perform_restart hleft, perform_restart hright]
  refine ⟨agrees_start level hsame, ?_, opens_start level hsame.reliable⟩
  intro terminal store hnew
  exact agrees_start level hnew

end Activity

/-! ## Two visitors -/

def Level.mirrors : Level where
  name := "The Hall of Mirrors"
  build := Layout.editWorld fun _ => World.mirrors

/-- Somebody has left the belfry in the middle of a sweep, with a bell to be heard. -/
def Stage.ringing : Stage where
  session := {
    world := { World.belfry with turns := 7 }
    output := ["The bell rings."]
    skipsSweep := true
    isFinished := true
    phase := .conditionSweep
    level := some Level.mirrors }
  terminal := .scripted (Script.ofLines ["1", "who", "1"])
  store := .slots Slots.empty

/-- Somebody else is about to type the same lines. -/
def Stage.entering : Stage where
  session := { Session.fresh with world := World.mirrors, level := some Level.mirrors }
  terminal := .stream (LineStream.ofLines ["1\r", "who", "1\r"])
  store := .slots Slots.empty

theorem Activity.restart_forgets_mirrors :
    Stage.ringing.session.level = some Level.mirrors ∧
      Stage.entering.session.level = some Level.mirrors ∧
      Stage.ringing.terminal.Alike Stage.entering.terminal ∧
      Agrees (restart.perform Stage.ringing) (restart.perform Stage.entering) ∧
      (∀ terminal store, Stage.ringing.terminal.Alike terminal →
        Agrees (restart.perform Stage.ringing)
          ((start Level.mirrors).perform ⟨Session.fresh, terminal, store⟩)) ∧
      Ends (restart.perform Stage.ringing)
        (fun _ after => Level.mirrors.CanStart ∧ Level.mirrors.IsOpenedOn after)
        fun after => ¬ Level.mirrors.CanStart ∧ Level.mirrors.IsAbandonedOn after := by
  have hsame : Stage.ringing.terminal.Alike Stage.entering.terminal :=
    ⟨⟨rfl, rfl⟩, trivial, by decide +kernel⟩
  exact ⟨rfl, rfl, hsame, restart_forgets rfl rfl hsame⟩

end TextAdventure
