import TextAdventure.Game
import TextAdventure.Proofs.Rulebook.Stages
import TextAdventure.Proofs.Stage.Commands

/-!
# The stages of a game

A game is started, and then it takes one step after another, each of which plays the next line if
there is one.  The stages that it comes through are those after its start and after each step,
whatever the step came to; with each of them goes what has been played to get there.  Where the
terminal refuses nothing, every level that can be started is.
-/

namespace TextAdventure

/-- What a game plays next: the line that it reads, and the stage on which it plays it. -/
def Stage.nextMove? (stage : Stage) : Option (Stage × String) :=
  if stage.session.isFinished then none
  else
    match (stage.terminal.offer stage.session.world.completions).readLine with
    | .ok (some line, terminal) => some ({ stage with terminal := terminal }, line)
    | _ => none

namespace Activity

variable {α β : Type}

/-- An activity that fails on no terminal that refuses nothing. -/
def GoesWell (activity : Activity α) : Prop :=
  ∀ stage : Stage, stage.terminal.IsReliable →
    Ends (activity.perform stage) (fun _ after => after.terminal.IsReliable) fun _ => False

theorem Orderly.goesWell {activity : Activity α} (h : Orderly activity) : GoesWell activity :=
  fun stage hreliable => (h stage).weaken (fun _ _ hnext => hnext.terminal hreliable)
    fun _ hfailed => hfailed.2 hreliable

theorem GoesWell.bind {activity : Activity α} {next : α → Activity β} (h : GoesWell activity)
    (hnext : ∀ value, GoesWell (next value)) : GoesWell (activity >>= next) :=
  fun stage hreliable => (h stage hreliable).bind fun value middle => hnext value middle

theorem goesWell_start {level : Level} (h : level.CanStart) : GoesWell (start level) := by
  intro stage hreliable
  rw [perform_start h]
  exact (orderly_sweep none).goesWell _ hreliable

end Activity

namespace Game

open Activity

/-! ## Starting -/

theorem goesWell_showBanner (game : Game) : GoesWell game.showBanner := by
  refine GoesWell.bind (fun stage hreliable => ?_) fun _ => (orderly_display _).goesWell
  cases hterminal : stage.terminal with
  | scripted script =>
      rw [hterminal] at hreliable
      simp only [perform_editTerminal, hterminal, Ends]
      exact ⟨hreliable.displays, hreliable.reads⟩
  | stream lines =>
      simp only [perform_editTerminal, hterminal, Ends]
      trivial

theorem goesWell_start {game : Game} (h : game.level.CanStart) : GoesWell game.start := by
  have hopening : GoesWell (do
      discard (Activity.start game.level)
      answer World.describeLocation
      flush) := by
    refine GoesWell.bind ((Activity.goesWell_start h).bind fun _ => (orderly_pure ()).goesWell)
      fun _ => ?_
    exact ((orderly_answer World.PassesTo.describeLocation).bind fun _ => orderly_flush).goesWell
  unfold start
  split
  · exact (goesWell_showBanner game).bind fun _ => hopening
  · exact hopening

/-! ## Visits -/

/-- The stages of a game that has been started, with all lines that it has played, each with the
stage on which it was played. -/
inductive Visits (game : Game) (opening : Stage) : List (Stage × String) → Stage → Prop where
  | started {stage : Stage} (h : game.start.perform opening = (.ok (), stage)) :
      Visits game opening [] stage
  | stepped {moves : List (Stage × String)} {stage : Stage} (h : Visits game opening moves stage) :
      Visits game opening (moves ++ stage.nextMove?.toList) (step.perform stage).2

/-- A step plays the next line, or has none to play and changes nothing but the terminal. -/
theorem step_cases (stage : Stage) :
    (∃ terminal line, stage.nextMove? = some ({ stage with terminal := terminal }, line) ∧
      step.perform stage = (playLine line).perform { stage with terminal := terminal }) ∨
      ∃ result terminal, stage.nextMove? = none ∧
        step.perform stage = (result, { stage with terminal := terminal }) := by
  rw [step, perform_bind, perform_session, Stage.nextMove?]
  dsimp only
  split
  · exact Or.inr ⟨_, _, rfl, rfl⟩
  · rw [readAndPlay, perform_bind, perform_session]
    dsimp only
    rw [perform_bind, perform_editTerminal]
    dsimp only
    rw [perform_bind]
    simp only [perform, readLine, ofStep, ExceptT.mk, ExceptT.run, StateT.run]
    cases (stage.terminal.offer stage.session.world.completions).readLine with
    | error fault => exact Or.inr ⟨_, _, rfl, rfl⟩
    | ok heard =>
        obtain ⟨line, terminal⟩ := heard
        cases line with
        | none => exact Or.inr ⟨_, _, rfl, rfl⟩
        | some line => exact Or.inl ⟨_, _, rfl, rfl⟩

/-- A game that plays on ends on one of its stages. -/
theorem Visits.exists_playOn {game : Game} {opening stage : Stage}
    {moves : List (Stage × String)} (h : game.Visits opening moves stage) :
    ∃ later, game.Visits opening later (playOn stage).2 := by
  fun_induction playOn stage generalizing moves with
  | case1 stage fault after hstep =>
      have hstepped := h.stepped
      rw [hstep] at hstepped
      exact ⟨_, hstepped⟩
  | case2 stage after hstep =>
      have hstepped := h.stepped
      rw [hstep] at hstepped
      exact ⟨_, hstepped⟩
  | case3 stage middle hstep hless ih =>
      have hstepped := h.stepped
      rw [hstep] at hstepped
      exact ih hstepped

/-- On a terminal that refuses nothing, a game comes to its end on one of its stages. -/
theorem exists_visits_play {game : Game} (h : game.level.CanStart) {opening : Stage}
    (hreliable : opening.terminal.IsReliable) :
    ∃ moves, game.Visits opening moves (game.play.perform opening).2 := by
  have hstart := goesWell_start h opening hreliable
  rw [play, perform_bind]
  cases houtcome : game.start.perform opening with
  | mk result stage =>
      rw [houtcome] at hstart
      cases result with
      | error fault => cases hstart
      | ok value => exact (Visits.started houtcome).exists_playOn

end Game

end TextAdventure
