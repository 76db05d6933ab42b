import TextAdventure.Game
import TextAdventure.Proofs.Stage.Contracts
import TextAdventure.Proofs.Stage.Endings

/-!
# Whole games

Dialogs may enter each other in any cycle, and events may enter them in every sweep, and still a
game comes to its end on every script: it goes on only over lines that it reads.  It is over when
it is finished or when no line is left.
-/

namespace TextAdventure

namespace Activity

variable {α β : Type} {stage : Stage}

/-- What holds of the end, whatever has come before. -/
theorem ends_bind_of_forall {activity : Activity α} {next : α → Activity β}
    {later : β → Stage → Prop}
    (hnext : ∀ value middle, Ends ((next value).perform middle) later fun _ => True) :
    Ends ((activity >>= next).perform stage) later fun _ => True := by
  rw [perform_bind]
  generalize activity.perform stage = outcome
  obtain ⟨result, middle⟩ := outcome
  cases result with
  | error fault => trivial
  | ok value => exact hnext value middle

/-- In a session that is not finished no line is ignored. -/
theorem ends_turn_of_unfinished (h : stage.session.isFinished = false) (handlers : Handlers)
    (line : String) :
    Ends ((turn handlers line).perform stage) (fun outcome _ => outcome ≠ .ignored)
      fun _ => True := by
  apply ends_session_bind
  split
  next hfinished => cases h.symm.trans hfinished
  · split
    · exact ends_bind_of_forall fun _ _ => nofun
    · exact ends_bind_of_forall fun _ _ => ends_bind_of_forall fun _ _ => nofun
    · exact ends_bind_of_forall fun _ _ => ends_bind_of_forall fun _ _ =>
        ends_bind_of_forall fun _ _ => ends_bind_of_forall fun _ _ => nofun

end Activity

/-- A game is over on a stage when the session is finished or no line is left to read. -/
def Stage.IsOver (stage : Stage) : Prop :=
  stage.session.isFinished = true ∨ stage.terminal.ReadsFrom []

namespace Game

open Activity Stage

variable {game : Game} {stage : Stage} {lines : List String}

/-! ## Steps -/

theorem concludes_start (h : stage.terminal.ReadsFrom lines) (game : Game) :
    Concludes game.start stage lines :=
  spansGames_concludes.game_start game stage lines h

theorem concludes_step (h : stage.terminal.ReadsFrom lines) : Concludes step stage lines :=
  spansGames_concludes.step stage lines h

theorem ends_playLine (h : stage.session.isFinished = false) (line : String) :
    Ends ((playLine line).perform stage) (fun goesOn after => goesOn = false → after.IsOver)
      fun _ => True := by
  refine (ends_turn_of_unfinished h [] line).bind fun outcome played hplayed => ?_
  apply ends_session_bind
  intro hlast
  rcases Bool.and_eq_false_iff.mp hlast with hignored | hfinished
  · exact absurd (bne_eq_false_iff_eq.mp hignored) hplayed
  · exact Or.inl (by simpa using hfinished)

theorem ends_readAndPlay (h : stage.terminal.ReadsFrom lines)
    (hunfinished : stage.session.isFinished = false) :
    Ends (readAndPlay.perform stage) (fun goesOn after => goesOn = false → after.IsOver)
      fun _ => True := by
  apply ends_session_bind
  rw [perform_bind, perform_editTerminal]
  dsimp only
  have hoffered := h.offer stage.session.world.completions
  cases lines with
  | nil =>
      obtain ⟨terminal, hread, -, -, hclosed⟩ := hoffered.read_nil
      rw [perform_bind, perform_readLine hread]
      exact fun _ => Or.inr hclosed
  | cons line rest =>
      obtain ⟨terminal, hread, -, -, hrest⟩ := hoffered.read_cons
      rw [perform_bind, perform_readLine hread]
      apply ends_playLine
      exact hunfinished

/-- After its last step a game is over. -/
theorem ends_step (h : stage.terminal.ReadsFrom lines) :
    Ends (step.perform stage) (fun goesOn after => goesOn = false → after.IsOver)
      fun _ => True := by
  apply ends_session_bind
  split
  next hfinished => exact fun _ => Or.inl hfinished
  next hunfinished =>
    have hunfinished : stage.session.isFinished = false := eq_false_of_ne_true hunfinished
    exact ends_readAndPlay h hunfinished

/-! ## Playing on -/

/-- How a game plays on, with a log: step after step, to one that fails or is the last. -/
inductive PlaysOn : Stage → Log → Except Fault Unit × Stage → Prop where
  | failed {stage after : Stage} {log : Log} {fault : Fault}
      (hstep : Chronicles step stage log (.error fault, after)) :
      PlaysOn stage log (.error fault, after)
  | ended {stage after : Stage} {log : Log} (hstep : Chronicles step stage log (.ok false, after)) :
      PlaysOn stage log (.ok (), after)
  | next {stage middle : Stage} {log later : Log} {outcome : Except Fault Unit × Stage}
      (hstep : Chronicles step stage log (.ok true, middle))
      (hlater : PlaysOn middle later outcome) : PlaysOn stage (log.append later) outcome

/-- How a whole game is played, with a log. -/
inductive Plays (game : Game) (stage : Stage) : Log → Except Fault Unit × Stage → Prop where
  | unstarted {after : Stage} {log : Log} {fault : Fault}
      (hstart : Chronicles game.start stage log (.error fault, after)) :
      Plays game stage log (.error fault, after)
  | started {middle : Stage} {log later : Log} {outcome : Except Fault Unit × Stage}
      (hstart : Chronicles game.start stage log (.ok (), middle))
      (hlater : PlaysOn middle later outcome) : Plays game stage (log.append later) outcome

/-- A game that is played to its end on a script: its log tells of the lines that are gone, and if
nothing fails it is over. -/
def CanPlay (game : Game) (stage : Stage) (lines : List String) : Prop :=
  ∃ log, game.Plays stage log (game.play.perform stage) ∧
    Tells lines log (game.play.perform stage).2 ∧
    ((game.play.perform stage).1 = .ok () → (game.play.perform stage).2.IsOver)

/-- Playing on comes to an end: each step that is followed by another has read a line. -/
theorem exists_playsOn (h : stage.terminal.ReadsFrom lines) :
    ∃ log, PlaysOn stage log (playOn stage) ∧ Tells lines log (playOn stage).2 ∧
      ((playOn stage).1 = .ok () → (playOn stage).2.IsOver) := by
  fun_induction playOn stage generalizing lines with
  | case1 stage fault after hstep =>
      obtain ⟨log, hlog, htells⟩ := concludes_step h
      rw [hstep] at hlog htells
      exact ⟨log, .failed hlog, htells, nofun⟩
  | case2 stage after hstep =>
      obtain ⟨log, hlog, htells⟩ := concludes_step h
      have hends := ends_step h
      rw [hstep] at hlog htells hends
      exact ⟨log, .ended hlog, htells, fun _ => hends rfl⟩
  | case3 stage middle hstep hless ih =>
      -- The game plays on from the lines that this step has left.
      obtain ⟨log, hlog, rest, rfl, hrest, hpaid⟩ := concludes_step h
      rw [hstep] at hlog hrest
      obtain ⟨later, hlater, htells, hover⟩ := ih hrest
      exact ⟨log.append later, .next hlog hlater, htells.append hpaid, hover⟩

/-- Every game can be played to its end on every script. -/
theorem canPlay (h : stage.terminal.ReadsFrom lines) (game : Game) :
    game.CanPlay stage lines := by
  obtain ⟨log, hlog, rest, rfl, hrest, hpaid⟩ := concludes_start h game
  rw [CanPlay, play, perform_bind]
  generalize game.start.perform stage = outcome at hlog hrest ⊢
  obtain ⟨result, middle⟩ := outcome
  cases result with
  | error fault => exact ⟨log, .unstarted hlog, ⟨rest, rfl, hrest, hpaid⟩, nofun⟩
  | ok value =>
      obtain ⟨later, hlater, htells, hover⟩ := exists_playsOn hrest
      exact ⟨log.append later, .started hlog hlater, htells.append hpaid, hover⟩

/-- On a script every list of effects, every sweep, every turn with behaviors that the game itself
has, and every game come to an end, whatever dialogs enter each other on the way.  The lines that
are gone are the first ones, each heard once and in order; a dialog from which others are entered
has heard one of them before; and a game that does not fail goes on until it is finished or all
of them are gone. -/
theorem ends_of_readsFrom (h : stage.terminal.ReadsFrom lines) :
    (∀ effects, CanApply effects stage lines) ∧
      (∀ operation, Concludes (sweep operation) stage lines) ∧
      (∀ handlers line, stage.session.world.registry.IsBuiltIn →
        Concludes (turn handlers line) stage lines) ∧
      ∀ game : Game, game.CanPlay stage lines := by
  refine ⟨canApply h, concludes_sweep h, fun handlers line hbuiltIn => ?_, canPlay h⟩
  exact concludes_turn h (hbuiltIn.areUnused handlers) line

end Game

/-! ## A hall of mirrors -/

/-- In every sweep the glass is looked into, which leads to the echo and back into the glass, and
the echo leads into the glass. -/
def World.mirrors : World where
  registry := Registry.ofList [
    Entity.location "Hall",
    Entity.pawn "Visitor" "Hall" ⟨0x4024000000000000⟩,
    Entity.command "Wait" "z" .wait,
    (Entity.dialog "Glass" "Someone looks back.").withOption
      { text := "Look closer."
        reply := "So do they."
        effects := [.initiateDialog ⟨"echo"⟩, .initiateDialog ⟨"glass"⟩]
        once := false },
    (Entity.dialog "Echo" "Someone calls.").withOption
      { text := "Call back."
        reply := "So do they."
        effects := [.initiateDialog ⟨"glass"⟩]
        once := false },
    (Entity.event "Mirrors").andThen (.initiateDialog ⟨"glass"⟩)]
  active := [⟨"wait"⟩]
  player := ⟨"visitor"⟩
  turns := 0

/-- The hall of mirrors with five lines to read. -/
def Stage.mirrors : Stage where
  session := { Session.fresh with world := World.mirrors }
  terminal := .scripted (Script.ofLines ["1", "who", "1", "1", "wait"])
  store := .slots Slots.empty

theorem Game.ends_of_readsFrom_mirrors :
    Stage.mirrors.terminal.ReadsFrom ["1", "who", "1", "1", "wait"] ∧
      Stage.mirrors.session.world.registry.IsBuiltIn ∧
      (∀ effects, Stage.CanApply effects Stage.mirrors ["1", "who", "1", "1", "wait"]) ∧
      (∀ operation, Activity.Concludes (Activity.sweep operation) Stage.mirrors
        ["1", "who", "1", "1", "wait"]) ∧
      (∀ handlers line, Activity.Concludes (Activity.turn handlers line) Stage.mirrors
        ["1", "who", "1", "1", "wait"]) ∧
      ∀ game : Game, game.CanPlay Stage.mirrors ["1", "who", "1", "1", "wait"] := by
  have hread : Stage.mirrors.terminal.ReadsFrom ["1", "who", "1", "1", "wait"] :=
    ⟨_, rfl, ⟨rfl, rfl⟩, rfl, rfl⟩
  have hbuiltIn : Stage.mirrors.session.world.registry.IsBuiltIn := by decide +kernel
  obtain ⟨heffects, hsweeps, hturns, hgames⟩ := Game.ends_of_readsFrom hread
  exact ⟨hread, hbuiltIn, heffects, hsweeps, fun handlers line => hturns handlers line hbuiltIn,
    hgames⟩

end TextAdventure
