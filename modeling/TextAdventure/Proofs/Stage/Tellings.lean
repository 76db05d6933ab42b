import TextAdventure.Proofs.Games
import TextAdventure.Proofs.Stage.Accounts
import TextAdventure.Proofs.Stage.Compositions
import TextAdventure.Proofs.Stage.Narrations

/-!
# The tale of a whole run

On a terminal that refuses nothing a tale can be told of every sweep, command, turn and step of a
game, whatever it comes to, and so of every run that is made of game starts, turns and steps.
-/

namespace TextAdventure

namespace Terminal.IsReliable

variable {terminal : Terminal}

theorem readLine (h : terminal.IsReliable) :
    ∃ line after, terminal.readLine = .ok (line, after) ∧ after.IsReliable := by
  cases terminal with
  | scripted script =>
      have hread : script.readLine = .ok script.nextLine := by
        obtain ⟨inputs, choices, displaysLeft, readsLeft, shown, clears, isAtEnd, completions⟩ :=
          script
        cases h.reads
        rfl
      exact ⟨_, .scripted _, by rw [Terminal.readLine, hread], Script.IsUnlimited.nextLine h⟩
  | stream lines => exact ⟨_, _, rfl, trivial⟩

theorem clear (h : terminal.IsReliable) : terminal.clear.IsReliable := by
  cases terminal with
  | scripted script => exact ⟨h.displays, h.reads⟩
  | stream lines => trivial

theorem offer (h : terminal.IsReliable) (words : List String) :
    (terminal.offer words).IsReliable := by
  cases terminal with
  | scripted script => exact ⟨h.displays, h.reads⟩
  | stream lines => trivial

end Terminal.IsReliable

namespace Stage

variable {stage : Stage}

/-! ## Flushes, menus and dialogs -/

end Stage

namespace Activity

open Stage

/-- A tale can be told of an activity on a stage, and its terminal stays reliable. -/
def IsTold {α : Type} (activity : Activity α) (stage : Stage) : Prop :=
  ∃ told, Narrates activity stage told (activity.perform stage) ∧
    (activity.perform stage).2.terminal.IsReliable

variable {α β : Type} {stage : Stage}

/-! ## Rules -/

/-- Of two activities one after the other, the second is told from wherever the first leads. -/
theorem IsTold.bind {activity : Activity α} {next : α → Activity β} (h : IsTold activity stage)
    (hnext : ∀ value {middle}, middle.terminal.IsReliable → IsTold (next value) middle) :
    IsTold (activity >>= next) stage := by
  obtain ⟨told, htold, hreliable⟩ := h
  rw [IsTold, perform_bind]
  generalize activity.perform stage = outcome at htold hreliable ⊢
  obtain ⟨result, middle⟩ := outcome
  cases result with
  | error fault => exact ⟨told, .failed htold, hreliable⟩
  | ok value =>
      obtain ⟨later, hlater, hlast⟩ := hnext value hreliable
      exact ⟨told ++ later, .bind htold hlater, hlast⟩

theorem IsTold.endingIdle {activity : Activity α} (h : IsTold activity stage) :
    IsTold (endingIdle activity) stage := by
  obtain ⟨told, htold, hreliable⟩ := h
  exact ⟨_, .idled htold, hreliable⟩

theorem IsTold.reporting {activity : Activity α} {next : α → Activity Unit} {complaint : String}
    (h : IsTold activity stage)
    (hnext : ∀ value {middle}, middle.terminal.IsReliable → IsTold (next value) middle) :
    IsTold (reporting complaint activity next) stage := by
  obtain ⟨told, htold, hreliable⟩ := h
  rw [IsTold, perform_reporting]
  generalize activity.perform stage = outcome at htold hreliable ⊢
  obtain ⟨result, middle⟩ := outcome
  cases result with
  | error fault => exact ⟨_, .complained htold, hreliable⟩
  | ok value =>
      obtain ⟨later, hlater, hlast⟩ := hnext value hreliable
      exact ⟨told ++ later, .reported htold hlater, hlast⟩

/-! ## Commands, turns and games -/

/-- What a run is made of: the start of a level or of a whole game, a turn with behaviors that the
game itself has, and a step of a game. -/
inductive IsCue : {α : Type} → Activity α → Stage → Prop where
  | start {stage : Stage} (level : Level) : IsCue (start level) stage
  | restart {stage : Stage} : IsCue restart stage
  | game {stage : Stage} (game : Game) : IsCue game.start stage
  | turn {stage : Stage} {handlers : Handlers} (line : String)
      (hunused : handlers.AreUnused stage.session.world.registry) : IsCue (turn handlers line) stage
  | step {stage : Stage} : IsCue Game.step stage

variable {α : Type} {activity : Activity α} {stage : Stage}

end Activity

namespace Stage

/-- The stages that a run comes to, with whatever comes of its parts. -/
inductive Reaches (opening : Stage) : Stage → Prop where
  | opened : Reaches opening opening
  | cued {α : Type} {activity : Activity α} {stage : Stage} (h : Reaches opening stage)
      (hcue : Activity.IsCue activity stage) : Reaches opening (activity.perform stage).2

/-- The tale of a run is put together from the tales of its parts. -/
inductive Recounts (opening : Stage) : Tale → Stage → Prop where
  | opened : Recounts opening [] opening
  | cued {α : Type} {activity : Activity α} {stage : Stage} {told later : Tale}
      (h : Recounts opening told stage) (hcue : Activity.IsCue activity stage)
      (hlater : Activity.Narrates activity stage later (activity.perform stage)) :
      Recounts opening (told ++ later) (activity.perform stage).2

variable {opening stage : Stage}

theorem Recounts.connects {tale : Tale} (h : Recounts opening tale stage) :
    Tale.Connects opening tale stage := by
  induction h with
  | opened => exact rfl
  | cued h hcue hlater ih => exact ih.append hlater.connects

end Stage

end TextAdventure
