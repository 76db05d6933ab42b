import TextAdventure.Proofs.Games.Visits
import TextAdventure.Proofs.OldMill.Turns

/-!
# Games at the Old Mill

However a game at the mill is played, saved, loaded and started over: it cannot be won without the
miller.  Nobody comes to the cellar, or to the key that lies in it, before the trapdoor is revealed,
and only who brings the key to the meadow wins.
-/

namespace TextAdventure

namespace OldMill

open Activity

variable {hasQuit : Prop} {stage : Stage}

/-! ## Steps -/

theorem ends_playLine (h : IsFair hasQuit stage) (line : String) :
    Ends ((Game.playLine line).perform stage)
      (fun _ => IsFair (hasQuit ∨ ∃ operation, stage.Runs line .quit operation))
      (IsFair (hasQuit ∨ ∃ operation, stage.Runs line .quit operation)) := by
  refine (ends_turn [] h line).bind fun _ played hplayed => ?_
  apply ends_session_bind
  exact hplayed

/-- The player quits when a line that is played runs the command for it. -/
def HasQuit (moves : List (Stage × String)) : Prop :=
  ∃ move ∈ moves, ∃ operation, move.1.Runs move.2 .quit operation

theorem isFair_step {moves : List (Stage × String)} (h : IsFair (HasQuit moves) stage) :
    IsFair (HasQuit (moves ++ stage.nextMove?.toList)) (Game.step.perform stage).2 := by
  rcases Game.step_cases stage with ⟨terminal, line, hmove, hstep⟩ | ⟨result, terminal, hmove, hstep⟩
  · have hread := ignoresShow_isFair _ stage stage.session.output terminal h
    have hplayed := ends_playLine hread line
    rw [hstep, hmove]
    refine (Ends.atEnd hplayed).mono ?_
    rintro (⟨move, hmove, hruns⟩ | hruns)
    · exact ⟨move, List.mem_append_left _ hmove, hruns⟩
    · exact ⟨_, List.mem_append_right _ List.mem_cons_self, hruns⟩
  · rw [hstep, hmove, Option.toList_none, List.append_nil]
    exact ignoresShow_isFair _ stage stage.session.output terminal h

/-! ## Starting -/

theorem ignoresShow_holdsMill : IgnoresShow fun stage => HoldsMill stage.store :=
  fun _ _ _ h => h

/-- A game that could be started is fair; one that could not has still saved nothing else. -/
theorem ends_start_game {game : Game}
    (hlevel : IsLaidOut game.level.draft.1 game.level.draft.2.world)
    (hstore : HoldsMill stage.store) :
    Ends (game.start.perform stage) (fun _ => IsFair hasQuit) fun stage => HoldsMill stage.store := by
  have hopening : ∀ shown : Stage, HoldsMill shown.store → Ends ((do
      discard (start game.level)
      answer World.describeLocation
      flush : Activity Unit).perform shown) (fun _ => IsFair hasQuit)
        fun stage => HoldsMill stage.store := by
    intro shown hshown
    have hstart : Ends ((discard (start game.level)).perform shown)
        (fun _ => IsFair hasQuit) fun stage => HoldsMill stage.store :=
      Ends.bind ((ends_start hlevel hshown).weaken (fun _ _ hnext => hnext)
        fun _ hnext => hnext.store) fun _ _ hstarted => hstarted
    refine hstart.bind fun _ started hstarted => ?_
    apply ends_editSession_bind
    exact (keeps_flush (ignoresShow_isFair hasQuit) _ hstarted.described).weaken
      (fun _ _ hnext => hnext) fun _ hnext => hnext.store
  unfold Game.start
  split
  · have hbanner : Keeps (fun stage => HoldsMill stage.store) game.showBanner :=
      (keeps_editTerminal ignoresShow_holdsMill _).bind fun _ =>
        keeps_display ignoresShow_holdsMill _
    exact (hbanner stage hstore).bind fun _ shown hshown => hopening shown hshown
  · exact hopening stage hstore

/-! ## Whole games -/

/-- What is true on a stage that a game at the mill has come to by some moves. -/
structure Upholds (moves : List (Stage × String)) (stage : Stage) : Prop where
  place : ∃ here ∈ places, stage.session.world.playerLocation? = some here
  guarded : stage.session.world.registry.isHidden trapdoor = true →
    IsGuarded stage.session.world
  units : ∀ item, stage.session.world.registry.units item = placed item
  finished : stage.session.isFinished = true →
    HasQuit moves ∨ HasComeHome stage.session.world

/-- The stage before a game, with nothing saved. -/
def opening (terminal : Terminal) : Stage :=
  ⟨Session.fresh, terminal, .slots Slots.empty⟩

theorem holdsMill_empty : HoldsMill (.slots Slots.empty) :=
  ⟨nofun, trivial⟩

theorem isFair_of_visits {game : Game}
    (hlevel : IsLaidOut game.level.draft.1 game.level.draft.2.world) {terminal : Terminal}
    {moves : List (Stage × String)} (h : game.Visits (opening terminal) moves stage) :
    IsFair (HasQuit moves) stage := by
  induction h with
  | started hstart =>
      have hend : Ends (game.start.perform (opening terminal)) (fun _ => IsFair (HasQuit []))
          fun stage => HoldsMill stage.store := ends_start_game hlevel holdsMill_empty
      rw [hstart] at hend
      exact hend
  | stepped hvisited ih => exact isFair_step ih

/-- On every stage of every game at the mill, whatever is typed and answered, saved, loaded and
started over: the player is in one of the four locations; as long as the trapdoor is hidden the
player is not in the cellar, and the one key is; of every item there are as many units as the level
has placed; and the game is finished only if the player has quit, or has come home. -/
theorem upholds_of_visits {game : Game} (hgame : game.level = OldMill.level) {terminal : Terminal}
    {moves : List (Stage × String)} (h : game.Visits (opening terminal) moves stage) :
    Upholds moves stage := by
  have hlevel : IsLaidOut game.level.draft.1 game.level.draft.2.world := by
    rw [hgame]
    exact isLaidOut
  have hfair := isFair_of_visits hlevel h
  exact ⟨hfair.world.place, hfair.world.guarded, hfair.world.units, hfair.finished⟩

/-- Somebody is about to find no way down, and to give up. -/
def wanderer : Stage :=
  opening (.scripted (Script.ofLines ["east", "down", "save", "west", "load", "quit"]))

def game : Game where
  level := OldMill.level
  showsBanner := false

theorem upholds_of_visits_wanderer :
    game.level = OldMill.level ∧ ∃ moves stage, game.Visits wanderer moves stage ∧
      stage.session.isFinished = true ∧
      stage.session.world.registry.isHidden trapdoor = true ∧ Upholds moves stage := by
  have hplayed : (game.play.perform wanderer).2.session.isFinished = true ∧
      (game.play.perform wanderer).2.session.world.registry.isHidden trapdoor = true := by
    decide +kernel
  obtain ⟨hfinished, hhidden⟩ := hplayed
  have hlevel : OldMill.level.CanStart := canStart_of_isLaidOut isLaidOut
  have hreliable : wanderer.terminal.IsReliable := ⟨rfl, rfl⟩
  have hvisited : ∃ moves, game.Visits wanderer moves (game.play.perform wanderer).2 :=
    Game.exists_visits_play hlevel hreliable
  obtain ⟨moves, hvisits⟩ := hvisited
  exact ⟨rfl, moves, _, hvisits, hfinished, hhidden, upholds_of_visits rfl hvisits⟩

end OldMill

end TextAdventure
