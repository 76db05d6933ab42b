import TextAdventure.Game
import TextAdventure.Proofs.Stage.Contracts

/-!
# Properties of composed activities

Sweeps, starts, commands, turns and the steps of a game are composed of a few simple activities.  A
property that the simple ones have, and that goes over from the parts to what is composed of them,
is one that all of them have.  The parts of each are gone through here once, for every such
property.
-/

namespace TextAdventure

/-- The handlers of a game are for no command of a registry. -/
def Handlers.AreUnused (handlers : Handlers) (registry : Registry) : Prop :=
  ∀ key command name, registry.command? key = some command → command.behavior = .custom name →
    handlers.find? name = none

theorem Handlers.areUnused_nil (registry : Registry) : Handlers.AreUnused [] registry :=
  fun _ _ _ _ _ => rfl

namespace Activity

/-- A property that goes over to sweeps: effects have it, and the phase has no part in it. -/
structure SpansSweeps (P : ∀ {α : Type}, Activity α → Stage → Prop) : Prop where
  pure : ∀ {α : Type} (value : α) (stage : Stage), P (Pure.pure value : Activity α) stage
  bind : ∀ {α β : Type} {activity : Activity α} {next : α → Activity β} {stage : Stage},
    P activity stage → (∀ value middle, P (next value) middle) → P (activity >>= next) stage
  session_bind : ∀ {α : Type} {next : Session → Activity α} {stage : Stage},
    P (next stage.session) stage → P (session >>= next) stage
  phase_bind : ∀ {α : Type} {next : Unit → Activity α} {stage : Stage} (phase : Phase),
    P (next ()) { stage with session := { stage.session with phase := phase } } →
      P (editSession (fun session => { session with phase := phase }) >>= next) stage
  endingIdle : ∀ {α : Type} {activity : Activity α} {stage : Stage},
    P activity stage → P (endingIdle activity) stage
  applyAll : ∀ effects stage, P (applyAll effects) stage

/-- A property that goes over to the start of a level: it has nothing to do with an edit of the
session that says nothing. -/
structure SpansStarts (P : ∀ {α : Type}, Activity α → Stage → Prop) : Prop
    extends SpansSweeps P where
  throw : ∀ {α : Type} (fault : Fault) (stage : Stage), P (throw fault : Activity α) stage
  quiet_bind : ∀ {α : Type} {edit : Session → Session} {next : Unit → Activity α} {stage : Stage},
    (∀ session, (edit session).output = session.output) →
      P (next ()) { stage with session := edit stage.session } →
        P (editSession edit >>= next) stage
  drafted : ∀ draft stage, P (editSession fun session => session.afterDraft draft) stage

/-- A property that goes over to turns and to whole games: whatever is said, shown, read, saved or
loaded has it. -/
structure SpansGames (P : ∀ {α : Type}, Activity α → Stage → Prop) : Prop
    extends SpansStarts P where
  say : ∀ text stage, P (say text) stage
  answer : ∀ reply stage, P (answer reply) stage
  display : ∀ text stage, P (display text) stage
  flush : ∀ stage, P flush stage
  clear : ∀ stage, P (editTerminal Terminal.clear) stage
  offer : ∀ words stage, P (editTerminal (Terminal.offer words)) stage
  readLine : ∀ stage, P readLine stage
  save : ∀ operation stage, P (save operation) stage
  load : ∀ operation stage, P (load operation) stage

variable {P : ∀ {α : Type}, Activity α → Stage → Prop}

namespace SpansSweeps

/-! ## Sweeps -/

theorem runEvent (h : SpansSweeps P) (operation : Option Operation) (report : Report) (key : Key)
    (stage : Stage) : P (runEvent operation report key) stage := by
  apply h.session_bind
  split
  · exact h.pure _ stage
  next event _ =>
    split
    · exact h.bind (h.applyAll event.effects stage) fun _ => h.pure _
    · exact h.pure _ stage

theorem runEvents (h : SpansSweeps P) (operation : Option Operation) (report : Report)
    (keys : List Key) (stage : Stage) : P (runEvents operation report keys) stage := by
  induction keys generalizing stage report with
  | nil => exact h.pure report stage
  | cons key rest ih => exact h.bind (h.runEvent operation report key stage) ih

theorem sweep (h : SpansSweeps P) (operation : Option Operation) (stage : Stage) :
    P (sweep operation) stage := by
  apply h.session_bind
  split
  · exact h.pure _ stage
  · apply h.phase_bind
    apply h.endingIdle
    apply h.session_bind
    exact h.runEvents operation _ _ _

theorem discard (h : SpansSweeps P) {α : Type} {activity : Activity α} {stage : Stage}
    (hactivity : P activity stage) : P (discard activity) stage := by
  have hdiscard : Functor.discard activity = activity >>= fun _ => (Pure.pure () : Activity Unit) :=
    rfl
  rw [hdiscard]
  exact h.bind hactivity fun _ => h.pure ()

end SpansSweeps

namespace SpansStarts

/-! ## Starts and the ends of turns -/

theorem build (h : SpansStarts P) (level : Level) (stage : Stage) : P (build level) stage := by
  refine h.bind (h.drafted level.draft.2 stage) fun _ middle => ?_
  split
  · exact h.throw _ middle
  · split
    · exact h.throw _ middle
    · exact h.pure () middle

theorem start (h : SpansStarts P) (level : Level) (stage : Stage) : P (start level) stage := by
  refine h.bind (h.build level stage) fun _ built => ?_
  exact h.quiet_bind (fun _ => rfl) (h.sweep none _)

theorem restart (h : SpansStarts P) (stage : Stage) : P restart stage := by
  apply h.session_bind
  split
  · exact h.throw _ stage
  · exact h.start _ stage

theorem finishTurn (h : SpansStarts P) (operation : Operation) (stage : Stage) :
    P (finishTurn operation) stage := by
  apply h.session_bind
  split
  · exact h.quiet_bind (fun _ => rfl) (h.pure none _)
  · refine h.quiet_bind (fun _ => rfl) ?_
    exact h.bind (h.sweep _ _) fun report => h.pure (some report)

end SpansStarts

namespace SpansGames

/-! ## Commands and turns -/

theorem startOver (h : SpansGames P) (stage : Stage) : P startOver stage := by
  refine h.bind (h.discard (h.restart stage)) fun _ restarted => ?_
  exact h.quiet_bind (fun _ => rfl) (h.answer _ _)

theorem talk (h : SpansGames P) (operation : Operation) (stage : Stage) :
    P (talk operation) stage := by
  apply h.session_bind
  split
  · exact h.say _ stage
  · exact h.applyAll _ stage

theorem runBehavior (h : SpansGames P) {handlers : Handlers} {behavior : Behavior}
    (hunused : ∀ name, behavior = .custom name → handlers.find? name = none)
    (operation : Operation) (stage : Stage) :
    P (runBehavior handlers operation behavior) stage := by
  unfold Activity.runBehavior
  cases behavior with
  | talk => exact h.talk operation stage
  | wait => exact h.say _ stage
  | save => exact h.save operation stage
  | load => exact h.load operation stage
  | restart => exact h.startOver stage
  | quit => exact h.quiet_bind (fun _ => rfl) (h.say _ _)
  | custom name =>
      simp only [runCustom, hunused name rfl]
      exact h.say _ stage
  | _ => exact h.answer _ stage

theorem run (h : SpansGames P) {handlers : Handlers} {stage : Stage}
    (hunused : handlers.AreUnused stage.session.world.registry) (operation : Operation) :
    P (run handlers operation) stage := by
  apply h.session_bind
  split
  · exact h.say _ stage
  next command hcommand =>
    exact h.runBehavior (hunused operation.command command · hcommand) operation stage

theorem runTurn (h : SpansGames P) {handlers : Handlers} {stage : Stage}
    (hunused : handlers.AreUnused stage.session.world.registry) (operation : Operation) :
    P (runTurn handlers operation) stage := by
  apply h.phase_bind
  refine h.bind (h.endingIdle ?_) fun _ ran => ?_
  · apply h.run
    exact hunused
  · refine h.bind (h.finishTurn operation ran) fun _ finished => ?_
    exact h.bind (h.flush finished) fun _ => h.pure _

/-- No command in play is left to the handlers. -/
theorem turn (h : SpansGames P) {handlers : Handlers} {stage : Stage}
    (hunused : handlers.AreUnused stage.session.world.registry) (line : String) :
    P (turn handlers line) stage := by
  apply h.session_bind
  split
  · exact h.pure _ stage
  · split
    · exact h.bind (h.flush stage) fun _ => h.pure _
    · refine h.bind (h.say _ stage) fun _ said => ?_
      exact h.bind (h.flush said) fun _ => h.pure _
    · exact h.runTurn hunused _

/-! ## Games -/

theorem game_start (h : SpansGames P) (game : Game) (stage : Stage) : P game.start stage := by
  have hopening : ∀ stage, P (do
      Functor.discard (Activity.start game.level)
      Activity.answer World.describeLocation
      Activity.flush) stage := by
    intro stage
    refine h.bind (h.discard (h.start game.level stage)) fun _ started => ?_
    exact h.bind (h.answer _ started) fun _ => h.flush
  unfold Game.start
  split
  · exact h.bind (h.bind (h.clear stage) fun _ => h.display _) fun _ => hopening
  · exact hopening stage

theorem playLine (h : SpansGames P) (line : String) (stage : Stage) :
    P (Game.playLine line) stage := by
  refine h.bind (h.turn (Handlers.areUnused_nil _) line) fun _ played => ?_
  apply h.session_bind
  exact h.pure _ played

theorem step (h : SpansGames P) (stage : Stage) : P Game.step stage := by
  apply h.session_bind
  split
  · exact h.pure _ stage
  · apply h.session_bind
    refine h.bind (h.offer _ stage) fun _ offered => ?_
    refine h.bind (h.readLine offered) fun line heard => ?_
    cases line with
    | none => exact h.pure _ heard
    | some line => exact h.playLine line heard

end SpansGames

end Activity

end TextAdventure
