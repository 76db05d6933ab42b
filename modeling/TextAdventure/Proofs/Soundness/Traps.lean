import TextAdventure.Proofs.Soundness.Turns
import TextAdventure.Proofs.Stage.Answers

/-!
# Traps

A world that is good but not sound may remove its player.  An effect is kept from doing so by the
key of the player as it is, while what it removes is found by the normal form of the key it names.
So a good stage need not stay good, unless the worlds that may take the place of its own are sound
as well.
-/

namespace TextAdventure

namespace World

variable {world : World}

/-- The player is removed by a key of which its own is the normal form. -/
theorem playerPawn?_removeEntity {victim : Key} (hother : victim ≠ world.player)
    (hname : Key.ofName victim.text = world.player) :
    (world.removeEntity victim).playerPawn? = none := by
  rw [removeEntity, if_neg hother, Registry.contains, Registry.named?, hname]
  split
  next =>
    have herased := world.registry.get?_erase_self world.player
    rw [playerPawn?, deactivate, Registry.pawn?, herased, Option.bind_none]
  next hmissing =>
    have hnone := Option.not_isSome_iff_eq_none.mp hmissing
    rw [playerPawn?, Registry.pawn?, hnone, Option.bind_none]

/-- Whether the only event of a world is to remove its player, by a key that is not the normal
one. -/
def IsTrapped (world : World) : Prop :=
  ∃ entity victim, world.registry.events = [(entity, ⟨[], [.removeEntity victim]⟩)] ∧
    victim ≠ world.player ∧ Key.ofName victim.text = world.player

end World

/-- Whether nobody is there who could be played. -/
def Stage.IsDeserted (stage : Stage) : Prop :=
  stage.session.world.playerPawn? = none

/-- Whether nobody will be there at the end of the turn: nobody is there and no sweep is to come, or
the sweep comes upon a trapped world. -/
def Stage.IsDoomed (stage : Stage) : Prop :=
  stage.session.skipsSweep = true ∧ stage.IsDeserted ∨
    stage.session.skipsSweep = false ∧ stage.session.world.IsTrapped ∧ stage.session.phase = .idle

theorem Stage.IsDeserted.not_isGood {stage : Stage} (h : stage.IsDeserted) :
    ¬ stage.session.world.IsGood := by
  intro hgood
  have hplayer := hgood.player
  rw [h] at hplayer
  cases hplayer

namespace Activity

open Stage

variable {stage : Stage} {line : String} {operation : Operation}

theorem ignoresShow_isDeserted : IgnoresShow IsDeserted :=
  fun _ _ _ h => h

/-! ## Sweeps -/

theorem ends_runEvent_trap {cause : Option Operation} {report : Report} {key victim : Key}
    (hevent : stage.session.world.registry.event? key = some ⟨[], [.removeEntity victim]⟩)
    (hother : victim ≠ stage.session.world.player)
    (hname : Key.ofName victim.text = stage.session.world.player) :
    Ends ((runEvent cause report key).perform stage) (fun _ => IsDeserted) IsDeserted := by
  have hplain : ∀ dialog, Effect.removeEntity victim ≠ .initiateDialog dialog := by
    intro dialog hsame
    cases hsame
  have hremoved : (applyAll [.removeEntity victim]).perform stage =
      (.ok (), { stage with session := stage.session.apply (.removeEntity victim) }) := by
    have hperform : (applyAll [.removeEntity victim]).perform stage =
        stage.applyAll [.removeEntity victim] := rfl
    rw [hperform, applyAll_plain hplain, applyAll_nil]
  apply ends_session_bind
  rw [hevent]
  dsimp only
  rw [if_pos List.all_nil, perform_bind, hremoved]
  exact World.playerPawn?_removeEntity hother hname

theorem ends_sweepAll_trapped (cause : Option Operation)
    (htrapped : stage.session.world.IsTrapped) :
    Ends ((sweepAll cause).perform stage) (fun _ => IsDeserted) IsDeserted := by
  obtain ⟨entity, victim, hevents, hother, hname⟩ := htrapped
  have hmem : (entity, ⟨[], [.removeEntity victim]⟩) ∈ stage.session.world.registry.events := by
    rw [hevents]
    exact List.mem_singleton_self _
  have hevent := Registry.event?_of_mem hmem
  apply ends_session_bind
  rw [hevents, List.map_singleton, runEvents]
  exact (ends_runEvent_trap hevent hother hname).bind fun _ _ hdeserted => hdeserted

/-- The only event of a trapped world leaves nobody to be played. -/
theorem ends_sweep_trapped (cause : Option Operation) (htrapped : stage.session.world.IsTrapped)
    (hphase : stage.session.phase ≠ .conditionSweep) :
    Ends ((sweep cause).perform stage) (fun _ => IsDeserted) IsDeserted := by
  apply ends_session_bind
  rw [if_neg hphase]
  apply ends_editSession_bind
  apply ends_endingIdle
  exact ends_sweepAll_trapped cause htrapped

/-! ## Turns -/

theorem ends_finishTurn_doomed (operation : Operation) (h : stage.IsDoomed) :
    Ends ((finishTurn operation).perform stage) (fun _ => IsDeserted) IsDeserted := by
  apply ends_session_bind
  rcases h with ⟨hskips, hdeserted⟩ | ⟨hunskipped, htrapped, hidle⟩
  · rw [if_pos hskips]
    exact ends_editSession_bind hdeserted
  · rw [if_neg (ne_true_of_eq_false hunskipped)]
    apply ends_editSession_bind
    have hphase : stage.session.countTurn.phase ≠ .conditionSweep := by
      rw [Session.countTurn, hidle]
      decide
    have hsweep : Ends ((sweep (some operation)).perform
        { stage with session := stage.session.countTurn }) (fun _ => IsDeserted) IsDeserted :=
      ends_sweep_trapped (some operation) htrapped hphase
    exact hsweep.bind fun _ _ hswept => hswept

/-- What a command has doomed is deserted when its turn is over. -/
theorem isDeserted_played_of_doomed (handlers : Handlers) {behavior : Behavior}
    (hruns : stage.Runs line behavior operation)
    (h : Ends ((runBehavior handlers operation behavior).perform stage.running)
      (fun _ ran => (idled ran).IsDoomed) fun ran => (idled ran).IsDeserted) :
    (stage.played handlers line).IsDeserted := by
  obtain ⟨command, hcommand, rfl⟩ := Option.map_eq_some_iff.mp hruns.behavior
  have hcommand : stage.running.session.world.registry.command? operation.command =
      some command := hcommand
  rw [← perform_run_of_command? handlers hcommand] at h
  have hturn : Ends ((turn handlers line).perform stage) (fun _ => IsDeserted) IsDeserted := by
    rw [perform_turn_of_parsed handlers hruns.unfinished hruns.reading]
    exact ends_runTurn_of_ends_run ignoresShow_isDeserted h
      fun ran => ends_finishTurn_doomed operation
  exact hturn.atEnd

/-- To wait in a trapped world is to be lost. -/
theorem isDeserted_played_wait (handlers : Handlers) (hruns : stage.Runs line .wait operation)
    (htrapped : stage.session.world.IsTrapped) (hunskipped : stage.session.skipsSweep = false) :
    (stage.played handlers line).IsDeserted := by
  refine isDeserted_played_of_doomed handlers hruns ?_
  exact Or.inr ⟨hunskipped, htrapped, rfl⟩

theorem ends_start_trapped {level : Level} (hbuilt : level.draft.1 = .ok ())
    (hplayer : level.draft.2.world.playerPawn?.isSome = true)
    (htrapped : level.draft.2.world.IsTrapped) :
    Ends ((start level).perform stage) (fun _ => IsDeserted) IsDeserted := by
  obtain ⟨pawn, hpawn⟩ := Option.isSome_iff_exists.mp hplayer
  have hbuild : (build level).perform stage =
      (.ok (), { stage with session := stage.session.afterDraft level.draft.2 }) := by
    rw [build, perform_bind, perform_editSession, hbuilt]
    dsimp only
    rw [hpawn]
    rfl
  have hphase : (stage.session.afterDraft level.draft.2).phase ≠ .conditionSweep := by
    intro hsame
    cases hsame
  rw [start, perform_bind, hbuild]
  apply ends_editSession_bind
  exact ends_sweep_trapped none htrapped hphase

/-- To start a trapped level over is to be lost. -/
theorem isDeserted_played_restart (handlers : Handlers)
    (hruns : stage.Runs line .restart operation) {level : Level}
    (hlevel : stage.session.level = some level) (hbuilt : level.draft.1 = .ok ())
    (hplayer : level.draft.2.world.playerPawn?.isSome = true)
    (htrapped : level.draft.2.world.IsTrapped) :
    (stage.played handlers line).IsDeserted := by
  refine isDeserted_played_of_doomed handlers hruns ?_
  have hrestart : Ends ((discard restart).perform stage.running) (fun _ => IsDeserted)
      IsDeserted := by
    have hlevel : stage.running.session.level = some level := hlevel
    refine Ends.bind ?_ fun _ _ hstarted => hstarted
    apply ends_session_bind
    rw [hlevel]
    exact ends_start_trapped hbuilt hplayer htrapped
  have hover : Ends (startOver.perform stage.running) (fun _ ran => (idled ran).IsDoomed)
      fun ran => (idled ran).IsDeserted := by
    refine hrestart.bind fun _ started hstarted => ?_
    apply ends_editSession_bind
    refine Or.inl ⟨rfl, ?_⟩
    exact (World.playerPawn?_describeLocation started.session.world).trans hstarted
  exact hover

end Activity

/-! ## Worlds that are good and no more -/

/-- A stage that is good itself, while of what its level builds and its store holds it is only known
that they are good worlds. -/
structure Stage.IsGoodSoFar (stage : Stage) : Prop where
  world : stage.session.world.IsSound
  level : ∀ level ∈ stage.session.level, level.draft.2.world.IsGood
  store : stage.store.HoldsOnly World.IsGood
  unskipped : stage.session.skipsSweep = false
  idle : stage.session.phase = .idle

/-- The rat is in its den, with a trap that removes whoever has the key. -/
def World.den (victim : Key) : World where
  registry := Registry.ofList [
    Entity.location "Den",
    Entity.pawn "Rat" "Den" ⟨0x3FF0000000000000⟩,
    Entity.command "Load" "lo" .load,
    Entity.command "Restart" "rs" .restart,
    Entity.command "Wait" "z" .wait,
    (Entity.event "Trap").andThen (.removeEntity victim)]
  active := [⟨"load"⟩, ⟨"restart"⟩, ⟨"wait"⟩]
  player := ⟨"rat"⟩
  turns := 0

def Level.den (victim : Key) : Level where
  name := "The Den"
  build := Layout.editWorld fun _ => World.den victim

namespace Stage

/-- A den in which the rat is safe, one that has been saved, and one that is built anew. -/
def den (saved built : Key) : Stage where
  session := { Session.fresh with
    world := World.den ⟨"rat"⟩
    level := some (Level.den built) }
  terminal := .scripted (Script.ofLines [])
  store := .slots ⟨Attributes.empty.insert "trap" (World.den saved)⟩

theorem isGood_den : (World.den ⟨"RAT"⟩).IsGood := by
  decide +kernel

theorem isSound_den : (World.den ⟨"rat"⟩).IsSound := by
  decide +kernel

theorem isGoodSoFar_den {saved built : Key} (hsaved : (World.den saved).IsGood)
    (hbuilt : (World.den built).IsGood) : (den saved built).IsGoodSoFar where
  world := isSound_den
  level := by
    rintro level hlevel
    cases hlevel
    exact hbuilt
  store := by
    intro entry hentry
    rw [List.mem_singleton.mp hentry]
    exact hsaved
  unskipped := rfl
  idle := rfl

/-- The trap of the den is meant for the rat. -/
theorem isTrapped_of_den {world : World}
    (hevents : world.registry.events = (World.den ⟨"RAT"⟩).registry.events)
    (hplayer : world.player = ⟨"rat"⟩) : world.IsTrapped := by
  have htrap : (World.den ⟨"RAT"⟩).registry.events =
      [((Entity.event "Trap").andThen (.removeEntity ⟨"RAT"⟩), ⟨[], [.removeEntity ⟨"RAT"⟩]⟩)] := by
    decide +kernel
  refine ⟨_, _, hevents.trans htrap, ?_, ?_⟩
  · rw [hplayer]
    decide
  · rw [hplayer]
    decide +kernel

theorem canKeepAll_den_loading : (den ⟨"RAT"⟩ ⟨"rat"⟩).CanKeepAll [] ["load trap", "wait"] := by
  refine ⟨?_, ?_, trivial⟩
  · decide +kernel
  · decide +kernel

theorem canKeepAll_den_restarting : (den ⟨"rat"⟩ ⟨"RAT"⟩).CanKeepAll [] ["restart"] := by
  refine ⟨?_, trivial⟩
  decide +kernel

theorem isTrapped_den_loaded :
    ((den ⟨"RAT"⟩ ⟨"rat"⟩).played [] "load trap").session.world.IsTrapped := by
  apply isTrapped_of_den
  · decide +kernel
  · decide +kernel

theorem isDeserted_den_loading :
    ((den ⟨"RAT"⟩ ⟨"rat"⟩).playedAll [] ["load trap", "wait"]).IsDeserted := by
  have hruns : ((den ⟨"RAT"⟩ ⟨"rat"⟩).played [] "load trap").Runs "wait" .wait
      (Operation.bare "wait") := by
    decide +kernel
  have hunskipped :
      ((den ⟨"RAT"⟩ ⟨"rat"⟩).played [] "load trap").session.skipsSweep = false := by
    decide +kernel
  exact Activity.isDeserted_played_wait [] hruns isTrapped_den_loaded hunskipped

theorem isDeserted_den_restarting :
    ((den ⟨"rat"⟩ ⟨"RAT"⟩).playedAll [] ["restart"]).IsDeserted := by
  have hruns : (den ⟨"rat"⟩ ⟨"RAT"⟩).Runs "restart" .restart (Operation.bare "restart") := by
    decide +kernel
  have htrapped : (World.den ⟨"RAT"⟩).IsTrapped := isTrapped_of_den rfl rfl
  exact Activity.isDeserted_played_restart [] hruns rfl rfl isGood_den.player htrapped

/-- Such a stage need not stay good: the snapshot that is loaded and the level that is started over
are good, but their trap removes the player when the events are swept. -/
theorem not_isGood_playedAll_den :
    ((den ⟨"RAT"⟩ ⟨"rat"⟩).IsGoodSoFar ∧
        (den ⟨"RAT"⟩ ⟨"rat"⟩).CanKeepAll [] ["load trap", "wait"] ∧
        ¬ ((den ⟨"RAT"⟩ ⟨"rat"⟩).playedAll [] ["load trap", "wait"]).session.world.IsGood) ∧
      (den ⟨"rat"⟩ ⟨"RAT"⟩).IsGoodSoFar ∧
        (den ⟨"rat"⟩ ⟨"RAT"⟩).CanKeepAll [] ["restart"] ∧
        ¬ ((den ⟨"rat"⟩ ⟨"RAT"⟩).playedAll [] ["restart"]).session.world.IsGood := by
  refine ⟨⟨?_, canKeepAll_den_loading, isDeserted_den_loading.not_isGood⟩, ?_,
    canKeepAll_den_restarting, isDeserted_den_restarting.not_isGood⟩
  · exact isGoodSoFar_den isGood_den isSound_den.good
  · exact isGoodSoFar_den isSound_den.good isGood_den

end Stage

end TextAdventure
