import TextAdventure.Proofs.OldMill.Worlds
import TextAdventure.Proofs.Rulebook.Runs
import TextAdventure.Proofs.Soundness.Stores
import TextAdventure.Proofs.Stage.Upkeep

/-!
# Turns at the Old Mill

Talking and telling a story apart, what an event of the mill does is to end the game, and it does so
only when the player has come home.  So whatever is typed, a turn leads from a stage on which the
mill is played to another one, and ends the game only by quitting or by coming home.
-/

namespace TextAdventure

namespace Store

/-- Whether a store keeps its worlds in memory. -/
def IsMemory : Store → Prop
  | slots _ => True
  | folder _ => False

theorem IsMemory.canKeep {store : Store} (h : store.IsMemory) (world : World) :
    store.CanKeep world := by
  cases store with
  | slots saves => trivial
  | folder place => cases h

theorem IsMemory.save {store : Store} (h : store.IsMemory) (name : String) (world : World) :
    (store.save name world).2.IsMemory := by
  cases store with
  | slots saves =>
      unfold Store.save
      dsimp only
      split
      · trivial
      · trivial
  | folder place => cases h

end Store

namespace OldMill

open Activity Stage

/-! ## Stages -/

/-- A store in memory that offers only worlds of the mill. -/
structure HoldsMill (store : Store) : Prop where
  saves : store.HoldsOnly InPlay
  memory : store.IsMemory

theorem HoldsMill.save {store : Store} (h : HoldsMill store) (name : String) {world : World}
    (hworld : InPlay world) : HoldsMill (store.save name world).2 :=
  ⟨h.saves.save name hworld (h.memory.canKeep world), h.memory.save name world⟩

/-- The mill is played on a stage, and only worlds of the mill can be loaded there, or put in
place of it by starting over. -/
structure IsPlayed (stage : Stage) : Prop where
  world : InPlay stage.session.world
  level : ∃ level, stage.session.level = some level ∧ IsLaidOut level.draft.1 level.draft.2.world
  store : HoldsMill stage.store

structure IsUnderWay (stage : Stage) : Prop extends IsPlayed stage where
  unfinished : stage.session.isFinished = false

/-- If the game is finished the player has quit or come home. -/
structure IsFair (hasQuit : Prop) (stage : Stage) : Prop extends IsPlayed stage where
  finished : stage.session.isFinished = true → hasQuit ∨ HasComeHome stage.session.world

variable {hasQuit : Prop} {stage : Stage}

theorem ignoresShow_isUnderWay : IgnoresShow IsUnderWay :=
  fun _ _ _ h => ⟨⟨h.world, h.level, h.store⟩, h.unfinished⟩

theorem ignoresShow_isFair (hasQuit : Prop) : IgnoresShow (IsFair hasQuit) :=
  fun _ _ _ h => ⟨⟨h.world, h.level, h.store⟩, h.finished⟩

theorem IsUnderWay.isFair (h : IsUnderWay stage) : IsFair hasQuit stage :=
  ⟨h.toIsPlayed, fun hfinished => absurd (h.unfinished.symm.trans hfinished) nofun⟩

theorem IsFair.mono (h : IsFair hasQuit stage) {quits : Prop} (hquits : hasQuit → quits) :
    IsFair quits stage :=
  ⟨h.toIsPlayed, fun hfinished => (h.finished hfinished).imp_left hquits⟩

theorem IsFair.withPhase (h : IsFair hasQuit stage) (phase : Phase) :
    IsFair hasQuit { stage with session := { stage.session with phase := phase } } :=
  ⟨⟨h.world, h.level, h.store⟩, h.finished⟩

theorem IsUnderWay.withWorld (h : IsUnderWay stage) {world : World} (hworld : InPlay world) :
    IsUnderWay { stage with session := { stage.session with world := world } } :=
  ⟨⟨hworld, h.level, h.store⟩, h.unfinished⟩

/-! ## Talking -/

/-- What a dialog of the mill comes to, and how it is entered. -/
def IsTold (effect : Effect) : Prop :=
  effect = revelation ∨ ∃ dialog, effect = .initiateDialog dialog

theorem InPlay.dialog_effects {world : World} (h : InPlay world) {key : Key} {dialog : Dialog}
    (hdialog : world.registry.dialog? key = some dialog) {option : DialogOption}
    (hoption : option ∈ dialog.options) : ∀ effect ∈ option.effects, effect = revelation := by
  obtain ⟨entity, hget, hkind⟩ := Option.bind_eq_some_iff.mp hdialog
  exact (h.rules entity (Registry.mem_of_get? hget)).dialog dialog hkind option hoption

theorem IsUnderWay.choose (h : IsUnderWay stage) (dialog : Key) (index : Nat)
    (option : DialogOption) :
    IsUnderWay { stage with session := stage.session.choose dialog index option } := by
  unfold Session.choose
  dsimp only
  have hdropped := h.withWorld (h.world.dropOption dialog index)
  split
  · split
    · exact hdropped
    · exact ignoresShow_isUnderWay _ _ stage.terminal hdropped
  · split
    · exact h
    · exact ignoresShow_isUnderWay _ _ stage.terminal h

theorem isUnderWay_isKeptBy : IsKeptBy IsUnderWay IsTold where
  unseen := ignoresShow_isUnderWay
  apply := by
    rintro stage effect h (rfl | ⟨dialog, rfl⟩)
    · exact h.withWorld h.world.reveal
    · exact h
  choose := fun index option h _ => h.choose _ index option
  options := fun h _ hdialog _ hoption effect heffect =>
    Or.inl (h.world.dialog_effects hdialog hoption effect heffect)

/-! ## Sweeps -/

/-- An effect that does no harm in a world: it only says something, or it ends the game of a player
who has come home. -/
def IsHarmless (world : World) (effect : Effect) : Prop :=
  effect.isRemark = true ∨ effect.isEnding = true ∧ HasComeHome world

theorem not_isHarmless_initiateDialog (world : World) (dialog : Key) :
    ¬ IsHarmless world (.initiateDialog dialog) := by
  rintro (hremark | ⟨hending, -⟩)
  · cases hremark
  · cases hending

theorem isFair_isKeptBy (hasQuit : Prop) (world : World) :
    IsKeptBy (fun stage => IsFair hasQuit stage ∧ stage.session.world = world)
      (IsHarmless world) where
  unseen := fun stage output terminal h =>
    ⟨ignoresShow_isFair hasQuit stage output terminal h.1, h.2⟩
  apply := by
    rintro stage effect ⟨h, rfl⟩ hharmless
    cases effect with
    | say text => exact ⟨ignoresShow_isFair hasQuit stage _ stage.terminal h, rfl⟩
    | endGame text =>
        have hhome := (hharmless.resolve_left nofun).2
        exact ⟨⟨⟨h.world, h.level, h.store⟩, fun _ => Or.inr hhome⟩, rfl⟩
    | _ => rcases hharmless with hremark | ⟨hending, -⟩ <;> contradiction
  choose := fun _ _ _ hopens => absurd hopens (not_isHarmless_initiateDialog world _)
  options := fun _ hopens => absurd hopens (not_isHarmless_initiateDialog world _)

/-- An event that ends the game asks for the key and for the meadow. -/
theorem isHarmless_of_meets {world : World} (h : InPlay world) {operation : Option Operation}
    {key : Key} {event : Event} (hevent : world.registry.event? key = some event)
    (hmeets : event.conditions.all (world.meets operation) = true) :
    ∀ effect ∈ event.effects, IsHarmless world effect := by
  intro effect heffect
  obtain ⟨entity, hget, hkind⟩ := Option.bind_eq_some_iff.mp hevent
  rcases (h.rules entity (Registry.mem_of_get? hget)).event event hkind effect heffect with
    hremark | ⟨hending, hkey, hmeadow⟩
  · exact Or.inl hremark
  · have hall := List.all_eq_true.mp hmeets
    exact Or.inr ⟨hending, h.hasComeHome_of_meets (hall hasKey hkey) (hall inMeadow hmeadow)⟩

theorem keeps_runEvent (hasQuit : Prop) (operation : Option Operation) (report : Report)
    (key : Key) : Keeps (IsFair hasQuit) (runEvent operation report key) := by
  intro stage h
  refine ends_runEvent_of_fires h report key fun event hevent hmeets => ?_
  have hswept := (isFair_isKeptBy hasQuit stage.session.world).ends_applyAll event.effects stage
    ⟨h, rfl⟩ (isHarmless_of_meets h.world hevent hmeets)
  exact hswept.weaken (fun _ _ hnext => hnext.1) fun _ hnext => hnext.1

theorem keeps_sweep (hasQuit : Prop) (operation : Option Operation) :
    Keeps (IsFair hasQuit) (sweep operation) :=
  keeps_sweep_of_keeps_runEvent (keeps_runEvent hasQuit operation)
    fun _ phase h => h.withPhase phase

/-! ## Starting over -/

/-- The mill is laid out on any stage with a store in memory that holds none but its worlds. -/
theorem ends_start {level : Level} (hlevel : IsLaidOut level.draft.1 level.draft.2.world)
    (hstore : HoldsMill stage.store) :
    Ends ((start level).perform stage) (fun _ => IsFair hasQuit) (IsFair hasQuit) := by
  rw [perform_start (canStart_of_isLaidOut hlevel)]
  have hrebuilt : IsUnderWay (stage.rebuilt level) :=
    ⟨⟨inPlay_of_isLaidOut hlevel, ⟨level, rfl, hlevel⟩, hstore⟩, rfl⟩
  exact keeps_sweep hasQuit none _ hrebuilt.isFair

theorem IsFair.described (h : IsFair hasQuit stage) :
    IsFair hasQuit
      { stage with session := stage.session.accept stage.session.world.describeLocation } :=
  ⟨⟨h.world.describeLocation, h.level, h.store⟩,
    fun hfinished => (h.finished hfinished).imp_right HasComeHome.describeLocation⟩

theorem IsFair.withSkip (h : IsFair hasQuit stage) (skipsSweep : Bool) :
    IsFair hasQuit { stage with session := { stage.session with skipsSweep := skipsSweep } } :=
  ⟨⟨h.world, h.level, h.store⟩, h.finished⟩

theorem ends_startOver (h : IsPlayed stage) :
    Ends (startOver.perform stage) (fun _ => IsFair hasQuit) (IsFair hasQuit) := by
  obtain ⟨level, hlevel, hlaid⟩ := h.level
  have hstart : Ends ((start level).perform stage) (fun _ => IsFair hasQuit) (IsFair hasQuit) :=
    ends_start hlaid h.store
  rw [perform_startOver, perform_restart hlevel]
  generalize (start level).perform stage = outcome at hstart ⊢
  obtain ⟨result, after⟩ := outcome
  cases result with
  | error fault => exact hstart
  | ok report => exact (IsFair.withSkip hstart true).described

/-! ## Commands -/

theorem IsUnderWay.loaded (h : IsUnderWay stage) {name : String} {world : World}
    (hoffers : stage.store.Offers name world) : IsUnderWay (stage.loaded name world) :=
  ⟨⟨(h.store.saves.load hoffers.load).describeLocation, h.level, h.store⟩, rfl⟩

theorem IsUnderWay.saved (h : IsUnderWay stage) (name : String) :
    IsUnderWay { stage with store := (stage.store.save name stage.session.world).2 } :=
  ⟨⟨h.world, h.level, h.store.save name h.world⟩, h.unfinished⟩

theorem keeps_answer {reply : World → Reply}
    (hreply : ∀ world, InPlay world → InPlay (reply world).world) :
    Keeps IsUnderWay (answer reply) :=
  fun _ h => ⟨⟨hreply _ h.world, h.level, h.store⟩, h.unfinished⟩

theorem keeps_talk (operation : Operation) : Keeps IsUnderWay (talk operation) :=
  Activity.keeps_talk isUnderWay_isKeptBy fun _ _ dialog _ => Or.inr ⟨dialog, rfl⟩

theorem keeps_save (operation : Operation) : Keeps IsUnderWay (save operation) := by
  intro stage h
  obtain ⟨text, hsave⟩ := exists_perform_save operation stage
  rw [hsave]
  exact ignoresShow_isUnderWay _ _ stage.terminal (h.saved operation.slot)

theorem keeps_load (operation : Operation) : Keeps IsUnderWay (load operation) := by
  intro stage h
  by_cases hoffers : ∃ world, stage.store.Offers operation.slot world
  · obtain ⟨world, hworld⟩ := hoffers
    rw [perform_load hworld]
    exact h.loaded hworld
  · obtain ⟨text, hload⟩ := exists_perform_load (not_exists.mp hoffers)
    rw [hload]
    exact ignoresShow_isUnderWay _ _ stage.terminal h

theorem ends_quit (h : IsPlayed stage) (hquits : hasQuit) :
    Ends (quit.perform stage) (fun _ => IsFair hasQuit) (IsFair hasQuit) :=
  ⟨⟨h.world, h.level, h.store⟩, fun _ => Or.inl hquits⟩

/-- Only quitting and coming home end the game. -/
theorem ends_runBehavior (handlers : Handlers) (h : IsUnderWay stage) (operation : Operation)
    {behavior : Behavior} (hbuiltIn : behavior.isBuiltIn = true)
    (hquits : behavior = .quit → hasQuit) :
    Ends ((runBehavior handlers operation behavior).perform stage) (fun _ => IsFair hasQuit)
      (IsFair hasQuit) := by
  have hkept : ∀ {activity : Activity Unit}, Keeps IsUnderWay activity →
      Ends (activity.perform stage) (fun _ => IsFair hasQuit) (IsFair hasQuit) :=
    fun hkeeps => (hkeeps stage h).weaken (fun _ _ hnext => hnext.isFair)
      fun _ hnext => hnext.isFair
  have herrand (errand : Errand) :
      Keeps IsUnderWay (answer (errand.reply Arithmetic.binary64 ·)) :=
    keeps_answer fun _ hworld => hworld.errand Arithmetic.binary64 errand
  unfold runBehavior
  cases behavior with
  | look => exact hkept (keeps_answer fun _ hworld => hworld.describeLocation)
  | examine =>
      refine hkept (keeps_answer fun world hworld => ?_)
      rw [world.world_examine operation]
      exact hworld
  | move => exact hkept (keeps_answer fun _ hworld => hworld.travel _)
  | go => exact hkept (keeps_answer fun _ hworld => hworld.go operation)
  | get => exact hkept (herrand (.get operation))
  | drop => exact hkept (herrand (.drop operation))
  | put => exact hkept (herrand (.put operation))
  | inventory =>
      refine hkept (keeps_answer fun world hworld => ?_)
      rw [world.world_takeStock]
      exact hworld
  | talk => exact hkept (keeps_talk operation)
  | wait => exact hkept (keeps_say ignoresShow_isUnderWay _)
  | help => exact hkept (keeps_answer fun _ hworld => hworld)
  | save => exact hkept (keeps_save operation)
  | load => exact hkept (keeps_load operation)
  | restart => exact ends_startOver h.toIsPlayed
  | quit => exact ends_quit h.toIsPlayed (hquits rfl)
  | custom handler => cases hbuiltIn

theorem ends_run (handlers : Handlers) (h : IsUnderWay stage) (operation : Operation)
    (hquits : (stage.session.world.registry.command? operation.command).map Command.behavior =
      some .quit → hasQuit) :
    Ends ((run handlers operation).perform stage) (fun _ => IsFair hasQuit) (IsFair hasQuit) := by
  apply ends_session_bind
  split
  · exact (ignoresShow_isUnderWay stage _ stage.terminal h).isFair
  next command hcommand =>
    obtain ⟨entity, hget, hkind⟩ := Option.bind_eq_some_iff.mp hcommand
    refine ends_runBehavior handlers h operation
      ((h.world.rules entity (Registry.mem_of_get? hget)).builtIn command hkind) fun hquit => ?_
    exact hquits (by rw [hcommand, Option.map_some, hquit])

/-! ## Whole turns -/

theorem keeps_finishTurn (hasQuit : Prop) (operation : Operation) :
    Keeps (IsFair hasQuit) (finishTurn operation) := by
  intro stage h
  apply ends_session_bind
  split
  · exact ends_editSession_bind (h.withSkip false)
  · have hcounted : IsFair hasQuit { stage with session := stage.session.countTurn } := by
      refine ⟨⟨h.world.withTurns _, h.level, h.store⟩, fun hfinished => ?_⟩
      exact (h.finished hfinished).imp_right fun hhome => ⟨hhome.place, hhome.key, hhome.revealed⟩
    exact ends_editSession_bind ((keeps_sweep hasQuit (some operation) _ hcounted).bind
      fun _ _ hswept => hswept)

theorem ends_runTurn (handlers : Handlers) (h : IsUnderWay stage) (operation : Operation)
    (hquits : (stage.session.world.registry.command? operation.command).map Command.behavior =
      some .quit → hasQuit) :
    Ends ((runTurn handlers operation).perform stage) (fun _ => IsFair hasQuit)
      (IsFair hasQuit) := by
  have hrunning : IsUnderWay stage.running :=
    ⟨⟨h.world, h.level, h.store⟩, h.unfinished⟩
  have hrun := ends_run handlers hrunning operation hquits
  apply ends_runTurn_of_ends_run (ignoresShow_isFair hasQuit)
  · exact hrun.weaken (fun _ ran hran => hran.withPhase .idle) fun _ hran => hran.withPhase .idle
  · exact keeps_finishTurn hasQuit operation

/-- A turn keeps the game fair, whatever is typed, whatever is answered in dialogs, and wherever
the terminal fails. -/
theorem ends_turn (handlers : Handlers) (h : IsFair hasQuit stage) (line : String) :
    Ends ((turn handlers line).perform stage)
      (fun _ => IsFair (hasQuit ∨ ∃ operation, stage.Runs line .quit operation))
      (IsFair (hasQuit ∨ ∃ operation, stage.Runs line .quit operation)) := by
  refine ends_turn_of_ends_runTurn (ignoresShow_isFair _) (h.mono Or.inl) ?_
  intro operation hunfinished hreading
  refine ends_runTurn handlers ⟨h.toIsPlayed, hunfinished⟩ operation fun hquit => ?_
  exact Or.inr ⟨operation, hunfinished, hreading, hquit⟩

end OldMill

end TextAdventure
