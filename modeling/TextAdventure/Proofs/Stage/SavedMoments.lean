import TextAdventure.Proofs.Action.Journeys
import TextAdventure.Proofs.Rulebook.Turns
import TextAdventure.Proofs.Soundness.Turns
import TextAdventure.Proofs.Stage.Accounts

/-!
# Saved moments

A load goes back to the moment of the save, whatever has been played since: turns, restarts and
other saves and loads leave the slot as it is.  Only the place of the player has been visited
once more, because a load describes it.
-/

namespace TextAdventure

/-! ## One more visit -/

/-- A status that is not below zero goes up by one, unless it is the largest there is. -/
theorem Entity.toInt_status_adjustStatus_one (entity : Entity) (status : String)
    (h : 0 ≤ (entity.status status).toInt) :
    ((entity.adjustStatus status 1).status status).toInt =
      min 0x7FFFFFFFFFFFFFFF ((entity.status status).toInt + 1) := by
  rw [toInt_status_adjustStatus]
  omega

namespace World

variable {world : World}

/-- The world in which the place of the player has been visited once more, if it is a registered
location. -/
def revisited (world : World) : World :=
  match world.playerLocation? with
  | none => world
  | some here =>
      match world.registry.location? here with
      | none => world
      | some _ =>
          { world with registry := world.registry.adjustStatus here Entity.visitedStatus 1 }

theorem toInt_status_revisited {here : Key} {place : Entity}
    (hhere : world.playerLocation? = some here)
    (hplace : world.registry.location? here = some place)
    (hvisits : 0 ≤ (place.status Entity.visitedStatus).toInt) :
    ∃ later, world.revisited.registry.get? here = some later ∧
      (later.status Entity.visitedStatus).toInt =
        min 0x7FFFFFFFFFFFFFFF ((place.status Entity.visitedStatus).toInt + 1) := by
  refine ⟨place.adjustStatus Entity.visitedStatus 1, ?_,
    place.toInt_status_adjustStatus_one Entity.visitedStatus hvisits⟩
  have hget : world.registry.get? here = some place := (Option.filter_eq_some_iff.mp hplace).1
  have hkey : place.key = here := Registry.key_of_get? hget
  have hrevisited : world.revisited.registry =
      world.registry.adjustStatus here Entity.visitedStatus 1 := by
    rw [revisited, hhere]
    dsimp only
    rw [hplace]
  have hkeeps : ∀ entity : Entity,
      (entity.adjustStatus Entity.visitedStatus 1).key = entity.key := fun _ => rfl
  have hadjusted : (world.registry.adjustStatus here Entity.visitedStatus 1).get? here =
      (world.registry.get? here).map
        (Registry.editEntry here (·.adjustStatus Entity.visitedStatus 1)) :=
    Registry.get?_modify world.registry here here hkeeps
  rw [hrevisited, hadjusted, hget, Option.map_some, Registry.editEntry, if_pos hkey]

theorem describeLocation_world (hnormal : ∀ here ∈ world.playerLocation?, here.IsNormal) :
    world.describeLocation.world = world.revisited := by
  unfold describeLocation revisited
  cases hhere : world.playerLocation? with
  | none => rfl
  | some here =>
      dsimp only
      rw [hnormal here hhere]
      cases world.registry.location? here with
      | none => rfl
      | some place => rfl

end World

/-- A game that is saved under a name is kept in a slot. -/
def Store.NamesSlot (name slot : String) : Prop :=
  Store.saveName name = .ok slot

instance (name slot : String) : Decidable (Store.NamesSlot name slot) :=
  match h : Store.saveName name with
  | .error _ => isFalse fun hslot => nomatch h.symm.trans hslot
  | .ok kept =>
      if hkept : kept = slot then isTrue (hkept ▸ h)
      else isFalse fun hslot => hkept (Except.ok.inj (h.symm.trans hslot))

namespace Stage

/-! ## Built-in behaviors -/

/-- All commands that can be played from a stage on have behaviors that the game itself has. -/
structure IsBuiltIn (stage : Stage) : Prop where
  registry : stage.session.world.registry.IsBuiltIn
  level : ∀ level ∈ stage.session.level, level.draft.2.world.registry.IsBuiltIn
  store : stage.store.HoldsOnly (·.registry.IsBuiltIn)

variable {stage next : Stage} {slot line : String} {saved : World}

theorem IsBuiltIn.goesOn (h : stage.IsBuiltIn) {registry : Registry}
    (hregistry : registry.IsBuiltIn) (hgoes : stage.GoesOn registry next) : next.IsBuiltIn where
  registry := hregistry.leadsTo hgoes.registry
  level := by
    rw [hgoes.level]
    exact h.level
  store := by
    rw [hgoes.store]
    exact h.store

/-! ## Guarding a slot -/

/-- A slot keeps a saved world, and no command is custom. -/
structure Guards (stage : Stage) (slot : String) (saved : World) : Prop where
  builtIn : stage.IsBuiltIn
  slot : ∃ slots, stage.store = .slots slots ∧ slots.saves.get? slot = some saved

theorem Guards.goesOn (h : stage.Guards slot saved) {registry : Registry}
    (hregistry : registry.IsBuiltIn) (hgoes : stage.GoesOn registry next) :
    next.Guards slot saved where
  builtIn := h.builtIn.goesOn hregistry hgoes
  slot := by
    rw [hgoes.store]
    exact h.slot

theorem IsBuiltIn.save (h : stage.IsBuiltIn) {slots : Slots} (hslots : stage.store = .slots slots)
    (name : String) :
    { stage with store := (stage.store.save name stage.session.world).2 }.IsBuiltIn := by
  have hkeep : stage.store.CanKeep stage.session.world := by
    rw [hslots]
    trivial
  exact ⟨h.registry, h.level, h.store.save name h.registry hkeep⟩

theorem guards_save (h : stage.IsBuiltIn) {slots : Slots} (hslots : stage.store = .slots slots)
    {name : String} (hname : Store.NamesSlot name slot) :
    { stage with store := (stage.store.save name stage.session.world).2 }.Guards slot
      stage.session.world := by
  refine ⟨h.save hslots name, ⟨slots.saves.insert slot stage.session.world⟩, ?_,
    Attributes.get?_insert_self ..⟩
  dsimp only
  rw [hslots, Store.save, Slots.save, hname]
  rfl

/-- Only a save under the same name could have changed what is in the slot. -/
theorem Guards.save (h : stage.Guards slot saved) {name : String}
    (hother : ¬ Store.NamesSlot name slot) :
    { stage with store := (stage.store.save name stage.session.world).2 }.Guards slot saved := by
  obtain ⟨slots, hslots, hget⟩ := h.slot
  refine ⟨h.builtIn.save hslots name, ?_⟩
  dsimp only
  rw [hslots, Store.save, Slots.save]
  cases hname : Store.saveName name with
  | error fault => exact ⟨slots, rfl, hget⟩
  | ok key =>
      have hne : slot ≠ key := fun heq => hother (heq ▸ hname)
      refine ⟨⟨slots.saves.insert key stage.session.world⟩, rfl, ?_⟩
      rw [Attributes.get?_insert_of_ne _ hne, hget]

theorem Guards.offers (h : stage.Guards slot saved) {name : String}
    (hname : Store.NamesSlot name slot) (hplayer : saved.playerPawn?.isSome = true) :
    stage.store.Offers name saved := by
  obtain ⟨slots, hslots, hget⟩ := h.slot
  refine ⟨?_, hplayer⟩
  rw [hslots, Store.load, Slots.load, hname]
  simp only [bind, Except.bind, hget]
  rfl

/-! ## Turns that leave a slot -/

/-- If a line saves, it is not to the slot. -/
def LeavesSlotAt (stage : Stage) (slot line : String) : Prop :=
  ∀ saving, stage.Runs line .save saving → ¬ Store.NamesSlot saving.slot slot

instance (stage : Stage) (slot line : String) : Decidable (stage.LeavesSlotAt slot line) :=
  decidable_of_decidable_of_iff
    (p := ∀ saving ∈ (stage.session.reading line).operation?,
      stage.Runs line .save saving → ¬ Store.NamesSlot saving.slot slot)
    ⟨fun h saving hruns => h saving (by rw [hruns.reading]; rfl) hruns, fun h saving _ => h saving⟩

/-- None of the lines that are played saves to the slot. -/
def LeavesSlot (handlers : Handlers) (slot : String) : Stage → List String → Prop
  | _, [] => True
  | stage, line :: rest =>
      stage.LeavesSlotAt slot line ∧ LeavesSlot handlers slot (stage.played handlers line) rest

theorem Guards.comesTo (h : stage.Guards slot saved) (hleaves : stage.LeavesSlotAt slot line)
    (hcomes : stage.ComesTo line next) : next.Guards slot saved := by
  cases hcomes with
  | played hunsaved hgoes => exact h.goesOn h.builtIn.registry hgoes
  | saved saving hruns hgoes =>
      exact (h.save (hleaves saving hruns)).goesOn h.builtIn.registry hgoes
  | loaded loading world hruns hoffers hgoes =>
      exact h.goesOn (h.builtIn.store.load hoffers.load) hgoes
  | restarted restarting level hruns hlevel hgoes =>
      exact h.goesOn (h.builtIn.level level hlevel) hgoes

/-- Lines of which none saves to a slot leave it as it is. -/
theorem Guards.playedAll (handlers : Handlers) {lines : List String}
    (h : stage.Guards slot saved) (hleaves : LeavesSlot handlers slot stage lines) :
    (stage.playedAll handlers lines).Guards slot saved ∧
      (stage.terminal.IsReliable → (stage.playedAll handlers lines).terminal.IsReliable) := by
  -- The later lines are played from another stage, so the stage is not fixed.
  induction lines generalizing stage with
  | nil => exact ⟨h, fun hreliable => hreliable⟩
  | cons line rest ih =>
      have hcomes := Activity.comesTo_turn handlers h.builtIn.registry line
      obtain ⟨hguards, hreliable⟩ := ih (h.comesTo hleaves.1 hcomes) hleaves.2
      exact ⟨hguards, fun hterminal => hreliable (hcomes.terminal hterminal)⟩

/-- The turn of a save leaves the world of its start in the slot. -/
theorem guards_played (handlers : Handlers) (h : stage.IsBuiltIn) {slots : Slots}
    (hslots : stage.store = .slots slots) {saving : Operation}
    (hsaves : stage.Runs line .save saving) (hname : Store.NamesSlot saving.slot slot) :
    (stage.played handlers line).Guards slot stage.session.world ∧
      (stage.terminal.IsReliable → (stage.played handlers line).terminal.IsReliable) := by
  have hcomes := Activity.comesTo_turn handlers h.registry line
  refine ⟨?_, hcomes.terminal⟩
  cases hcomes with
  | played hunsaved hgoes => exact absurd hsaves (hunsaved saving)
  | saved operation hruns hgoes =>
      obtain ⟨_, rfl⟩ := hsaves.unique hruns
      exact (guards_save h hslots hname).goesOn h.registry hgoes
  | loaded loading world hruns hoffers hgoes => cases (hsaves.unique hruns).1
  | restarted restarting level hruns hlevel hgoes => cases (hsaves.unique hruns).1

/-! ## Going back -/

/-- A turn has gone back to a saved world: it is as it was but for one more visit. -/
structure ReturnsTo (saved : World) (loading : Operation) (outcome : Outcome) (after : Stage) :
    Prop where
  outcome : outcome = .ran loading.command none
  world : after.session.world = saved.revisited
  visits : ∀ here place, saved.playerLocation? = some here →
    saved.registry.location? here = some place →
      0 ≤ (place.status Entity.visitedStatus).toInt →
        ∃ later, after.session.world.registry.get? here = some later ∧
          (later.status Entity.visitedStatus).toInt =
            min 0x7FFFFFFFFFFFFFFF ((place.status Entity.visitedStatus).toInt + 1)
  unfinished : after.session.isFinished = false

end Stage

/-- A landing where nothing happens but what is done there. -/
def World.landing : World where
  registry := Registry.ofList [
    Entity.location "Landing",
    Entity.pawn "Guest" "Landing" ⟨0x4024000000000000⟩,
    Entity.command "Save" "sv" .save,
    Entity.command "Load" "ld" .load,
    Entity.command "Restart" "rs" .restart]
  active := [⟨"save"⟩, ⟨"load"⟩, ⟨"restart"⟩]
  player := ⟨"guest"⟩
  turns := 0

def Level.landing : Level where
  name := "The Landing"
  build := Layout.editWorld fun _ => World.landing

/-- The landing with empty slots and a terminal that refuses no call. -/
def Stage.landing : Stage where
  session := { Session.fresh with world := World.landing, level := some Level.landing }
  terminal := .scripted (Script.ofLines [])
  store := .slots Slots.empty

namespace Activity

open Stage

variable {stage : Stage} {line slot : String}

theorem perform_run_of_loads (handlers : Handlers) {loading : Operation} {saved : World}
    (hloads : stage.Runs line .load loading) (hoffers : stage.store.Offers loading.slot saved) :
    (run handlers loading).perform stage.running =
      (.ok (), stage.running.loaded loading.slot saved) := by
  obtain ⟨command, hcommand, hbehavior⟩ := Option.map_eq_some_iff.mp hloads.behavior
  have hoffers : stage.running.store.Offers loading.slot saved := hoffers
  have hcommand : stage.running.session.world.registry.command? loading.command = some command :=
    hcommand
  rw [perform_run_of_command? handlers hcommand, hbehavior, runBehavior, perform_load hoffers]

theorem ends_turn_of_loads (handlers : Handlers) {loading : Operation} {saved : World}
    (hloads : stage.Runs line .load loading) (hoffers : stage.store.Offers loading.slot saved)
    (hnormal : ∀ here ∈ saved.playerLocation?, here.IsNormal) :
    Ends ((turn handlers line).perform stage) (ReturnsTo saved loading)
      fun _ => ¬ stage.terminal.IsReliable := by
  have hidle : (endingIdle (run handlers loading)).perform stage.running =
      (.ok (), idled (stage.running.loaded loading.slot saved)) := by
    have hrun := perform_run_of_loads handlers hloads hoffers
    rw [perform_endingIdle, hrun]
  apply ends_session_bind
  rw [if_neg (by simp [hloads.unfinished]), hloads.reading]
  apply ends_editSession_bind
  have hperform : { stage with session := { stage.session with phase := .commandRunning } } =
      stage.running := rfl
  rw [hperform, perform_bind, hidle]
  dsimp only
  rw [perform_bind, perform_finishTurn_of_skips rfl]
  dsimp only
  refine (ends_flush _).bind fun _ after hshown => ?_
  have hworld : after.session.world = saved.revisited := by
    rw [hshown.session]
    exact World.describeLocation_world hnormal
  refine ⟨rfl, hworld, fun here place hhere hplace hvisits => ?_, ?_⟩
  · rw [hworld]
    exact World.toInt_status_revisited hhere hplace hvisits
  · rw [hshown.session]
    rfl

/-- A load goes back to what was saved last under the same name, whatever was played in between;
the turn fails only when the terminal does. -/
theorem returnsTo_saved (handlers : Handlers) (hbuiltIn : stage.IsBuiltIn)
    (hplayer : stage.session.world.playerPawn?.isSome = true)
    (hnormal : ∀ here ∈ stage.session.world.playerLocation?, here.IsNormal)
    {slots : Slots} (hslots : stage.store = .slots slots)
    {saving : Operation} (hsaves : stage.Runs line .save saving)
    (hname : Store.NamesSlot saving.slot slot)
    {later : List String} (hleaves : LeavesSlot handlers slot (stage.played handlers line) later)
    {last : String} {loading : Operation}
    (hloads : (stage.playedAll handlers (line :: later)).Runs last .load loading)
    (hsame : Store.NamesSlot loading.slot slot) :
    Ends ((turn handlers last).perform (stage.playedAll handlers (line :: later)))
      (ReturnsTo stage.session.world loading) fun _ => ¬ stage.terminal.IsReliable := by
  obtain ⟨hsaved, hreliable⟩ := guards_played handlers hbuiltIn hslots hsaves hname
  obtain ⟨hguards, hstill⟩ := hsaved.playedAll handlers hleaves
  have hturn := ends_turn_of_loads handlers hloads (hguards.offers hsame hplayer) hnormal
  exact hturn.weaken (fun _ _ h => h) fun _ => mt fun h => hstill (hreliable h)

/-- On the landing another game is saved, a new one started and the other one loaded before the
first one is. -/
theorem returnsTo_saved_landing :
    Stage.landing.IsBuiltIn ∧ Stage.landing.session.world.playerPawn?.isSome = true ∧
      (∀ here ∈ Stage.landing.session.world.playerLocation?, here.IsNormal) ∧
      Stage.landing.store = .slots Slots.empty ∧
      Stage.landing.Runs "save" .save (Operation.bare "save") ∧
      Store.NamesSlot (Operation.bare "save").slot "quicksave" ∧
      LeavesSlot [] "quicksave" (Stage.landing.played [] "save")
        ["save attic", "restart", "load attic"] ∧
      (Stage.landing.playedAll [] ["save", "save attic", "restart", "load attic"]).Runs "load"
        .load (Operation.bare "load") ∧
      Store.NamesSlot (Operation.bare "load").slot "quicksave" ∧
      Ends ((turn [] "load").perform
          (Stage.landing.playedAll [] ["save", "save attic", "restart", "load attic"]))
        (ReturnsTo Stage.landing.session.world (Operation.bare "load"))
        fun _ => ¬ Stage.landing.terminal.IsReliable := by
  have hregistry : World.landing.registry.IsBuiltIn := by decide +kernel
  have hbuiltIn : Stage.landing.IsBuiltIn := by
    refine ⟨hregistry, ?_, fun entry hentry => nomatch hentry⟩
    rintro level hlevel
    cases hlevel
    exact hregistry
  have hplayer : Stage.landing.session.world.playerPawn?.isSome = true := by decide +kernel
  have hnormal : ∀ here ∈ Stage.landing.session.world.playerLocation?, here.IsNormal := by
    decide +kernel
  have hsaves : Stage.landing.Runs "save" .save (Operation.bare "save") := by decide +kernel
  have hname : Store.NamesSlot (Operation.bare "save").slot "quicksave" := by decide +kernel
  have hleaves : LeavesSlot [] "quicksave" (Stage.landing.played [] "save")
      ["save attic", "restart", "load attic"] := by
    refine ⟨?_, ?_, ?_, trivial⟩
    · decide +kernel
    · decide +kernel
    · decide +kernel
  have hloads : (Stage.landing.playedAll [] ["save", "save attic", "restart", "load attic"]).Runs
      "load" .load (Operation.bare "load") := by
    decide +kernel
  have hsame : Store.NamesSlot (Operation.bare "load").slot "quicksave" := by decide +kernel
  have hslots : Stage.landing.store = .slots Slots.empty := rfl
  -- Without its definition the stage is not played while the types are compared.
  generalize Stage.landing = stage at hbuiltIn hplayer hnormal hslots hsaves hleaves hloads ⊢
  exact ⟨hbuiltIn, hplayer, hnormal, hslots, hsaves, hname, hleaves, hloads, hsame,
    returnsTo_saved [] hbuiltIn hplayer hnormal hslots hsaves hname hleaves hloads hsame⟩

end Activity

end TextAdventure
