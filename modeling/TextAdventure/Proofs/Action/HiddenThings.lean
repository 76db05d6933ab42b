import TextAdventure.Proofs.Action.Errands
import TextAdventure.Proofs.Soundness.Replies
import TextAdventure.Stage.Turn

/-!
# Hidden things

What a phrase names is looked for everywhere in the end, so a command can be given a thing that is
hidden.  Each command asks on its own whether things show: getting, examining and talking ask it of
the one thing they are about, putting goes by the scope, and travelling chooses among the exits
that show.  Nothing is made of a hidden thing by any of them, unless the player carries it.  A stack
of which nothing is left would be carried as well, though it could only come with a restored world.
-/

namespace TextAdventure

namespace Registry

variable {registry : Registry} {key : Key}

/-- The units of an item in one container, in whatever stacks they are. -/
def unitsAt (registry : Registry) (holder item : Key) : Nat :=
  Container.tally (Container.unit item) (Scope.stacksOf registry holder)

theorem exists_of_isHidden (h : registry.isHidden key = true) :
    ∃ entity, registry.get? key = some entity ∧ entity.isHidden = true := by
  unfold isHidden at h
  split at h
  · cases h
  next entity hget => exact ⟨entity, hget, h⟩

theorem isHidden_key {entity : Entity} (h : entity ∈ registry.entities) :
    registry.isHidden entity.key = entity.isHidden := by
  rw [isHidden, get?_of_mem h]

/-- What shows and what is hidden have different keys. -/
theorem key_ne_of_isHidden (h : registry.isHidden key = true) {entity : Entity}
    (hentity : entity ∈ registry.entities) (hshows : entity.isHidden = false) :
    entity.key ≠ key := by
  rintro rfl
  rw [isHidden_key hentity, hshows] at h
  cases h

end Registry

/-! ## The scope -/

namespace Scope

variable {registry : Registry} {key : Key}

theorem key_ne_of_mem_visibleExits (h : registry.isHidden key = true) {location : Key}
    {pair : Entity × Exit} (hpair : pair ∈ visibleExits registry location) : pair.1.key ≠ key := by
  obtain ⟨hexit, hshows⟩ := List.mem_filter.mp hpair
  exact Registry.key_ne_of_isHidden h (Registry.of_mem_exitsFrom hexit).1 (by simpa using hshows)

/-- No list of what is nearby has a place for a hidden thing. -/
theorem notMem_nearby_of_isHidden (h : registry.isHidden key = true) (actor location : Key) :
    key ∉ nearby registry actor location := by
  rw [nearby, List.mem_append, List.mem_append]
  rintro ((hitem | hcompanion) | hexit)
  · obtain ⟨stack, hstack, rfl⟩ := List.mem_map.mp hitem
    have hshows := (List.mem_filter.mp hstack).2
    rw [h] at hshows
    cases hshows
  · obtain ⟨pawn, hpawn, rfl⟩ := List.mem_map.mp hcompanion
    obtain ⟨hhere, hshows⟩ := List.mem_filter.mp hpawn
    rw [Bool.and_eq_true, Bool.not_eq_true'] at hshows
    exact Registry.key_ne_of_isHidden h (List.mem_filter.mp hhere).1 hshows.2 rfl
  · obtain ⟨pair, hpair, rfl⟩ := List.mem_map.mp hexit
    exact key_ne_of_mem_visibleExits h hpair rfl

/-- A hidden thing is in the scope of those who carry it only. -/
theorem contains_ofActor_eq_false {actor : Key} (h : registry.isHidden key = true)
    (hcarried : key ∉ (stacksOf registry actor).map Stack.item) :
    (ofActor registry actor).contains key = false := by
  have hlocation : key ∉ (ofActor registry actor).location := by
    rw [ofActor]
    split
    · exact List.not_mem_nil
    · exact notMem_nearby_of_isHidden h actor _
  rw [contains, Bool.or_eq_false_iff, decide_eq_false_iff_not, decide_eq_false_iff_not]
  exact ⟨hcarried, hlocation⟩

end Scope

/-! ## Carrying -/

/-- Whether the player has a stack of a thing. -/
def World.Carries (world : World) (key : Key) : Prop :=
  key ∈ (Scope.stacksOf world.registry world.player).map Stack.item

/-- Unless a stack of it is empty, what the player carries is what it holds a unit of. -/
theorem World.carries_iff_held_ne_zero {world : World} {key : Key}
    (hfilled : ∀ stack ∈ Scope.stacksOf world.registry world.player,
      stack.item = key → stack.quantity ≠ 0) :
    world.Carries key ↔ world.registry.held world.player key ≠ 0 := by
  rw [Registry.held_eq_quantityIn]
  exact Container.mem_items_iff hfilled

namespace Errand

variable {arithmetic : Arithmetic} {world : World} {key : Key} {operation : Operation}

theorem exists_refusal_ofGet_of_isHidden (arithmetic : Arithmetic)
    (h : world.registry.isHidden key = true)
    (hdirect : operation.direct = some key) :
    ∃ text, Handling.ofGet arithmetic world operation = .refusal text := by
  obtain ⟨entity, hget, hhidden⟩ := Registry.exists_of_isHidden h
  unfold Handling.ofGet
  rw [hdirect]
  split
  · exact ⟨_, rfl⟩
  · dsimp only
    split
    next here item hhere hitem =>
      cases hitem
      simp only [hget, hhidden, Bool.not_true, or_true, if_true]
      split
      · exact ⟨_, rfl⟩
      · exact ⟨_, rfl⟩
    · exact ⟨_, rfl⟩

theorem held_get_of_isHidden (h : world.registry.isHidden key = true) (holder : Key) :
    (world.get arithmetic operation).world.registry.held holder key =
      world.registry.held holder key := by
  by_cases hdirect : operation.direct = some key
  · obtain ⟨text, hrefused⟩ := exists_refusal_ofGet_of_isHidden arithmetic h hdirect
    rw [World.get, hrefused]
    rfl
  · rcases world_reply_cases arithmetic world (.get operation) with hsame | hmoved
    · rw [show (world.get arithmetic operation).world = world from hsame]
    · obtain ⟨after, source, target, item, hmoves, hworld⟩ := hmoved
      have hne : key ≠ item := by
        rintro rfl
        exact hdirect hmoves.item_eq
      rw [show (world.get arithmetic operation).world = { world with registry := after } from
        hworld]
      exact Registry.held_transfer?_of_ne hmoves.transferred hne holder

theorem unitsAt_put_le (h : world.registry.isHidden key = true) (hcarried : ¬ world.Carries key)
    (item : Key) :
    (world.put operation).world.registry.unitsAt key item ≤ world.registry.unitsAt key item := by
  rw [World.put]
  cases hhandling : Handling.ofPut world operation with
  | refusal text => exact Nat.le_refl _
  | nothing => exact Nat.le_refl _
  | transfer after text =>
      have hmoves : ∃ source target moved, (put operation).Moves Arithmetic.binary64 world after
          source target moved := moves_of_transfer hhandling
      obtain ⟨source, target, moved, hmoves⟩ := hmoves
      obtain ⟨found, record, hindirect, hcontains, -⟩ := exists_target_of_ofPut hhandling
      cases hindirect.symm.trans hmoves.target_eq
      have htarget : key ≠ target := by
        rintro rfl
        rw [Scope.contains_ofActor_eq_false h hcarried] at hcontains
        cases hcontains
      obtain ⟨between, hpasses⟩ := Registry.exists_passes hmoves.transferred
      have hlightened := hpasses.tally_between (Container.unit item) key
      rw [← hpasses.later_eq key htarget] at hlightened
      exact Nat.le_of_add_right_le (Nat.le_of_eq hlightened)

end Errand

/-! ## Travel -/

namespace World

variable {world : World} {key : Key}

/-- The first visible exit with a property. -/
def exitTaken? (world : World) (suits : Entity → Exit → Bool) : Option (Entity × Exit) :=
  world.playerLocation?.bind fun here =>
    (Scope.visibleExits world.registry here).find? fun pair => suits pair.1 pair.2

/-- Leave by an exit, if there is one. -/
def leaveBy (world : World) (taken : Option (Entity × Exit)) : Reply :=
  world.travel (taken.map fun pair => pair.2.destination)

theorem travel_exitWhere (world : World) (suits : Entity → Exit → Bool) :
    world.travel (world.exitWhere suits) = world.leaveBy (world.exitTaken? suits) := by
  rw [leaveBy, exitWhere, exitTaken?]
  cases world.playerLocation? <;> rfl

theorem key_ne_of_exitTaken? (h : world.registry.isHidden key = true)
    {suits : Entity → Exit → Bool} {pair : Entity × Exit}
    (hpair : world.exitTaken? suits = some pair) : pair.1.key ≠ key := by
  obtain ⟨here, -, hfound⟩ := Option.bind_eq_some_iff.mp hpair
  exact Scope.key_ne_of_mem_visibleExits h (List.mem_of_find?_eq_some hfound)

/-! ## Talking and examining -/

theorem companion?_eq_none_of_isHidden (h : world.registry.isHidden key = true) :
    world.companion? key = none := by
  obtain ⟨entity, hget, hhidden⟩ := Registry.exists_of_isHidden h
  rw [companion?, hget]
  cases hpawn : entity.kind.pawn? with
  | none => simp only [hpawn]
  | some pawn => simp [hpawn, hhidden]

theorem canSee_eq_false_of_isHidden (h : world.registry.isHidden key = true) :
    world.canSee key = false := by
  obtain ⟨entity, hget, hhidden⟩ := Registry.exists_of_isHidden h
  simp [canSee, hget, hhidden]

theorem examine_of_isHidden (h : world.registry.isHidden key = true) (operation : Operation) :
    world.examine { operation with direct := some key } =
      world.examine { operation with direct := none } := by
  simp only [examine, canSee_eq_false_of_isHidden h]
  rfl

end World

/-! ## Commands -/

namespace Stage

open Activity

/-- What a command has come to leads away by an exit other than the one of the key, if anywhere. -/
structure LeavesElsewhere (stage : Stage) (suits : Entity → Exit → Bool) (key : Key)
    (outcome : Except Fault Unit × Stage) : Prop where
  leaves : outcome =
    (answer fun world => world.leaveBy (world.exitTaken? suits)).perform stage
  elsewhere : ∀ pair, stage.session.world.exitTaken? suits = some pair → pair.1.key ≠ key

/-- What a command has come to starts the dialog of a companion other than the one of the key. -/
def AddressesOther (stage : Stage) (key : Key) (outcome : Except Fault Unit × Stage) : Prop :=
  ∃ other entity pawn dialog, other ≠ key ∧
    stage.session.world.companion? other = some (entity, pawn) ∧ pawn.dialog = some dialog ∧
    outcome = (converse dialog).perform stage

/-- Nothing is made of a thing by any command of an operation. -/
structure Spares (stage : Stage) (handlers : Handlers) (operation : Operation) (key : Key) :
    Prop where
  get : ∀ holder,
    ((runBehavior handlers operation .get).perform stage).2.session.world.registry.held holder key =
      stage.session.world.registry.held holder key
  /-- An empty stack of the thing would bring it within reach. -/
  put : (∀ stack ∈ Scope.stacksOf stage.session.world.registry stage.session.world.player,
      stack.item = key → stack.quantity ≠ 0) → ∀ item,
    ((runBehavior handlers operation .put).perform stage).2.session.world.registry.unitsAt key item ≤
      stage.session.world.registry.unitsAt key item
  move : stage.LeavesElsewhere (fun _ exit => exit.direction == some operation.command) key
    ((runBehavior handlers operation .move).perform stage)
  go : (runBehavior handlers operation .go).perform stage = (say "Go where?").perform stage ∨
    ∃ phrase, stage.LeavesElsewhere (World.phraseSuits phrase) key
      ((runBehavior handlers operation .go).perform stage)
  talk : (∃ text, (runBehavior handlers operation .talk).perform stage = (say text).perform stage) ∨
    stage.AddressesOther key ((runBehavior handlers operation .talk).perform stage)
  /-- Resolved to the thing, the phrase is answered as if it were resolved to nothing. -/
  examine : (runBehavior handlers { operation with direct := some key } .examine).perform stage =
    (runBehavior handlers { operation with direct := none } .examine).perform stage

end Stage

namespace Activity

variable {stage : Stage} {key : Key}

theorem leavesElsewhere_of_travel (h : stage.session.world.registry.isHidden key = true)
    (reply : World → Reply) {suits : Entity → Exit → Bool}
    (hreply : reply stage.session.world =
      stage.session.world.travel (stage.session.world.exitWhere suits)) :
    stage.LeavesElsewhere suits key ((answer reply).perform stage) where
  leaves := by
    rw [World.travel_exitWhere] at hreply
    simp only [answer, perform_editSession, hreply]
  elsewhere := fun _ hpair => World.key_ne_of_exitTaken? h hpair

theorem leavesElsewhere_go (handlers : Handlers) (operation : Operation)
    (h : stage.session.world.registry.isHidden key = true) :
    (runBehavior handlers operation .go).perform stage = (say "Go where?").perform stage ∨
      ∃ phrase, stage.LeavesElsewhere (World.phraseSuits phrase) key
        ((runBehavior handlers operation .go).perform stage) := by
  by_cases hphrase : (if operation.directPhrase.isEmpty then operation.indirectPhrase
      else operation.directPhrase).isEmpty = true
  · refine Or.inl ?_
    have hreply : stage.session.world.go operation =
        Reply.saying stage.session.world "Go where?" := if_pos hphrase
    simp only [runBehavior, answer, perform_editSession, hreply]
    rfl
  · exact Or.inr ⟨_, leavesElsewhere_of_travel h (·.go operation) (if_neg hphrase)⟩

theorem addressesOther_talk (handlers : Handlers) (operation : Operation)
    (h : stage.session.world.registry.isHidden key = true) :
    (∃ text, (runBehavior handlers operation .talk).perform stage = (say text).perform stage) ∨
      stage.AddressesOther key ((runBehavior handlers operation .talk).perform stage) := by
  rw [runBehavior, talk, perform_bind, perform_session]
  cases haddress : stage.session.world.address operation with
  | speech text =>
      simp only [haddress]
      exact Or.inl ⟨text, rfl⟩
  | dialog dialog =>
      simp only [haddress]
      obtain ⟨other, entity, pawn, hcompanion, hdialog⟩ :=
        World.exists_companion_of_address haddress
      refine Or.inr ⟨other, entity, pawn, dialog, ?_, hcompanion, hdialog, rfl⟩
      rintro rfl
      rw [World.companion?_eq_none_of_isHidden h] at hcompanion
      cases hcompanion

/-- Whatever an operation speaks of, and however its phrases were resolved: the commands make
nothing of a thing that is hidden and of which the player holds no unit. -/
theorem spares_hidden (handlers : Handlers) (stage : Stage) (operation : Operation) {key : Key}
    (hhidden : stage.session.world.registry.isHidden key = true)
    (hheld : stage.session.world.registry.held stage.session.world.player key = 0) :
    stage.Spares handlers operation key where
  get := fun holder => Errand.held_get_of_isHidden hhidden holder
  put := by
    intro hfilled item
    have hcarried : ¬ stage.session.world.Carries key :=
      fun hcarries => (World.carries_iff_held_ne_zero hfilled).mp hcarries hheld
    exact Errand.unitsAt_put_le hhidden hcarried item
  move := leavesElsewhere_of_travel hhidden (·.moveAlong operation) rfl
  go := leavesElsewhere_go handlers operation hhidden
  talk := addressesOther_talk handlers operation hhidden
  examine := by
    simp only [runBehavior, answer, perform_editSession, World.examine_of_isHidden hhidden]

end Activity

/-! ## A jar in the pantry -/

/-- The cook, who has a spoon and whatever else, and does not see the jar. -/
def World.pantry (others : List Stack) : World where
  registry := Registry.ofList [
    Entity.location "Pantry",
    (Entity.pawn "Cook" "Pantry" ⟨0x4024000000000000⟩).withContainer ⟨⟨⟨"spoon"⟩, 1⟩ :: others⟩,
    Entity.item "Spoon" ⟨0⟩,
    ((Entity.item "Jar" ⟨0⟩).withContainer Container.empty).hide,
    (Entity.action "Put" "p" .put).withPreposition "in"]
  active := [⟨"put"⟩]
  player := ⟨"cook"⟩
  turns := 0

def Stage.pantry (others : List Stack) : Stage where
  session := { Session.fresh with world := World.pantry others }
  terminal := .scripted (Script.ofLines [])
  store := .slots Slots.empty

/-- What is read from the line that puts the spoon in the jar. -/
def Operation.putInJar : Operation where
  input := "put spoon in jar"
  tokens := ["put", "spoon", "in", "jar"]
  verb := "put"
  command := ⟨"put"⟩
  rest := "spoon in jar"
  quantity := 1
  isExplicit := false
  preposition := some "in"
  directPhrase := ⟨["spoon"]⟩
  indirectPhrase := ⟨["jar"]⟩
  direct := some ⟨"spoon"⟩
  indirect := some ⟨"jar"⟩

namespace Activity

/-- The jar is found when it is looked for everywhere, and nothing is put into it. -/
theorem spares_hidden_jar :
    let stage := Stage.pantry []
    stage.session.reading "put spoon in jar" = .parsed .putInJar ∧
      stage.session.world.registry.isHidden ⟨"jar"⟩ = true ∧
      stage.session.world.registry.held ⟨"cook"⟩ ⟨"jar"⟩ = 0 ∧
      stage.Spares [] .putInJar ⟨"jar"⟩ ∧
      ((runBehavior [] .putInJar .put).perform stage).2.session.world.registry.unitsAt ⟨"jar"⟩
        ⟨"spoon"⟩ ≤ stage.session.world.registry.unitsAt ⟨"jar"⟩ ⟨"spoon"⟩ := by
  have hreading : (Stage.pantry []).session.reading "put spoon in jar" = .parsed .putInJar := by
    decide +kernel
  have hhidden : (Stage.pantry []).session.world.registry.isHidden ⟨"jar"⟩ = true := by
    decide +kernel
  have hheld : (Stage.pantry []).session.world.registry.held ⟨"cook"⟩ ⟨"jar"⟩ = 0 := by
    decide +kernel
  have hspares := spares_hidden [] (Stage.pantry []) .putInJar hhidden hheld
  exact ⟨hreading, hhidden, hheld, hspares, hspares.put (by decide +kernel) ⟨"spoon"⟩⟩

/-- A world restored from bytes may have an empty stack of the jar in it, and then the spoon goes
into the jar, of which the cook holds no unit. -/
theorem not_spares_hidden_emptyStack :
    let stage := Stage.pantry [⟨⟨"jar"⟩, 0⟩]
    (World.ofBytes stage.session.world.toBytes).toOption = some stage.session.world ∧
      stage.session.world.check.toOption = some () ∧
      stage.session.reading "put spoon in jar" = .parsed .putInJar ∧
      stage.session.world.registry.isHidden ⟨"jar"⟩ = true ∧
      stage.session.world.registry.held ⟨"cook"⟩ ⟨"jar"⟩ = 0 ∧
      stage.session.world.registry.unitsAt ⟨"jar"⟩ ⟨"spoon"⟩ = 0 ∧
      ((runBehavior [] .putInJar .put).perform stage).2.session.world.registry.unitsAt ⟨"jar"⟩
        ⟨"spoon"⟩ = 1 := by
  refine ⟨?_, ?_, ?_, ?_, ?_, ?_, ?_⟩ <;> decide +kernel

end Activity

end TextAdventure
