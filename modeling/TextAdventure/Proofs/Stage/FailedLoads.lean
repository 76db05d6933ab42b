import TextAdventure.Proofs.Action.Replies
import TextAdventure.Proofs.Stage.Commands

/-!
# Failed loads

A load goes on from a world that the store holds and that can be played, or it says why there is
none and changes nothing else.  There are four places where it can fail: the name, what is kept
under it, the bytes of a file, and the player of the world.
-/

namespace TextAdventure

namespace Store

variable {store : Store} {slot : String}

/-- The world that a store holds under a name: kept in a slot, or read from the bytes of a file. -/
inductive Holds : Store → String → World → Prop where
  | slot {saves : Slots} {slot name : String} {world : World} (hname : saveName slot = .ok name)
      (hkept : saves.saves.get? name = some world) : Holds (.slots saves) slot world
  | file {place : Folder} {slot name : String} {bytes : List UInt8} {world : World}
      (hname : saveName slot = .ok name)
      (hkept : place.opened.get? (Folder.fileName name) = some (.file bytes))
      (hbytes : World.ofBytes bytes = .ok world) : Holds (.folder place) slot world

/-- The fault of a world whose player is no pawn. -/
def playerless (world : World) : Fault :=
  Fault.ofCause (.persistence ("snapshot player '" ++ world.player.text ++ "' is not a pawn"))

/-- Why a store has no world to go on from under a name, and the fault that says so. -/
inductive Lacks : Store → String → Fault → Prop where
  | misnamed {store : Store} {slot : String}
      (hname : isUnsafeName (Text.trim slot).toList = true) :
      Lacks store slot (Fault.ofCause (.invalidSaveName slot))
  | noSlot {saves : Slots} {slot name : String} (hname : saveName slot = .ok name)
      (hkept : saves.saves.get? name = none) : Lacks (.slots saves) slot (missing slot)
  | noFile {place : Folder} {slot name : String} (hname : saveName slot = .ok name)
      (hkept : place.opened.get? (Folder.fileName name) = none) :
      Lacks (.folder place) slot (missing slot)
  | noBytes {place : Folder} {slot name : String} (hname : saveName slot = .ok name)
      (hkept : place.opened.get? (Folder.fileName name) = some .folder) :
      Lacks (.folder place) slot (Folder.unreadable (Folder.fileName name))
  | malformed {place : Folder} {slot name : String} {bytes : List UInt8}
      (hname : saveName slot = .ok name)
      (hkept : place.opened.get? (Folder.fileName name) = some (.file bytes))
      (hbytes : ∀ world, World.ofBytes bytes ≠ .ok world) :
      Lacks (.folder place) slot World.malformed
  | playerless {store : Store} {slot : String} {world : World} (hworld : store.Holds slot world)
      (hplayer : world.playerPawn? = none) : Lacks store slot (playerless world)

end Store

/-- Bytes are read as a world or refused as malformed. -/
theorem World.ofBytes_cases (bytes : List UInt8) :
    (∃ world, World.ofBytes bytes = .ok world) ∨ World.ofBytes bytes = .error World.malformed := by
  unfold World.ofBytes
  split
  · exact Or.inr rfl
  · split
    · exact Or.inr rfl
    next world _ => exact Or.inl ⟨world, rfl⟩

theorem World.check_of_none {world : World} (h : world.playerPawn? = none) :
    world.check = .error (Store.playerless world) := by
  rw [World.check, h]
  rfl

theorem Session.restore_of_check {world : World} {fault : Fault} {session : Session}
    (h : world.check = .error fault) : session.restore world = .error fault := by
  rw [restore, h]
  rfl

/-! ## What a store holds -/

namespace Store

variable {store : Store} {slot : String} {world : World}

theorem saveName_cases (slot : String) :
    (∃ name, saveName slot = .ok name) ∨ isUnsafeName (Text.trim slot).toList = true := by
  rw [saveName]
  split
  next hunsafe => exact Or.inr hunsafe
  · exact Or.inl ⟨_, rfl⟩

/-- A store holds a world that can be played, or lacks one for a reason. -/
theorem holds_or_lacks (store : Store) (slot : String) :
    (∃ world, store.Holds slot world ∧ world.playerPawn?.isSome = true) ∨
      ∃ fault, store.Lacks slot fault := by
  have hplayable : ∀ {world}, store.Holds slot world →
      (∃ world, store.Holds slot world ∧ world.playerPawn?.isSome = true) ∨
        ∃ fault, store.Lacks slot fault := by
    intro world hworld
    cases hplayer : world.playerPawn? with
    | none => exact Or.inr ⟨_, .playerless hworld hplayer⟩
    | some pawn => exact Or.inl ⟨world, hworld, by rw [hplayer]; rfl⟩
  rcases saveName_cases slot with ⟨name, hname⟩ | hunsafe
  · cases store with
    | slots saves =>
        cases hkept : saves.saves.get? name with
        | none => exact Or.inr ⟨_, .noSlot hname hkept⟩
        | some world => exact hplayable (.slot hname hkept)
    | folder place =>
        cases hkept : place.opened.get? (Folder.fileName name) with
        | none => exact Or.inr ⟨_, .noFile hname hkept⟩
        | some entry =>
            cases entry with
            | folder => exact Or.inr ⟨_, .noBytes hname hkept⟩
            | file bytes =>
                rcases World.ofBytes_cases bytes with ⟨world, hbytes⟩ | hbytes
                · exact hplayable (.file hname hkept hbytes)
                · refine Or.inr ⟨_, .malformed hname hkept fun world hworld => ?_⟩
                  cases hbytes.symm.trans hworld
  · exact Or.inr ⟨_, .misnamed hunsafe⟩

theorem load_slots {saves : Slots} {name : String} (hname : saveName slot = .ok name) :
    (slots saves).load slot =
      match saves.saves.get? name with
      | none => .error (missing slot)
      | some world => .ok world := by
  rw [load, Slots.load, hname]
  rfl

theorem load_folder {place : Folder} {name : String} (hname : saveName slot = .ok name) :
    (folder place).load slot =
      match place.opened.get? (Folder.fileName name) with
      | none => .error (missing slot)
      | some .folder => .error (Folder.unreadable (Folder.fileName name))
      | some (.file bytes) =>
          (World.ofBytes bytes).bind fun world => world.check.bind fun _ => .ok world := by
  rw [load, Folder.load, Folder.pathFor, hname]
  rfl

/-- A world that is held and can be played is loaded. -/
theorem Holds.offers (h : store.Holds slot world) (hplayer : world.playerPawn?.isSome = true) :
    store.Offers slot world := by
  refine ⟨?_, hplayer⟩
  obtain ⟨pawn, hpawn⟩ := Option.isSome_iff_exists.mp hplayer
  have hcheck : world.check = .ok () := by rw [World.check, hpawn]
  cases h with
  | slot hname hkept => rw [load_slots hname, hkept]
  | file hname hkept hbytes =>
      rw [load_folder hname, hkept]
      simp only [hbytes, Except.bind, hcheck]

/-- A store that lacks a world says why, or gives one that cannot be played. -/
theorem Lacks.refuses {fault : Fault} (h : store.Lacks slot fault) :
    store.load slot = .error fault ∨
      ∃ world, store.load slot = .ok world ∧ world.check = .error fault := by
  cases h with
  | misnamed hunsafe =>
      left
      have hname : saveName slot = .error (Fault.ofCause (.invalidSaveName slot)) := by
        rw [saveName, if_pos hunsafe]
      cases store with
      | slots saves =>
          rw [load, Slots.load, hname]
          rfl
      | folder place =>
          rw [load, Folder.load, Folder.pathFor, hname]
          rfl
  | noSlot hname hkept =>
      left
      rw [load_slots hname, hkept]
  | noFile hname hkept =>
      left
      rw [load_folder hname, hkept]
  | noBytes hname hkept =>
      left
      rw [load_folder hname, hkept]
  | @malformed _ _ _ bytes hname hkept hbytes =>
      left
      rcases World.ofBytes_cases bytes with ⟨world, hworld⟩ | hmalformed
      · exact absurd hworld (hbytes world)
      · rw [load_folder hname, hkept]
        simp only [hmalformed, Except.bind]
  | playerless hworld hplayer =>
      have hcheck := World.check_of_none hplayer
      cases hworld with
      | slot hname hkept =>
          right
          exact ⟨_, by rw [load_slots hname, hkept], hcheck⟩
      | file hname hkept hbytes =>
          left
          rw [load_folder hname, hkept]
          simp only [hbytes, Except.bind, hcheck]

end Store

/-! ## Loading -/

namespace Activity

variable {stage : Stage} {fault : Fault}

theorem perform_load_of_lacks {operation : Operation} (h : stage.store.Lacks operation.slot fault) :
    (load operation).perform stage =
      (.ok (),
        { stage with session := stage.session.say ("Could not load: " ++ fault.message) }) := by
  have hload : (loadFrom operation.slot).perform stage = (.error fault, stage) := by
    simp only [perform, loadFrom, ofStep, ExceptT.mk, ExceptT.run, StateT.run]
    rcases h.refuses with herror | ⟨world, hworld, hcheck⟩
    · rw [herror]
    · simp only [hworld, Session.restore_of_check hcheck]
  rw [load, perform_reporting, hload]
  rfl

/-- A load succeeds with a registered pawn for the player, or says why it cannot and changes nothing
but the output; and reading bytes gives a world or the fault of malformed ones. -/
theorem load_cases (operation : Operation) (stage : Stage) :
    ((∃ world, stage.store.Holds operation.slot world ∧
        (load operation).perform stage = (.ok (), stage.loaded operation.slot world) ∧
        (stage.loaded operation.slot world).session.world.playerPawn?.isSome = true) ∨
      ∃ fault, stage.store.Lacks operation.slot fault ∧
        (load operation).perform stage = (.ok (),
          { stage with
            session := stage.session.say ("Could not load: " ++ fault.message) })) ∧
      ∀ bytes, (∃ world, World.ofBytes bytes = .ok world) ∨
        World.ofBytes bytes = .error World.malformed := by
  refine ⟨?_, World.ofBytes_cases⟩
  rcases stage.store.holds_or_lacks operation.slot with ⟨world, hworld, hplayer⟩ | ⟨fault, hlacks⟩
  · refine Or.inl ⟨world, hworld, perform_load (hworld.offers hplayer), ?_⟩
    exact (congrArg Option.isSome world.playerPawn?_describeLocation).trans hplayer
  · exact Or.inr ⟨fault, hlacks, perform_load_of_lacks hlacks⟩

end Activity

end TextAdventure
