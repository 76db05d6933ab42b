import TextAdventure.Action.Help
import TextAdventure.Action.Talk
import TextAdventure.Proofs.Action.Errands
import TextAdventure.Proofs.Action.Replies
import TextAdventure.Proofs.Soundness.Worlds

/-!
# Sound replies

Looking counts a visit, travelling moves the player to where an exit leads, and carrying
moves units between two containers; no other reply changes the world.  So a sound world
stays sound whatever the operation asks for.
-/

namespace TextAdventure

namespace World.IsSound

variable {world : World}

/-! ## Looking -/

theorem describeLocation (h : world.IsSound) : world.describeLocation.world.IsSound := by
  rcases world_describeLocation_cases world with hsame | ⟨here, hvisited⟩
  · rw [hsame]
    exact h
  · rw [hvisited]
    exact h.adjustStatus here Entity.visitedStatus 1

theorem examine (h : world.IsSound) (operation : Operation) :
    (world.examine operation).world.IsSound := by
  rw [world_examine]
  exact h

/-! ## Travelling -/

theorem normal_of_exitWhere (h : world.IsSound) {suits : Entity → Exit → Bool}
    {destination : Key} (hexit : world.exitWhere suits = some destination) :
    destination.IsNormal := by
  obtain ⟨here, -, pair, hpair, rfl⟩ := exists_of_exitWhere hexit
  obtain ⟨hentity, hkind, -⟩ := Registry.of_mem_exitsFrom (List.mem_filter.mp hpair).1
  refine (h.standard pair.1 hentity).normal pair.2.destination ?_
  rw [hkind]
  exact List.mem_cons_of_mem _ List.mem_cons_self

theorem travel (h : world.IsSound) {destination : Option Key}
    (hnormal : ∀ key, destination = some key → key.IsNormal) :
    (world.travel destination).world.IsSound := by
  rcases world_travel_cases world destination with hsame | ⟨key, hkey, hmoved⟩
  · rw [hsame]
    exact h
  · rw [hmoved]
    exact (h.movePawnTo world.player (hnormal key hkey)).describeLocation

theorem moveAlong (h : world.IsSound) (operation : Operation) :
    (world.moveAlong operation).world.IsSound :=
  h.travel fun _ => h.normal_of_exitWhere

theorem go (h : world.IsSound) (operation : Operation) : (world.go operation).world.IsSound := by
  rcases world_go_cases world operation with hsame | ⟨suits, hgone⟩
  · rw [hsame]
    exact h
  · rw [hgone]
    exact h.travel fun _ => h.normal_of_exitWhere

/-! ## Carrying -/

theorem transfer (h : world.IsSound) {source target item : Key} {quantity : UInt32}
    {after : Registry}
    (htransfer : world.registry.transfer? source target item quantity = some after) :
    { world with registry := after }.IsSound := by
  unfold Registry.transfer? at htransfer
  split at htransfer
  · cases htransfer
  · split at htransfer
    · cases htransfer
    next container hcontainer =>
      split at htransfer
      · cases htransfer
      next lighter hlighter =>
        cases htransfer
        have htidy : Container.IsTidy lighter.contents :=
          (h.tidy_of_container? hcontainer).remove? hlighter
        exact (h.mapContainer source fun _ _ => htidy).mapContainer target
          fun _ hother => hother.add item quantity

/-- An errand moves units between two containers, if it changes anything. -/
theorem errand (h : world.IsSound) (arithmetic : Arithmetic) (errand : Errand) :
    (errand.reply arithmetic world).world.IsSound := by
  rcases Errand.world_reply_cases arithmetic world errand with hsame | hmoved
  · rw [hsame]
    exact h
  · obtain ⟨after, source, target, item, hmoves, hworld⟩ := hmoved
    rw [hworld]
    exact h.transfer hmoves.transferred

theorem get (h : world.IsSound) (arithmetic : Arithmetic) (operation : Operation) :
    (world.get arithmetic operation).world.IsSound :=
  h.errand arithmetic (.get operation)

theorem drop (h : world.IsSound) (operation : Operation) :
    (world.drop operation).world.IsSound :=
  h.errand Arithmetic.binary64 (.drop operation)

theorem put (h : world.IsSound) (operation : Operation) :
    (world.put operation).world.IsSound :=
  h.errand Arithmetic.binary64 (.put operation)

theorem takeStock (h : world.IsSound) : world.takeStock.world.IsSound := by
  rw [world_takeStock]
  exact h

end World.IsSound

/-! ## Talking -/

/-- The dialog that talking comes to is the one of a companion. -/
theorem World.exists_companion_of_address {world : World} {operation : Operation} {dialog : Key}
    (h : world.address operation = .dialog dialog) :
    ∃ key entity pawn, world.companion? key = some (entity, pawn) ∧
      pawn.dialog = some dialog := by
  unfold World.address at h
  dsimp only at h
  generalize (if operation.directPhrase.isEmpty then operation.indirect
    else operation.direct) = target at h
  generalize (if operation.directPhrase.isEmpty then operation.indirectPhrase
    else operation.directPhrase) = phrase at h
  split at h
  · cases h
  · split at h
    · cases h
    next entity pawn htarget =>
      split at h
      · cases h
      next spoken hdialog =>
        cases h
        obtain ⟨key, _, hcompanion⟩ := Option.bind_eq_some_iff.mp htarget
        exact ⟨key, entity, pawn, hcompanion, hdialog⟩

namespace World.IsSound

variable {world : World}

theorem normal_of_companion? (h : world.IsSound) {key dialog : Key} {entity : Entity} {pawn : Pawn}
    (hcompanion : world.companion? key = some (entity, pawn))
    (hdialog : pawn.dialog = some dialog) : dialog.IsNormal := by
  unfold World.companion? at hcompanion
  split at hcompanion
  · cases hcompanion
  next found hget =>
    split at hcompanion
    · cases hcompanion
    next record hpawn =>
      split at hcompanion
      · obtain ⟨rfl, rfl⟩ := Prod.mk.inj (Option.some.inj hcompanion)
        refine (h.standard_of_get? hget).normal dialog ?_
        rw [Kind.eq_pawn_of_pawn? hpawn, Kind.namedKeys, hdialog]
        exact List.mem_cons_of_mem _ List.mem_cons_self
      · cases hcompanion

theorem normal_of_address (h : world.IsSound) {operation : Operation} {dialog : Key}
    (haddress : world.address operation = .dialog dialog) : dialog.IsNormal := by
  obtain ⟨key, entity, pawn, hcompanion, hdialog⟩ := exists_companion_of_address haddress
  exact h.normal_of_companion? hcompanion hdialog

end World.IsSound

end TextAdventure
