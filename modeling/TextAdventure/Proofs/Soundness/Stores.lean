import TextAdventure.Proofs.Attributes
import TextAdventure.Proofs.Save.RoundTrip
import TextAdventure.Store

/-!
# Snapshots in a store

What a store holds are the worlds in its slots, or the worlds that the files of its folder
read as.  A store whose snapshots all have a property gives only such worlds back, and goes
on to hold only such worlds when another one is saved.
-/

namespace TextAdventure

namespace FolderEntry

/-- The world that an entry of a folder reads as. -/
def world? : FolderEntry → Option World
  | file bytes => (World.ofBytes bytes).toOption
  | folder => none

def ReadsOnly (P : World → Prop) (entry : FolderEntry) : Prop :=
  ∀ world ∈ entry.world?, P world

theorem readsOnly_toBytes {P : World → Prop} {world : World} (h : P world)
    (hwritable : world.pack.isWritable = true) : (file world.toBytes).ReadsOnly P := by
  have hread := World.read_toBytes hwritable []
  rw [List.append_nil] at hread
  have hbytes : World.ofBytes world.toBytes = .ok world := by
    simp only [World.ofBytes, hread, World.unpack?_pack]
  intro saved hsaved
  rw [world?, hbytes] at hsaved
  cases hsaved
  exact h

end FolderEntry

namespace Store

variable {P : World → Prop}

/-- All snapshots of a store have a property. -/
def HoldsOnly (P : World → Prop) : Store → Prop
  | slots saves => saves.saves.All P
  | folder place => place.opened.All (FolderEntry.ReadsOnly P)

/-- Slots keep every world.  A folder keeps bytes, in which counts of parts are written with
32 bits at most. -/
def CanKeep (world : World) : Store → Prop
  | slots _ => True
  | folder _ => world.pack.isWritable = true

instance (world : World) (store : Store) : Decidable (store.CanKeep world) :=
  match store with
  | slots _ => inferInstanceAs (Decidable True)
  | folder _ => inferInstanceAs (Decidable (world.pack.isWritable = true))

theorem all_load_slots {saves : Slots} (h : saves.saves.All P) {name : String}
    {world : World} (hload : saves.load name = .ok world) : P world := by
  unfold Slots.load at hload
  cases hname : saveName name with
  | error fault =>
      rw [hname] at hload
      cases hload
  | ok key =>
      rw [hname] at hload
      simp only [bind, Except.bind] at hload
      split at hload
      · cases hload
      next saved hget =>
        cases hload
        exact h.of_get? hget

theorem all_load_folder {place : Folder} (h : place.opened.All (FolderEntry.ReadsOnly P))
    {name : String} {world : World} (hload : place.load name = .ok world) : P world := by
  unfold Folder.load at hload
  cases hfile : Folder.pathFor name with
  | error fault =>
      rw [hfile] at hload
      cases hload
  | ok file =>
      rw [hfile] at hload
      simp only [bind, Except.bind] at hload
      split at hload
      · cases hload
      · cases hload
      next bytes hget =>
        split at hload
        · cases hload
        next saved hread =>
          split at hload
          · cases hload
          · cases hload
            exact h.of_get? hget world (by rw [FolderEntry.world?, hread]; rfl)

theorem HoldsOnly.load {store : Store} (h : store.HoldsOnly P) {name : String} {world : World}
    (hload : store.load name = .ok world) : P world := by
  cases store with
  | slots saves => exact all_load_slots h hload
  | folder place => exact all_load_folder h hload

theorem all_save_slots {saves after : Slots} (h : saves.saves.All P) {name : String}
    {world : World} (hworld : P world) (hsave : saves.save name world = .ok after) :
    after.saves.All P := by
  unfold Slots.save at hsave
  cases hname : saveName name with
  | error fault =>
      rw [hname] at hsave
      cases hsave
  | ok key =>
      rw [hname] at hsave
      cases hsave
      exact h.insert key hworld

theorem all_save_folder {place : Folder} (h : place.opened.All (FolderEntry.ReadsOnly P))
    (name : String) {world : World} (hworld : P world) (hwritable : world.pack.isWritable = true) :
    (place.save name world).2.opened.All (FolderEntry.ReadsOnly P) := by
  unfold Folder.save
  split
  · exact h
  next file _ =>
    split
    · exact h
    next contents hwrite =>
      have hcontents : contents = place.opened.insert file (.file world.toBytes) := by
        unfold Folder.writeFile at hwrite
        split at hwrite
        · cases hwrite
        · split at hwrite
          · cases hwrite
          · cases hwrite
            rfl
      rw [hcontents]
      exact h.insert file (FolderEntry.readsOnly_toBytes hworld hwritable)

theorem HoldsOnly.save {store : Store} (h : store.HoldsOnly P) (name : String) {world : World}
    (hworld : P world) (hkeep : store.CanKeep world) : (store.save name world).2.HoldsOnly P := by
  cases store with
  | slots saves =>
      unfold Store.save
      dsimp only
      split
      · exact h
      next after hsave => exact all_save_slots h hworld hsave
  | folder place =>
      have hafter : (place.save name world).2.opened.All (FolderEntry.ReadsOnly P) :=
        all_save_folder h name hworld hkeep
      rw [Store.save]
      -- What has been written is of no more interest, and large.
      generalize place.save name world = outcome at hafter ⊢
      exact hafter

end Store

end TextAdventure
