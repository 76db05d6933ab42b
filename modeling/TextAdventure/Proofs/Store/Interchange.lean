import Mathlib.Data.List.Nodup
import TextAdventure.Proofs.Attributes
import TextAdventure.Proofs.Save.RoundTrip
import TextAdventure.Proofs.Stage.FailedLoads
import TextAdventure.Proofs.Text.Lowering

/-!
# Slots and folders are interchangeable

Slots keep worlds by the names of their games, and a folder keeps the bytes of worlds in files that
are named for them.  A folder reflects slots as long as each slot has its file and no other file is
named for a game.  Requests keep it so and get the same answers, hence no player of saved games can
tell a folder that takes every file from slots.
-/

namespace TextAdventure

namespace Attributes

variable {α : Type}

theorem nodup_keys (table : Attributes α) : (table.entries.map Prod.fst).Nodup :=
  table.sorted.imp String.ne_of_lt

theorem mem_keys_iff {table : Attributes α} {key : String} :
    key ∈ table.entries.map Prod.fst ↔ (table.get? key).isSome = true := by
  rw [get?, Option.isSome_map, List.find?_isSome, List.mem_map]
  constructor
  · rintro ⟨entry, hentry, rfl⟩
    exact ⟨entry, hentry, decide_eq_true rfl⟩
  · rintro ⟨entry, hentry, hkey⟩
    exact ⟨entry, hentry, of_decide_eq_true hkey⟩

end Attributes

namespace Folder

/-! ## File names -/

theorem toList_fileName (slot : String) :
    (fileName slot).toList = slot.toList ++ ['.', 's', 'a', 'v'] := by
  rw [fileName, String.toList_append]
  rfl

theorem fileName_injective {left right : String} (h : fileName left = fileName right) :
    left = right :=
  (String.append_left_inj ".sav").mp h

theorem stem?_fileName {slot : String} (h : slot ≠ "") : stem? (fileName slot) = some slot := by
  have hchars : slot.toList.reverse ≠ [] := by simpa using h
  obtain ⟨first, rest, hreverse⟩ := List.exists_cons_of_ne_nil hchars
  have hfile : (fileName slot).toList.reverse = 'v' :: 'a' :: 's' :: '.' :: first :: rest := by
    rw [toList_fileName, List.reverse_append, hreverse]
    rfl
  have hstem : stem? (fileName slot) = some (String.ofList (first :: rest).reverse) := by
    rw [stem?, hfile]
    rfl
  rw [hstem, ← hreverse, List.reverse_reverse, String.ofList_toList]

theorem eq_fileName_of_stem? {file slot : String} (h : stem? file = some slot) :
    file = fileName slot ∧ slot ≠ "" := by
  unfold stem? at h
  split at h
  next first rest hreverse =>
    have hslot : slot.toList = (first :: rest).reverse := by
      rw [← Option.some.inj h, String.toList_ofList]
    constructor
    · rw [← String.toList_inj, toList_fileName, hslot, ← List.reverse_reverse file.toList, hreverse]
      simp
    · rintro rfl
      simp at hslot
  · cases h

/-! ## Names listed -/

/-- Each game is named by one file only. -/
theorem nodup_stems (place : Folder) :
    (place.opened.entries.filterMap fun entry => stem? entry.1).Nodup := by
  have hstems : place.opened.entries.filterMap (fun entry => stem? entry.1) =
      (place.opened.entries.map Prod.fst).filterMap stem? := by
    rw [List.filterMap_map]
    rfl
  rw [hstems]
  refine List.Nodup.filterMap ?_ place.opened.nodup_keys
  intro file other slot hfile hother
  obtain ⟨hfile, _⟩ := Folder.eq_fileName_of_stem? hfile
  obtain ⟨hother, _⟩ := Folder.eq_fileName_of_stem? hother
  rw [hfile, hother]

theorem mem_names_iff {place : Folder} {slot : String} :
    slot ∈ place.names ↔ ∃ entry ∈ place.opened.entries, stem? entry.1 = some slot := by
  rw [names, List.mem_mergeSort, List.mem_filterMap]

/-- The names in a folder are listed in order, each once. -/
theorem names_ascending (place : Folder) : place.names.Pairwise fun left right => left < right := by
  let sorted := fun left right : String => decide (left ≤ right)
  have hsorted : place.names.Pairwise fun left right => sorted left right = true := by
    refine List.pairwise_mergeSort ?_ ?_ _
    · intro first second third hfirst hsecond
      exact decide_eq_true (String.le_trans (of_decide_eq_true hfirst) (of_decide_eq_true hsecond))
    · intro left right
      simpa [sorted] using String.le_total left right
  have hnodup : place.names.Nodup :=
    (List.mergeSort_perm _ sorted).nodup_iff.mpr (nodup_stems place)
  refine (hsorted.and hnodup).imp ?_
  rintro left right ⟨hle, hne⟩
  rcases Decidable.em (left < right) with hlt | hge
  · exact hlt
  · exact absurd (String.le_antisymm (of_decide_eq_true hle) (String.not_lt.mp hge)) hne

end Folder

namespace Store

/-- A name that can be kept is not empty. -/
theorem saveName_ne_empty {name slot : String} (h : saveName name = .ok slot) : slot ≠ "" := by
  unfold saveName at h
  split at h
  · cases h
  next hsafe =>
    rw [← Except.ok.inj h]
    intro hempty
    have hlowered : (Text.lowerChars (Text.trim name).toList).isEmpty = true := by
      have hchars := congrArg String.toList hempty
      rw [Text.lower, String.toList_ofList] at hchars
      rw [hchars]
      rfl
    rw [Text.isEmpty_lowerChars] at hlowered
    rw [List.isEmpty_iff.mp hlowered] at hsafe
    exact hsafe rfl

/-! ## Reflections -/

/-- A folder that holds what slots hold: a file for each of them with the bytes of its world, and
no other file that is named for a game. -/
structure Reflects (saves : Slots) (place : Folder) : Prop where
  files : ∀ slot, slot ≠ "" → place.opened.get? (Folder.fileName slot) =
    (saves.saves.get? slot).map fun world => .file world.toBytes
  named : saves.saves.get? "" = none
  writable : ∀ slot world, saves.saves.get? slot = some world → world.pack.isWritable = true

variable {saves : Slots} {place : Folder}

/-- A folder without saved games reflects slots of which none is in use. -/
theorem reflects_empty (h : ∀ entry ∈ place.opened.entries, Folder.stem? entry.1 = none) :
    Reflects Slots.empty place := by
  refine ⟨?_, rfl, nofun⟩
  intro slot hslot
  have hnone : place.opened.get? (Folder.fileName slot) = none := by
    rw [← Option.not_isSome_iff_eq_none, ← Attributes.mem_keys_iff]
    intro hmem
    obtain ⟨entry, hentry, hfile⟩ := List.mem_map.mp hmem
    have hstem : Folder.stem? entry.1 = some slot :=
      hfile ▸ Folder.stem?_fileName hslot
    cases (h entry hentry).symm.trans hstem
  rw [hnone]
  rfl

theorem Reflects.insert (h : Reflects saves place) {slot : String} (hslot : slot ≠ "")
    {world : World} (hwritable : world.pack.isWritable = true) :
    Reflects ⟨saves.saves.insert slot world⟩
      ⟨some (place.opened.insert (Folder.fileName slot) (.file world.toBytes))⟩ := by
  constructor
  · intro other hother
    have hopened : (⟨some (place.opened.insert (Folder.fileName slot) (.file world.toBytes))⟩ :
        Folder).opened = place.opened.insert (Folder.fileName slot) (.file world.toBytes) := rfl
    rw [hopened]
    by_cases heq : other = slot
    · subst heq
      rw [Attributes.get?_insert_self, Attributes.get?_insert_self]
      rfl
    · have hfile : Folder.fileName other ≠ Folder.fileName slot :=
        fun hsame => heq (Folder.fileName_injective hsame)
      rw [Attributes.get?_insert_of_ne _ hfile, Attributes.get?_insert_of_ne _ heq,
        h.files other hother]
  · rw [Attributes.get?_insert_of_ne _ hslot.symm]
    exact h.named
  · intro other kept hkept
    by_cases heq : other = slot
    · subst heq
      rw [Attributes.get?_insert_self] at hkept
      cases hkept
      exact hwritable
    · rw [Attributes.get?_insert_of_ne _ heq] at hkept
      exact h.writable other kept hkept

/-! ## Names -/

theorem mem_names_iff (h : Reflects saves place) {slot : String} :
    slot ∈ place.opened.entries.filterMap (fun entry => Folder.stem? entry.1) ↔
      slot ∈ saves.names := by
  rw [Slots.names, Attributes.mem_keys_iff, List.mem_filterMap]
  constructor
  · rintro ⟨entry, hentry, hstem⟩
    obtain ⟨hfile, hslot⟩ := Folder.eq_fileName_of_stem? hstem
    have hmem : Folder.fileName slot ∈ place.opened.entries.map Prod.fst :=
      List.mem_map.mpr ⟨entry, hentry, hfile⟩
    rw [Attributes.mem_keys_iff, h.files slot hslot, Option.isSome_map] at hmem
    exact hmem
  · intro hkept
    have hslot : slot ≠ "" := by
      rintro rfl
      rw [h.named] at hkept
      cases hkept
    have hmem : Folder.fileName slot ∈ place.opened.entries.map Prod.fst := by
      rw [Attributes.mem_keys_iff, h.files slot hslot, Option.isSome_map]
      exact hkept
    obtain ⟨entry, hentry, hfile⟩ := List.mem_map.mp hmem
    exact ⟨entry, hentry, hfile ▸ Folder.stem?_fileName hslot⟩

theorem names_eq (h : Reflects saves place) : place.names = saves.names := by
  have hperm : List.Perm place.names saves.names := by
    refine (List.mergeSort_perm _ _).trans ?_
    refine (List.perm_ext_iff_of_nodup (Folder.nodup_stems place) saves.saves.nodup_keys).mpr ?_
    intro slot
    exact mem_names_iff h
  refine hperm.eq_of_pairwise ?_ (Folder.names_ascending place) saves.saves.sorted
  intro left right _ _ hlt hgt
  exact absurd hgt (String.lt_asymm hlt)

/-! ## Requests -/

/-- What is asked of a store: to save the world of a session or load one into it, under any name,
or to list the names. -/
inductive Request where
  | save (name : String) (session : Session)
  | load (name : String) (session : Session)
  | list

/-- What comes of a request: how it ended and the session after it, or the names. -/
inductive Answer where
  | session (result : Except Fault Unit) (after : Session)
  | names (names : List String)

namespace Request

/-- The answer to a request, and the store after it. -/
def answer (terminal : Terminal) (store : Store) : Request → Answer × Store
  | save name session =>
      let outcome := (Activity.saveTo name).perform ⟨session, terminal, store⟩
      (.session outcome.1 outcome.2.session, outcome.2.store)
  | load name session =>
      let outcome := (Activity.loadFrom name).perform ⟨session, terminal, store⟩
      (.session outcome.1 outcome.2.session, outcome.2.store)
  | list => (.names store.names, store)

/-- The answers to requests one after another. -/
def answers (terminal : Terminal) : Store → List Request → List Answer
  | _, [] => []
  | store, request :: rest =>
      (request.answer terminal store).1 :: answers terminal (request.answer terminal store).2 rest

/-- A folder takes the file of a game to be saved: its name is not too long, and its bytes can be
written. -/
structure Fits (name : String) (world : World) : Prop where
  short : ∀ slot ∈ (saveName name).toOption,
    (Folder.fileName slot).utf8ByteSize ≤ Folder.maxFileName
  writable : world.pack.isWritable = true

instance (name : String) (world : World) : Decidable (Fits name world) :=
  decidable_of_decidable_of_iff
    (p := (∀ slot ∈ (saveName name).toOption,
      (Folder.fileName slot).utf8ByteSize ≤ Folder.maxFileName) ∧ world.pack.isWritable = true)
    ⟨fun h => ⟨h.1, h.2⟩, fun h => ⟨h.short, h.writable⟩⟩

/-- All that is asked to be saved fits. -/
def IsFitting : Request → Prop
  | save name session => Fits name session.world
  | _ => True

instance (request : Request) : Decidable request.IsFitting :=
  match request with
  | save name session => inferInstanceAs (Decidable (Fits name session.world))
  | load _ _ => inferInstanceAs (Decidable True)
  | list => inferInstanceAs (Decidable True)

end Request

open Request

theorem save_unsafeName {name : String} (h : isUnsafeName (Text.trim name).toList = true)
    (store : Store) (world : World) :
    store.save name world = (.error (Fault.ofCause (.invalidSaveName name)), store) := by
  have hname : saveName name = .error (Fault.ofCause (.invalidSaveName name)) := if_pos h
  cases store with
  | slots saves =>
      have hsave : saves.save name world = .error (Fault.ofCause (.invalidSaveName name)) := by
        rw [Slots.save, hname]
        rfl
      rw [save, hsave]
  | folder place =>
      have hpath : Folder.pathFor name = .error (Fault.ofCause (.invalidSaveName name)) := by
        rw [Folder.pathFor, hname]
        rfl
      rw [save, Folder.save, hpath]

theorem load_unsafeName {name : String} (h : isUnsafeName (Text.trim name).toList = true)
    (store : Store) : store.load name = .error (Fault.ofCause (.invalidSaveName name)) := by
  have hname : saveName name = .error (Fault.ofCause (.invalidSaveName name)) := if_pos h
  cases store with
  | slots saves =>
      rw [load, Slots.load, hname]
      rfl
  | folder place =>
      rw [load, Folder.load, Folder.pathFor, hname]
      rfl

/-- A world that fits is saved in the slots and in the folder, which still reflects them. -/
theorem exists_save (h : Reflects saves place) (name : String) {world : World}
    (hfits : Fits name world) :
    ∃ result savesAfter placeAfter,
      (Store.slots saves).save name world = (result, .slots savesAfter) ∧
      (Store.folder place).save name world = (result, .folder placeAfter) ∧
      Reflects savesAfter placeAfter := by
  rcases saveName_cases name with ⟨slot, hname⟩ | hunsafe
  · have hslot := saveName_ne_empty hname
    have hslots : saves.save name world = .ok ⟨saves.saves.insert slot world⟩ := by
      rw [Slots.save, hname]
      rfl
    have hpath : Folder.pathFor name = .ok (Folder.fileName slot) := by
      rw [Folder.pathFor, hname]
      rfl
    have hfile : place.opened.get? (Folder.fileName slot) ≠ some .folder := by
      rw [h.files slot hslot]
      simp
    have hwrite : Folder.writeFile place.opened (Folder.fileName slot) world =
        .ok (place.opened.insert (Folder.fileName slot) (.file world.toBytes)) := by
      unfold Folder.writeFile
      split
      next hfolder => exact absurd hfolder hfile
      · exact if_neg (Nat.not_lt.mpr (hfits.short slot (by rw [hname]; rfl)))
    refine ⟨.ok (), _, _, ?_, ?_, h.insert hslot hfits.writable⟩
    · rw [save, hslots]
    · simp only [save, Folder.save, hpath, hwrite]
  · exact ⟨_, saves, place, save_unsafeName hunsafe _ _, save_unsafeName hunsafe _ _, h⟩

/-- What is loaded from the folder has been judged before it gets to the session, and what is
loaded from the slots is judged there. -/
theorem restore_load_eq (h : Reflects saves place) (name : String) (session : Session) :
    ((Store.folder place).load name >>= session.restore) =
      ((Store.slots saves).load name >>= session.restore) := by
  rcases saveName_cases name with ⟨slot, hname⟩ | hunsafe
  · rw [load_slots hname, load_folder hname, h.files slot (saveName_ne_empty hname)]
    cases hkept : saves.saves.get? slot with
    | none => rfl
    | some world =>
        have hbytes := World.ofBytes_toBytes (h.writable slot world hkept) []
        rw [List.append_nil] at hbytes
        rw [Option.map_some]
        dsimp only
        rw [hbytes]
        have hslots : (Except.ok world >>= session.restore : Except Fault Session) =
            session.restore world := rfl
        rw [hslots]
        cases hcheck : world.check with
        | error fault =>
            rw [Session.restore_of_check hcheck]
            simp only [Except.bind, hcheck]
            rfl
        | ok value =>
            simp only [Except.bind, hcheck]
            rfl
  · rw [load_unsafeName hunsafe, load_unsafeName hunsafe]

theorem perform_loadFrom (name : String) (stage : Stage) :
    (Activity.loadFrom name).perform stage =
      match stage.store.load name >>= stage.session.restore with
      | .error fault => (.error fault, stage)
      | .ok session => (.ok (), { stage with session := session }) := by
  simp only [Activity.perform, Activity.loadFrom, Activity.ofStep, ExceptT.mk, ExceptT.run,
    StateT.run]
  cases stage.store.load name with
  | error fault => rfl
  | ok world => cases stage.session.restore world <;> rfl

/-- One request: slots and a folder that reflects them give the same answer, and go on so. -/
theorem exists_answer (h : Reflects saves place) (terminal : Terminal) {request : Request}
    (hfits : request.IsFitting) :
    ∃ answer savesAfter placeAfter,
      request.answer terminal (.slots saves) = (answer, .slots savesAfter) ∧
      request.answer terminal (.folder place) = (answer, .folder placeAfter) ∧
      Reflects savesAfter placeAfter := by
  cases request with
  | save name session =>
      obtain ⟨result, savesAfter, placeAfter, hslots, hfolder, hafter⟩ := exists_save h name hfits
      refine ⟨.session result session, savesAfter, placeAfter, ?_, ?_, hafter⟩
      · simp only [answer, Activity.perform, Activity.saveTo, Activity.ofStep, ExceptT.mk,
          ExceptT.run, StateT.run, hslots]
      · simp only [answer, Activity.perform, Activity.saveTo, Activity.ofStep, ExceptT.mk,
          ExceptT.run, StateT.run, hfolder]
  | load name session =>
      have heq := restore_load_eq h name session
      simp only [answer, perform_loadFrom, heq]
      cases (Store.slots saves).load name >>= session.restore with
      | error fault => exact ⟨_, saves, place, rfl, rfl, h⟩
      | ok restored => exact ⟨_, saves, place, rfl, rfl, h⟩
  | list =>
      refine ⟨.names saves.names, saves, place, rfl, ?_, h⟩
      rw [answer, names, names_eq h]

theorem answers_reflected (h : Reflects saves place) (terminal : Terminal)
    {requests : List Request} (hfits : ∀ request ∈ requests, request.IsFitting) :
    answers terminal (.folder place) requests = answers terminal (.slots saves) requests := by
  induction requests generalizing saves place with
  | nil => rfl
  | cons request rest ih =>
      obtain ⟨hrequest, hrest⟩ := List.forall_mem_cons.mp hfits
      obtain ⟨answer, savesAfter, placeAfter, hslots, hfolder, hafter⟩ :=
        exists_answer h terminal hrequest
      rw [answers, answers, hslots, hfolder, ih hafter hrest]

/-- A folder in which no file is named for a game, and which takes all that is saved, answers every
sequence of requests as empty slots do: with the same faults, the same sessions and the same lists
of names. -/
theorem answers_folder_eq_slots {place : Folder}
    (hempty : ∀ entry ∈ place.opened.entries, Folder.stem? entry.1 = none) (terminal : Terminal)
    {requests : List Request} (hfits : ∀ request ∈ requests, request.IsFitting) :
    answers terminal (.folder place) requests =
      answers terminal (.slots Slots.empty) requests :=
  answers_reflected (reflects_empty hempty) terminal hfits

/-! ## A folder with other files in it -/

def deskDrawer : Folder where
  contents := some (Attributes.ofList
    [(".sav", .file []), ("notes.txt", .file [0xC1]), ("old.sav.bak", .folder)])

/-- A game in the cellar is saved and loaded, and so is one that nobody can play. -/
def sitting : List Request :=
  [ .save " Slot1 " { Session.fresh with world := World.cellar },
    .save "../cellar" { Session.fresh with world := World.cellar },
    .save "Nobody" Session.fresh,
    .list,
    .load "SLOT1" Session.fresh,
    .load "nobody" { Session.fresh with world := World.cellar },
    .load "Somebody" Session.fresh ]

theorem answers_folder_eq_slots_sitting :
    (∀ entry ∈ deskDrawer.opened.entries, Folder.stem? entry.1 = none) ∧
      (∀ request ∈ sitting, request.IsFitting) ∧
      answers (.scripted (Script.ofLines [])) (.folder deskDrawer) sitting =
        answers (.scripted (Script.ofLines [])) (.slots Slots.empty) sitting := by
  have hempty : ∀ entry ∈ deskDrawer.opened.entries, Folder.stem? entry.1 = none := by
    decide +kernel
  have hfits : ∀ request ∈ sitting, request.IsFitting := by decide +kernel
  exact ⟨hempty, hfits, answers_folder_eq_slots hempty _ hfits⟩

end Store

end TextAdventure
