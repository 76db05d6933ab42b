import TextAdventure.Proofs.Store.Pathnames
import TextAdventure.Proofs.Text.Normalized

/-!
# Save names and their files

What a file name cannot have is a mark, and lower-casing neither brings a mark in nor loses one.
So a name that is screened as it was typed is as safe in its normal form, from which its file gets
its name.  The file lies in the folder itself, and its path tells the normal form again.
-/

namespace TextAdventure

namespace Store

/-! ## Normal forms of save names -/

theorem isMark_of_isUnsafeChar {c : Char} (h : isUnsafeChar c = true) : Text.isMark c = true := by
  simp only [isUnsafeChar, Bool.or_eq_true, beq_iff_eq] at h
  rcases h with ((rfl | rfl) | rfl) | rfl <;> decide

theorem isUnsafeName_lowerChars (cs : List Char) :
    isUnsafeName (Text.lowerChars cs) = isUnsafeName cs := by
  cases cs with
  | nil => rfl
  | cons first rest =>
      have hany : (Text.lowerChars (first :: rest)).any isUnsafeChar =
          (first :: rest).any isUnsafeChar :=
        Text.any_lowerAfter (fun _ => isMark_of_isUnsafeChar) [] (first :: rest)
      have hne : Text.lowerChars (first :: rest) ≠ [] := by
        rw [← List.isEmpty_eq_false_iff, Text.isEmpty_lowerChars]
        rfl
      obtain ⟨lowered, others, hlowered⟩ := List.exists_cons_of_ne_nil hne
      have hdot : (lowered == '.') = (first == '.') := by
        have hmark : ∀ c : Char, (c == '.') = true → Text.isMark c = true := by
          intro c hc
          rw [eq_of_beq hc]
          rfl
        have hmem : lowered ∈ (Text.lowerAfter [] (first :: rest)).head? := by
          rw [← Text.lowerChars, hlowered]
          rfl
        obtain ⟨c, hc, heq⟩ := Text.exists_head?_of_lowerAfter hmark hmem
        rw [heq, Option.some.inj hc]
      rw [hlowered] at hany ⊢
      rw [isUnsafeName, isUnsafeName, hdot, hany]

variable {name slot : String}

theorem saveName_eq_ok_iff : saveName name = .ok slot ↔
    isUnsafeName (Text.trim name).toList = false ∧ Text.normalize name = slot := by
  rw [saveName, ← Text.normalize]
  split
  next hrefused => simp [hrefused]
  next haccepted => simp [haccepted]

theorem isUnsafeName_of_saveName (h : saveName name = .ok slot) :
    isUnsafeName slot.toList = false := by
  obtain ⟨hsafe, rfl⟩ := saveName_eq_ok_iff.mp h
  rw [Text.normalize, Text.lower, String.toList_ofList, isUnsafeName_lowerChars, hsafe]

/-- A name that has been kept is kept as it is. -/
theorem saveName_of_saveName (h : saveName name = .ok slot) : saveName slot = .ok slot := by
  obtain ⟨-, rfl⟩ := saveName_eq_ok_iff.mp h
  refine saveName_eq_ok_iff.mpr ⟨?_, Text.normalize_normalize name⟩
  rw [Text.trim_normalize, isUnsafeName_of_saveName h]

theorem isUnsafeChar_of_mem (h : isUnsafeName slot.toList = false) :
    ∀ c ∈ slot.toList, isUnsafeChar c = false := by
  intro c hc
  cases hchars : slot.toList with
  | nil =>
      rw [hchars] at hc
      cases hc
  | cons first rest =>
      rw [hchars] at h hc
      rw [isUnsafeName, Bool.or_eq_false_iff] at h
      exact Bool.eq_false_iff.mpr (List.any_eq_false.mp h.2 c hc)

end Store

/-! ## Names of files -/

namespace Pathname

/-- Zero, the slashes and the colon. -/
def reserved : List UInt8 :=
  [0x00, 0x2F, 0x3A, 0x5C]

theorem exists_unsafe_of_reserved {byte : UInt8} (h : byte ∈ reserved) :
    ∃ c, Store.isUnsafeChar c = true ∧ byte.toNat = c.toNat ∧ c.toNat < 0x80 := by
  simp only [reserved, List.mem_cons, List.not_mem_nil, or_false] at h
  rcases h with rfl | rfl | rfl | rfl
  · exact ⟨'\x00', by decide⟩
  · exact ⟨'/', by decide⟩
  · exact ⟨':', by decide⟩
  · exact ⟨'\\', by decide⟩

end Pathname

namespace Folder

open Pathname Store

variable {directory path : Pathname} {name file slot : String}

theorem extension_eq : extension = [0x73, 0x61, 0x76] := by
  rw [extension, toList_toUTF8]
  decide

theorem dot_not_mem_extension : dot ∉ extension := by
  rw [extension_eq]
  decide

theorem bytes_fileName (slot : String) :
    (ofText (fileName slot)).bytes = slot.toUTF8.toList ++ dot :: extension := by
  have hending : ".sav".toUTF8.toList = dot :: extension := by
    rw [extension_eq, toList_toUTF8]
    decide
  rw [ofText, fileName, toList_toUTF8_append, hending]

theorem ofText_fileName (slot : String) :
    ofText (fileName slot) = ⟨slot.toUTF8.toList ++ dot :: extension⟩ :=
  congrArg Pathname.mk (bytes_fileName slot)

theorem not_reserved_of_mem_fileName (h : isUnsafeName slot.toList = false) :
    ∀ byte ∈ (ofText (fileName slot)).bytes, byte ∉ reserved := by
  intro byte hbyte hreserved
  obtain ⟨c, hunsafe, hcode, hascii⟩ := exists_unsafe_of_reserved hreserved
  have hmem := mem_toList_of_mem_toUTF8 hbyte hcode hascii
  rw [toList_fileName, List.mem_append] at hmem
  rcases hmem with hslot | hending
  · rw [isUnsafeChar_of_mem h c hslot] at hunsafe
    cases hunsafe
  · have hsafe : ['.', 's', 'a', 'v'].any isUnsafeChar = false := by decide
    exact List.any_eq_false.mp hsafe c hending hunsafe

theorem isEntryName_fileName (h : isUnsafeName slot.toList = false) :
    IsEntryName (ofText (fileName slot)).bytes := by
  have hlength : 2 < (ofText (fileName slot)).bytes.length := by
    rw [bytes_fileName, extension_eq, List.length_append]
    simp
  constructor
  · intro hnil
    simp [hnil] at hlength
  · exact fun hmem => not_reserved_of_mem_fileName h _ hmem (by decide)
  · intro hdot
    simp [hdot] at hlength
  · intro hdots
    simp [hdots] at hlength

theorem toUTF8_ne_nil (h : slot ≠ "") : slot.toUTF8.toList ≠ [] := by
  intro hnil
  refine h (Save.toUTF8_inj (hnil.trans ?_))
  rw [toList_toUTF8]
  rfl

/-- The name of a file gives the extension and the name of the game back, in any folder. -/
theorem extension?_stem?_join (directory : Pathname)
    (hentry : IsEntryName (ofText (fileName slot)).bytes) (hslot : slot ≠ "") :
    (directory.join (ofText (fileName slot))).extension? = some extension ∧
      (directory.join (ofText (fileName slot))).stem? = some slot.toUTF8.toList := by
  rw [bytes_fileName] at hentry
  rw [ofText_fileName]
  exact ⟨extension?_join directory hentry (toUTF8_ne_nil hslot) dot_not_mem_extension,
    stem?_join directory hentry (toUTF8_ne_nil hslot) dot_not_mem_extension⟩

/-! ## Paths of saved games -/

/-- Whether a path leads to the file of a game: one directly in the folder, under a name that can
be used everywhere, with the extension of saved games, and with the name of the game as stem. -/
structure IsSaveFile (directory : Pathname) (slot : String) (path : Pathname) : Prop where
  inside : ∃ file, path.parts = directory.parts ++ [.name file] ∧ path.fileName? = some file ∧
    IsEntryName file ∧ ∀ byte ∈ file, byte ∉ reserved
  extension : path.extension? = some extension
  stem : path.stem? = some slot.toUTF8.toList

theorem isSaveFile_join (directory : Pathname) (h : saveName name = .ok slot) :
    IsSaveFile directory slot (directory.join (ofText (fileName slot))) := by
  have hsafe := isUnsafeName_of_saveName h
  have hentry := isEntryName_fileName hsafe
  have hinside := parts_join directory hentry
  have hfile := fileName?_join directory hentry
  obtain ⟨hextension, hstem⟩ := extension?_stem?_join directory hentry (saveName_ne_empty h)
  exact ⟨⟨_, hinside, hfile, hentry, not_reserved_of_mem_fileName hsafe⟩, hextension, hstem⟩

theorem pathFor_eq_ok_iff :
    pathFor name = .ok file ↔ ∃ slot, saveName name = .ok slot ∧ fileName slot = file := by
  cases hname : saveName name with
  | error fault => simp [pathFor, hname, bind, Except.bind]
  | ok slot => simp [pathFor, hname, bind, Except.bind, pure, Except.pure]

theorem pathIn_eq_ok_iff : pathIn directory name = .ok path ↔
    ∃ slot, saveName name = .ok slot ∧ directory.join (ofText (fileName slot)) = path := by
  cases hname : saveName name with
  | error fault => simp [pathIn, pathFor, hname, bind, Except.bind]
  | ok slot => simp [pathIn, pathFor, hname, bind, Except.bind, pure, Except.pure]

theorem isSaveFile_of_pathIn (h : pathIn directory name = .ok path) :
    IsSaveFile directory (Text.normalize name) path := by
  obtain ⟨slot, hname, rfl⟩ := pathIn_eq_ok_iff.mp h
  rw [(saveName_eq_ok_iff.mp hname).2]
  exact isSaveFile_join directory hname

theorem stem?_congr {left right : Pathname} (h : left.parts = right.parts) :
    left.stem? = right.stem? := by
  rw [Pathname.stem?, Pathname.stem?, Pathname.fileName?, Pathname.fileName?, h]

variable {left right : String} {leftPath rightPath : Pathname}

theorem eq_of_normalize (hleft : pathIn directory left = .ok leftPath)
    (hright : pathIn directory right = .ok rightPath)
    (h : Text.normalize left = Text.normalize right) : leftPath = rightPath := by
  obtain ⟨slot, hname, rfl⟩ := pathIn_eq_ok_iff.mp hleft
  obtain ⟨other, hother, rfl⟩ := pathIn_eq_ok_iff.mp hright
  rw [← (saveName_eq_ok_iff.mp hname).2, ← (saveName_eq_ok_iff.mp hother).2, h]

/-- Two names are kept in the same file exactly if they have the same normal form. -/
theorem parts_eq_iff (hleft : pathIn directory left = .ok leftPath)
    (hright : pathIn directory right = .ok rightPath) :
    leftPath.parts = rightPath.parts ↔ Text.normalize left = Text.normalize right := by
  constructor
  · intro hparts
    have hstem := stem?_congr hparts
    rw [(isSaveFile_of_pathIn hleft).stem, (isSaveFile_of_pathIn hright).stem] at hstem
    exact Save.toUTF8_inj (Option.some.inj hstem)
  · intro hnormal
    rw [eq_of_normalize hleft hright hnormal]

/-! ## Names told from paths -/

theorem toUTF8_of_fromUTF8? {bytes : List UInt8} {text : String}
    (h : String.fromUTF8? ⟨bytes.toArray⟩ = some text) : text.toUTF8.toList = bytes := by
  unfold String.fromUTF8? at h
  split at h
  · rw [← Option.some.inj h, Save.toList_eq]
    rfl
  · cases h

theorem stem?_eq_some_iff : stem? file = some slot ↔ file = fileName slot ∧ slot ≠ "" := by
  constructor
  · exact eq_fileName_of_stem?
  · rintro ⟨rfl, hslot⟩
    exact stem?_fileName hslot

theorem slotAt?_eq_some_iff : slotAt? path = some slot ↔
    path.extension? = some extension ∧ ∃ stem, path.stem? = some stem ∧
      String.fromUTF8? ⟨stem.toArray⟩ = some slot := by
  rw [slotAt?, Option.ite_none_right_eq_some, Option.bind_eq_bind, Option.bind_eq_some_iff]

/-- An entry of a folder is listed, under its path, for what its own name tells. -/
theorem slotAt?_join (directory : Pathname) (h : IsEntryName (ofText file).bytes) :
    slotAt? (directory.join (ofText file)) = stem? file := by
  refine Option.ext fun slot => ?_
  rw [slotAt?_eq_some_iff, stem?_eq_some_iff]
  constructor
  · rintro ⟨hextension, stem, hstem, hslot⟩
    obtain ⟨hbytes, hne⟩ := eq_append_of_extension? (fileName?_join directory h) hextension hstem
    rw [← toUTF8_of_fromUTF8? hslot] at hbytes hne
    refine ⟨Save.toUTF8_inj (hbytes.trans (bytes_fileName slot).symm), ?_⟩
    rintro rfl
    exact hne (toList_toUTF8 "")
  · rintro ⟨rfl, hslot⟩
    obtain ⟨hextension, hstem⟩ := extension?_stem?_join directory h hslot
    exact ⟨hextension, _, hstem, Save.fromUTF8?_toUTF8 slot⟩

theorem slotsIn_eq_names (directory : Pathname) {place : Folder}
    (h : ∀ entry ∈ place.opened.entries, IsEntryName (ofText entry.1).bytes) :
    slotsIn directory place = place.names := by
  have hslots : ∀ entry ∈ place.opened.entries,
      slotAt? (directory.join (ofText entry.1)) = stem? entry.1 :=
    fun entry hentry => slotAt?_join directory (h entry hentry)
  rw [slotsIn, names, List.filterMap_congr hslots]

/-! ## Folders of saved games -/

theorem isEntryName_of_pathFor (h : pathFor name = .ok file) :
    IsEntryName (ofText file).bytes := by
  obtain ⟨slot, hname, rfl⟩ := pathFor_eq_ok_iff.mp h
  exact isEntryName_fileName (isUnsafeName_of_saveName hname)

theorem stem?_of_pathFor (h : pathFor name = .ok file) :
    stem? file = some (Text.normalize name) := by
  obtain ⟨slot, hname, rfl⟩ := pathFor_eq_ok_iff.mp h
  rw [stem?_fileName (saveName_ne_empty hname), (saveName_eq_ok_iff.mp hname).2]

/-- Whether all that is in a folder has the name of the file of a saved game. -/
def HasSavesOnly (place : Folder) : Prop :=
  ∀ entry ∈ place.opened.entries, ∃ name, pathFor name = .ok entry.1

variable {place : Folder}

theorem HasSavesOnly.isEntryName (h : HasSavesOnly place) :
    ∀ entry ∈ place.opened.entries, IsEntryName (ofText entry.1).bytes := by
  intro entry hentry
  obtain ⟨name, hname⟩ := h entry hentry
  exact isEntryName_of_pathFor hname

theorem HasSavesOnly.mem_names_iff (h : HasSavesOnly place) :
    slot ∈ place.names ↔ ∃ name, ∃ entry ∈ place.opened.entries,
      pathFor name = .ok entry.1 ∧ Text.normalize name = slot := by
  rw [Folder.mem_names_iff]
  constructor
  · rintro ⟨entry, hentry, hstem⟩
    obtain ⟨name, hname⟩ := h entry hentry
    rw [stem?_of_pathFor hname] at hstem
    exact ⟨name, entry, hentry, hname, Option.some.inj hstem⟩
  · rintro ⟨name, entry, hentry, hname, rfl⟩
    exact ⟨entry, hentry, stem?_of_pathFor hname⟩

/-- Names of saved games and their files, in any folder.  The file of a name that is accepted lies
in the folder itself, under a name that can be used everywhere, with the extension of saved games
and the normal form of the name as its stem.  Two names have one file, by the parts of its path or
byte by byte, exactly if they have the same normal form.  The normal form is accepted again and
stays as it is.  A folder of such files is listed as the normal forms of their names, in order and
each once. -/
theorem pathIn_reversible (directory : Pathname) :
    (∀ name path, pathIn directory name = .ok path →
      IsSaveFile directory (Text.normalize name) path) ∧
    (∀ left right leftPath rightPath, pathIn directory left = .ok leftPath →
      pathIn directory right = .ok rightPath →
      (leftPath.parts = rightPath.parts ↔ Text.normalize left = Text.normalize right) ∧
      (leftPath = rightPath ↔ Text.normalize left = Text.normalize right)) ∧
    (∀ name path, pathIn directory name = .ok path →
      saveName name = .ok (Text.normalize name) ∧
      saveName (Text.normalize name) = .ok (Text.normalize name) ∧
      pathIn directory (Text.normalize name) = .ok path) ∧
    (∀ place, HasSavesOnly place →
      slotsIn directory place = place.names ∧
      place.names.Pairwise (fun left right => left < right) ∧
      ∀ slot, slot ∈ place.names ↔ ∃ name, ∃ entry ∈ place.opened.entries,
        pathFor name = .ok entry.1 ∧ Text.normalize name = slot) := by
  refine ⟨fun name path => isSaveFile_of_pathIn, ?_, ?_, ?_⟩
  · intro left right leftPath rightPath hleft hright
    have hparts := parts_eq_iff hleft hright
    refine ⟨hparts, fun hsame => hparts.mp (congrArg Pathname.parts hsame), ?_⟩
    exact eq_of_normalize hleft hright
  · intro name path hpath
    obtain ⟨slot, hname, hjoin⟩ := pathIn_eq_ok_iff.mp hpath
    have hagain := saveName_of_saveName hname
    obtain ⟨-, rfl⟩ := saveName_eq_ok_iff.mp hname
    exact ⟨hname, hagain, pathIn_eq_ok_iff.mpr ⟨_, hagain, hjoin⟩⟩
  · intro place hplace
    exact ⟨slotsIn_eq_names directory hplace.isEntryName, names_ascending place,
      fun slot => hplace.mem_names_iff⟩

example : pathIn (.ofText "../") " Slot.ΟΣ " = .ok (.ofText "../slot.ος.sav") := by
  decide +kernel

end Folder

end TextAdventure
