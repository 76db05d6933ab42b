import Mathlib.Data.List.Basic
import TextAdventure.Proofs.Save.Records
import TextAdventure.Proofs.Store.Interchange
import TextAdventure.Store.Pathname

/-!
# Files in a folder

An entry of a folder has a name that no separator parts and that is not one of the dots.  Its path
leads to the folder and from there to the entry, and gives its name back, together with the stem
and the extension on the two sides of the last dot.
-/

namespace TextAdventure

namespace Pathname

/-! ## Texts as bytes -/

theorem toList_toUTF8 (text : String) :
    text.toUTF8.toList = text.toList.flatMap String.utf8EncodeChar := by
  rw [Save.toList_eq, String.toUTF8, ← String.utf8Encode_toList, List.utf8Encode,
    List.toList_data_toByteArray]

theorem toList_toUTF8_append (left right : String) :
    (left ++ right).toUTF8.toList = left.toUTF8.toList ++ right.toUTF8.toList := by
  rw [toList_toUTF8, toList_toUTF8, toList_toUTF8, String.toList_append, List.flatMap_append]

/-- All bytes of a character are beyond the codes of ASCII unless the character is one of those. -/
theorem mem_utf8EncodeChar {c : Char} {byte : UInt8} (h : byte ∈ String.utf8EncodeChar c) :
    byte.toNat = c.toNat ∨ 0x80 ≤ byte.toNat := by
  have hcode : c.val.toNat = c.toNat := rfl
  unfold String.utf8EncodeChar at h
  simp only [hcode] at h
  split at h
  next hascii =>
    rw [List.mem_singleton.mp h]
    refine Or.inl ?_
    rw [UInt8.toNat_ofNat']
    omega
  next =>
    refine Or.inr ?_
    split at h
    · simp only [List.mem_cons, List.not_mem_nil, or_false] at h
      rcases h with rfl | rfl <;> rw [UInt8.toNat_ofNat'] <;> omega
    · split at h
      · simp only [List.mem_cons, List.not_mem_nil, or_false] at h
        rcases h with rfl | rfl | rfl <;> rw [UInt8.toNat_ofNat'] <;> omega
      · simp only [List.mem_cons, List.not_mem_nil, or_false] at h
        rcases h with rfl | rfl | rfl | rfl <;> rw [UInt8.toNat_ofNat'] <;> omega

/-- A byte of ASCII in a text is a character of it. -/
theorem mem_toList_of_mem_toUTF8 {text : String} {byte : UInt8} {c : Char}
    (h : byte ∈ text.toUTF8.toList) (hcode : byte.toNat = c.toNat) (hascii : c.toNat < 0x80) :
    c ∈ text.toList := by
  rw [toList_toUTF8] at h
  obtain ⟨d, hd, hbyte⟩ := List.mem_flatMap.mp h
  rcases mem_utf8EncodeChar hbyte with hsame | hbeyond
  · have hchar : d = c := Char.toNat_inj.mp (hsame.symm.trans hcode)
    exact hchar ▸ hd
  · omega

/-! ## Entries -/

/-- A name that an entry of a folder may have. -/
structure IsEntryName (name : List UInt8) : Prop where
  nonempty : name ≠ []
  unparted : separator ∉ name
  not_here : name ≠ [dot]
  not_up : name ≠ [dot, dot]

variable {directory : Pathname} {name : List UInt8}

theorem IsEntryName.pieces_eq (h : IsEntryName name) : (Pathname.mk name).pieces = [name] :=
  List.splitOn_eq_singleton h.unparted

theorem IsEntryName.part?_eq (h : IsEntryName name) : part? name = some (.name name) := by
  rw [part?, if_neg (not_or.mpr ⟨h.nonempty, h.not_here⟩), if_neg h.not_up]

theorem IsEntryName.head?_ne (h : IsEntryName name) : name.head? ≠ some separator :=
  fun hhead => h.unparted (List.mem_of_mem_head? hhead)

theorem IsEntryName.isAbsolute_eq (h : IsEntryName name) : (Pathname.mk name).isAbsolute = false :=
  beq_eq_false_iff_ne.mpr h.head?_ne

theorem IsEntryName.filterMap_part? (h : IsEntryName name) :
    [name].filterMap part? = [.name name] := by
  rw [List.filterMap_cons_some h.part?_eq, List.filterMap_nil]

theorem IsEntryName.parts_eq (h : IsEntryName name) : (Pathname.mk name).parts = [.name name] := by
  have hstart : (Pathname.mk name).start = [] := by
    rw [start, h.isAbsolute_eq, h.pieces_eq]
    simp [h.not_here]
  rw [parts, hstart, h.pieces_eq, h.filterMap_part?, List.nil_append]

/-! ## Parts of a joined path -/

theorem pieces_ne_nil (path : Pathname) : path.pieces ≠ [] :=
  List.splitOn_ne_nil separator path.bytes

theorem pieces_append (left right : List UInt8) :
    (Pathname.mk (left ++ separator :: right)).pieces =
      (Pathname.mk left).pieces ++ (Pathname.mk right).pieces :=
  List.splitOnP_append_cons left right (beq_self_eq_true separator)

theorem start_congr {left right : Pathname} (hbytes : left.bytes.head? = right.bytes.head?)
    (hpieces : left.pieces.head? = right.pieces.head?) : left.start = right.start := by
  rw [start, start, isAbsolute, isAbsolute, hbytes, hpieces]

theorem start_append (left right : List UInt8) :
    (Pathname.mk (left ++ separator :: right)).start =
      (Pathname.mk (left ++ [separator])).start := by
  refine start_congr ?_ ?_
  · simp only [List.head?_append, List.head?_cons]
  · rw [pieces_append, pieces_append, List.head?_append_of_ne_nil _ (pieces_ne_nil _),
      List.head?_append_of_ne_nil _ (pieces_ne_nil _)]

/-- A separator at the end of a path makes no difference, unless it is the whole path. -/
theorem parts_concat_separator {left : List UInt8} (h : left ≠ []) :
    (Pathname.mk (left ++ [separator])).parts = (Pathname.mk left).parts := by
  have hstart : (Pathname.mk (left ++ [separator])).start = (Pathname.mk left).start := by
    refine start_congr (List.head?_append_of_ne_nil _ h) ?_
    rw [pieces_append, List.head?_append_of_ne_nil _ (pieces_ne_nil _)]
  rw [parts, parts, hstart, pieces_append, List.filterMap_append]
  exact congrArg _ (List.append_nil _)

theorem parts_append (left : List UInt8) (h : IsEntryName name) :
    (Pathname.mk (left ++ separator :: name)).parts =
      (Pathname.mk (left ++ [separator])).parts ++ [.name name] := by
  have hempty : (Pathname.mk []).pieces.filterMap part? = [] := rfl
  rw [parts, parts, start_append, pieces_append, pieces_append, List.filterMap_append,
    List.filterMap_append, h.pieces_eq, h.filterMap_part?, hempty, List.append_nil,
    List.append_assoc]

/-- The path of an entry leads to the folder and then to the entry. -/
theorem parts_join (directory : Pathname) (h : IsEntryName name) :
    (directory.join ⟨name⟩).parts = directory.parts ++ [.name name] := by
  rw [join, if_neg (by simp [h.isAbsolute_eq])]
  by_cases hempty : directory.bytes = []
  · rw [if_pos (Or.inl hempty), hempty, List.nil_append, h.parts_eq]
    have hdirectory : directory = ⟨[]⟩ := congrArg Pathname.mk hempty
    rw [hdirectory]
    rfl
  by_cases hlast : directory.bytes.getLast? = some separator
  · obtain ⟨left, hleft⟩ := List.getLast?_eq_some_iff.mp hlast
    have hdirectory : directory = ⟨left ++ [separator]⟩ := congrArg Pathname.mk hleft
    rw [if_pos (Or.inr hlast), hleft, List.append_assoc, List.singleton_append,
      parts_append left h, hdirectory]
  · rw [if_neg (not_or.mpr ⟨hempty, hlast⟩), parts_append _ h, parts_concat_separator hempty]

theorem fileName?_join (directory : Pathname) (h : IsEntryName name) :
    (directory.join ⟨name⟩).fileName? = some name := by
  rw [fileName?, parts_join directory h, List.getLast?_concat]

/-! ## Stems and extensions -/

theorem partedAtDot?_append {stem extension : List UInt8} (hstem : stem ≠ [])
    (hextension : dot ∉ extension) :
    partedAtDot? (stem ++ dot :: extension) = some (stem, extension) := by
  obtain ⟨first, rest, hreverse⟩ :=
    List.exists_cons_of_ne_nil (List.reverse_ne_nil_iff.mpr hstem)
  have hafter : ∀ byte ∈ extension.reverse, (byte != dot) = true := by
    intro byte hbyte
    rw [bne_iff_ne]
    rintro rfl
    exact hextension (List.mem_reverse.mp hbyte)
  have hname : (stem ++ dot :: extension).reverse =
      extension.reverse ++ dot :: first :: rest := by
    rw [List.reverse_append, List.reverse_cons, hreverse, List.append_assoc]
    rfl
  have hdrop : (extension.reverse ++ dot :: first :: rest).dropWhile (· != dot) =
      dot :: first :: rest := by
    rw [List.dropWhile_append_of_pos hafter, List.dropWhile_cons_of_neg (by simp)]
  have htake : (extension.reverse ++ dot :: first :: rest).takeWhile (· != dot) =
      extension.reverse := by
    rw [List.takeWhile_append_of_pos hafter, List.takeWhile_cons_of_neg (by simp),
      List.append_nil]
  have hparted : partedAtDot? (stem ++ dot :: extension) =
      some ((first :: rest).reverse, extension.reverse.reverse) := by
    rw [partedAtDot?, hname, hdrop, htake]
  rw [hparted, ← hreverse, List.reverse_reverse, List.reverse_reverse]

theorem eq_append_of_partedAtDot? {stem extension : List UInt8}
    (h : partedAtDot? name = some (stem, extension)) :
    name = stem ++ dot :: extension ∧ stem ≠ [] := by
  unfold partedAtDot? at h
  split at h
  next byte first rest hdrop =>
    have hbyte : byte = dot := by
      have hhead := List.head?_dropWhile_not (· != dot) name.reverse
      rw [hdrop] at hhead
      simpa using hhead
    obtain ⟨rfl, rfl⟩ := Prod.mk.inj (Option.some.inj h)
    refine ⟨?_, by simp⟩
    have hsplit := List.takeWhile_append_dropWhile (p := (· != dot)) (l := name.reverse)
    rw [hdrop, hbyte] at hsplit
    have hname := congrArg List.reverse hsplit
    rw [List.reverse_append, List.reverse_cons, List.reverse_reverse, List.append_assoc] at hname
    exact hname.symm
  · cases h

theorem stem?_join (directory : Pathname) {stem extension : List UInt8}
    (hname : IsEntryName (stem ++ dot :: extension)) (hstem : stem ≠ [])
    (hextension : dot ∉ extension) :
    (directory.join ⟨stem ++ dot :: extension⟩).stem? = some stem := by
  rw [stem?, fileName?_join directory hname, Option.bind_eq_bind, Option.bind_some,
    partedAtDot?_append hstem hextension]
  rfl

theorem extension?_join (directory : Pathname) {stem extension : List UInt8}
    (hname : IsEntryName (stem ++ dot :: extension)) (hstem : stem ≠ [])
    (hextension : dot ∉ extension) :
    (directory.join ⟨stem ++ dot :: extension⟩).extension? = some extension := by
  rw [extension?, fileName?_join directory hname, Option.bind_eq_bind, Option.bind_some,
    partedAtDot?_append hstem hextension]
  rfl

/-- A file that has an extension is named by its stem, a dot and the extension. -/
theorem eq_append_of_extension? {path : Pathname} {stem extension : List UInt8}
    (hname : path.fileName? = some name) (hextension : path.extension? = some extension)
    (hstem : path.stem? = some stem) : name = stem ++ dot :: extension ∧ stem ≠ [] := by
  rw [extension?, hname, Option.bind_eq_bind, Option.bind_some] at hextension
  rw [stem?, hname, Option.bind_eq_bind, Option.bind_some] at hstem
  cases hparted : partedAtDot? name with
  | none =>
      rw [hparted] at hextension
      cases hextension
  | some parted =>
      rw [hparted] at hextension hstem
      rw [← Option.some.inj hextension, ← Option.some.inj hstem]
      exact eq_append_of_partedAtDot? hparted

end Pathname

end TextAdventure
