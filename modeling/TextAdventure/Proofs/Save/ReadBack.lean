import TextAdventure.Save.Packed

/-!
# Packed values read back

Whatever a packed value is written as, reading takes exactly its bytes from the front and
gives the value back.  The format announces lengths in 32 bits, so that this is claimed of
values in which no text, array or map is longer.
-/

namespace TextAdventure.Save

/-! ## Running readers -/

theorem reader_bind {α β : Type} (read : Reader α) (next : α → Reader β) (bytes : List UInt8) :
    (read >>= next) bytes = (read bytes).bind fun outcome => next outcome.1 outcome.2 := rfl

theorem reader_pure {α : Type} (value : α) (bytes : List UInt8) :
    (pure value : Reader α) bytes = some (value, bytes) := rfl

theorem readByte_cons (byte : UInt8) (rest : List UInt8) :
    readByte (byte :: rest) = some (byte, rest) := rfl

/-- If each of some values is read back from what stands for it, so are all of them. -/
theorem readTimes_flatMap {α : Type} {read : Reader α} {write : α → List UInt8} {values : List α}
    (h : ∀ value ∈ values, ∀ rest, read (write value ++ rest) = some (value, rest))
    (rest : List UInt8) :
    readTimes read values.length (values.flatMap write ++ rest) = some (values, rest) := by
  induction values with
  | nil => rfl
  | cons value values ih =>
      have hfirst := h value (List.mem_cons_self ..) (values.flatMap write ++ rest)
      have hlater := ih fun other hother => h other (List.mem_cons_of_mem _ hother)
      simp only [List.length_cons, List.flatMap_cons, List.append_assoc, readTimes, reader_bind,
        reader_pure, hfirst, hlater, Option.bind_some]

namespace Packed

/-! ## Limits of the format -/

/-- The number of bytes or values that can be announced. -/
def maxCount : Nat := 0x100000000

mutual

/-- Whether no text, array or map in a value is too long to be announced. -/
def isWritable : Packed → Bool
  | text bytes => bytes.length < maxCount
  | binary bytes => bytes.length < maxCount
  | extension _ bytes => bytes.length < maxCount
  | array items => items.length < maxCount && areWritable items
  | map entries => entries.length < maxCount && haveWritable entries
  | _ => true

def areWritable : List Packed → Bool
  | [] => true
  | item :: rest => isWritable item && areWritable rest

def haveWritable : List (Packed × Packed) → Bool
  | [] => true
  | (key, value) :: rest => isWritable key && isWritable value && haveWritable rest

end

theorem areWritable_iff (items : List Packed) :
    areWritable items = true ↔ ∀ item ∈ items, item.isWritable = true := by
  induction items with
  | nil => simp [areWritable]
  | cons item rest ih => simp [areWritable, ih]

theorem haveWritable_iff (entries : List (Packed × Packed)) :
    haveWritable entries = true ↔
      ∀ entry ∈ entries, entry.1.isWritable = true ∧ entry.2.isWritable = true := by
  induction entries with
  | nil => simp [haveWritable]
  | cons entry rest ih =>
      obtain ⟨key, value⟩ := entry
      simp [haveWritable, ih, and_assoc]

/-! ## Nesting of parts -/

theorem nestingItems_le_iff {deepest depth : Nat} {items : List Packed} :
    nestingItems deepest items ≤ depth ↔
      deepest ≤ depth ∧ ∀ item ∈ items, item.nesting ≤ depth := by
  induction items generalizing deepest with
  | nil => simp [nestingItems]
  | cons item rest ih => rw [nestingItems, ih, Nat.max_le, List.forall_mem_cons, and_assoc]

theorem nestingEntries_le_iff {deepest depth : Nat} {entries : List (Packed × Packed)} :
    nestingEntries deepest entries ≤ depth ↔
      deepest ≤ depth ∧
        ∀ entry ∈ entries, entry.1.nesting ≤ depth ∧ entry.2.nesting ≤ depth := by
  induction entries generalizing deepest with
  | nil => simp [nestingEntries]
  | cons entry rest ih =>
      obtain ⟨key, value⟩ := entry
      rw [nestingEntries, ih, Nat.max_le, Nat.max_le, List.forall_mem_cons, and_assoc]

theorem nesting_array_le_iff {depth : Nat} {items : List Packed} :
    (array items).nesting ≤ depth + 1 ↔ ∀ item ∈ items, item.nesting ≤ depth := by
  rw [nesting, Nat.add_le_add_iff_right, nestingItems_le_iff]
  exact and_iff_right (Nat.zero_le depth)

theorem nesting_map_le_iff {depth : Nat} {entries : List (Packed × Packed)} :
    (map entries).nesting ≤ depth + 1 ↔
      ∀ entry ∈ entries, entry.1.nesting ≤ depth ∧ entry.2.nesting ≤ depth := by
  rw [nesting, Nat.add_le_add_iff_right, nestingEntries_le_iff]
  exact and_iff_right (Nat.zero_le depth)

/-! ## Lists of values as they are written -/

theorem writeItems_eq (items : List Packed) : writeItems items = items.flatMap write := by
  induction items with
  | nil => rfl
  | cons item rest ih => rw [writeItems, ih, List.flatMap_cons]

def writeEntry (entry : Packed × Packed) : List UInt8 :=
  entry.1.write ++ entry.2.write

theorem writeEntries_eq (entries : List (Packed × Packed)) :
    writeEntries entries = entries.flatMap writeEntry := by
  induction entries with
  | nil => rfl
  | cons entry rest ih =>
      obtain ⟨key, value⟩ := entry
      rw [writeEntries, ih, List.flatMap_cons, writeEntry]

theorem readEntry_writeEntry {read : Reader Packed} {entry : Packed × Packed}
    (hkey : ∀ rest, read (entry.1.write ++ rest) = some (entry.1, rest))
    (hvalue : ∀ rest, read (entry.2.write ++ rest) = some (entry.2, rest)) (rest : List UInt8) :
    readEntry read (writeEntry entry ++ rest) = some (entry, rest) := by
  simp only [readEntry, writeEntry, List.append_assoc, reader_bind, reader_pure, hkey, hvalue,
    Option.bind_some]

/-! ## Heads read back -/

theorem countOf_pos (width : Nat) : 0 < countOf width := by
  induction width with
  | zero => exact Nat.one_pos
  | succ width ih => exact Nat.mul_pos (by decide) ih

theorem countOf_widths : countOf 1 = 0x100 ∧ countOf 2 = 0x10000 ∧ countOf 4 = 0x100000000 ∧
    countOf 8 = 0x10000000000000000 := by
  decide

theorem readHead_marker (marker : Nat) (h : 0xC0 ≤ marker ∧ marker < 0xE0) (rest : List UInt8) :
    readHead (UInt8.ofNat marker :: rest) = readMarked marker rest := by
  have htoNat : (UInt8.ofNat marker).toNat = marker := by
    rw [UInt8.toNat_ofNat']
    omega
  simp only [readHead, reader_bind, readByte_cons, Option.bind_some, htoNat]
  rw [if_neg (by omega), if_neg (by omega), if_neg (by omega), if_neg (by omega),
    if_pos (by omega)]

theorem readNumber_bind {α : Type} {width n : Nat} (h : n < countOf width) (next : Nat → Reader α)
    (rest : List UInt8) :
    (readNumber width >>= next) (bigEndian width n ++ rest) = next n rest := by
  rw [reader_bind, readNumber_bigEndian h]
  rfl

theorem readHead_unsignedBytes {n : Nat} (h : n < 0x10000000000000000) (rest : List UInt8) :
    readHead (unsignedBytes n ++ rest) = some (.whole (.unsigned (UInt64.ofNat n)), rest) := by
  have hwidths := countOf_widths
  unfold unsignedBytes
  split
  · have htoNat : (UInt8.ofNat n).toNat = n := by
      rw [UInt8.toNat_ofNat']
      omega
    simp only [List.cons_append, List.nil_append, readHead, reader_bind, readByte_cons,
      Option.bind_some, htoNat]
    rw [if_pos (by omega)]
    rfl
  · split
    · exact (readHead_marker 0xCC (by omega) _).trans (readNumber_bind (by omega) _ _)
    · split
      · exact (readHead_marker 0xCD (by omega) _).trans (readNumber_bind (by omega) _ _)
      · split
        · exact (readHead_marker 0xCE (by omega) _).trans (readNumber_bind (by omega) _ _)
        · exact (readHead_marker 0xCF (by omega) _).trans (readNumber_bind (by omega) _ _)

theorem readHead_arrayHead {count : Nat} (h : count < maxCount) (rest : List UInt8) :
    readHead (arrayHead count ++ rest) = some (.array count, rest) := by
  have hwidths := countOf_widths
  unfold maxCount at h
  unfold arrayHead
  split
  · have htoNat : (UInt8.ofNat (0x90 + count)).toNat = 0x90 + count := by
      rw [UInt8.toNat_ofNat']
      omega
    simp only [List.cons_append, List.nil_append, readHead, reader_bind, readByte_cons,
      Option.bind_some, htoNat]
    rw [if_neg (by omega), if_neg (by omega), if_pos (by omega), Nat.add_sub_cancel_left]
    rfl
  · split
    · exact (readHead_marker 0xDC (by omega) _).trans (readNumber_bind (by omega) _ _)
    · exact (readHead_marker 0xDD (by omega) _).trans (readNumber_bind (by omega) _ _)

theorem bmod_complement {width : Nat} {n : Int} (hlow : -(countOf width / 2 : Nat) ≤ n)
    (hhigh : n < (countOf width / 2 : Nat)) :
    Int.bmod ((n % (countOf width : Nat)).toNat : Int) (countOf width) = n := by
  have hpos : (0 : Int) < (countOf width : Nat) := by exact_mod_cast countOf_pos width
  rw [Int.toNat_of_nonneg (Int.emod_nonneg _ (by omega)), Int.emod_bmod]
  exact Int.bmod_eq_of_le (by omega) (by omega)

theorem readSigned_complementBytes {width : Nat} {n : Int} (hlow : -(countOf width / 2 : Nat) ≤ n)
    (hhigh : n < (countOf width / 2 : Nat)) (rest : List UInt8) :
    readSigned width (complementBytes width n ++ rest) =
      some (.whole (.signed (Int64.ofInt n)), rest) := by
  have hpos : (0 : Int) < (countOf width : Nat) := by exact_mod_cast countOf_pos width
  have hnonneg := Int.emod_nonneg n (Int.ne_of_gt hpos)
  have hless := Int.emod_lt_of_pos n hpos
  have hbound : (n % (countOf width : Nat)).toNat < countOf width := by omega
  have hread := readNumber_bind hbound
    (fun m => (return .whole (.signed (Int64.ofInt (Int.bmod m (countOf width)))) : Reader Head))
    rest
  rw [bmod_complement hlow hhigh] at hread
  exact hread

theorem readHead_signedBytes {n : Int} (hlow : -0x8000000000000000 ≤ n)
    (hhigh : n < 0x8000000000000000) (rest : List UInt8) :
    readHead (signedBytes n ++ rest) = some (.whole (.signed (Int64.ofInt n)), rest) := by
  have hwidths := countOf_widths
  unfold signedBytes
  split
  · have htoNat : (UInt8.ofNat (n + 256).toNat).toNat = (n + 256).toNat := by
      rw [UInt8.toNat_ofNat']
      omega
    have hvalue : ((n + 256).toNat : Int) - 256 = n := by omega
    simp only [List.cons_append, List.nil_append, readHead, reader_bind, readByte_cons,
      Option.bind_some, htoNat]
    rw [if_neg (by omega), if_neg (by omega), if_neg (by omega), if_neg (by omega),
      if_neg (by omega), hvalue]
    rfl
  · split
    · exact (readHead_marker 0xD0 (by omega) _).trans
        (readSigned_complementBytes (by omega) (by omega) rest)
    · split
      · exact (readHead_marker 0xD1 (by omega) _).trans
          (readSigned_complementBytes (by omega) (by omega) rest)
      · split
        · exact (readHead_marker 0xD2 (by omega) _).trans
            (readSigned_complementBytes (by omega) (by omega) rest)
        · exact (readHead_marker 0xD3 (by omega) _).trans
            (readSigned_complementBytes (by omega) (by omega) rest)

theorem readHead_mapHead {count : Nat} (h : count < maxCount) (rest : List UInt8) :
    readHead (mapHead count ++ rest) = some (.map count, rest) := by
  have hwidths := countOf_widths
  unfold maxCount at h
  unfold mapHead
  split
  · have htoNat : (UInt8.ofNat (0x80 + count)).toNat = 0x80 + count := by
      rw [UInt8.toNat_ofNat']
      omega
    simp only [List.cons_append, List.nil_append, readHead, reader_bind, readByte_cons,
      Option.bind_some, htoNat]
    rw [if_neg (by omega), if_pos (by omega), Nat.add_sub_cancel_left]
    rfl
  · split
    · exact (readHead_marker 0xDE (by omega) _).trans (readNumber_bind (by omega) _ _)
    · exact (readHead_marker 0xDF (by omega) _).trans (readNumber_bind (by omega) _ _)

theorem readText_append (bytes rest : List UInt8) :
    readText bytes.length (bytes ++ rest) = some (.whole (.text bytes), rest) := by
  rw [readText, reader_bind, readBytes_append]
  rfl

theorem readBinary_append (bytes rest : List UInt8) :
    readBinary bytes.length (bytes ++ rest) = some (.whole (.binary bytes), rest) := by
  rw [readBinary, reader_bind, readBytes_append]
  rfl

theorem readHead_text {bytes : List UInt8} (h : bytes.length < maxCount) (rest : List UInt8) :
    readHead (textHead bytes.length ++ (bytes ++ rest)) = some (.whole (.text bytes), rest) := by
  have hwidths := countOf_widths
  unfold maxCount at h
  rw [← readText_append bytes rest]
  generalize bytes.length = count at *
  generalize bytes ++ rest = following
  unfold textHead
  split
  · have htoNat : (UInt8.ofNat (0xA0 + count)).toNat = 0xA0 + count := by
      rw [UInt8.toNat_ofNat']
      omega
    simp only [List.cons_append, List.nil_append, readHead, reader_bind, readByte_cons,
      Option.bind_some, htoNat]
    rw [if_neg (by omega), if_neg (by omega), if_neg (by omega), if_pos (by omega),
      Nat.add_sub_cancel_left]
  · split
    · exact (readHead_marker 0xD9 (by omega) _).trans (readNumber_bind (by omega) _ _)
    · split
      · exact (readHead_marker 0xDA (by omega) _).trans (readNumber_bind (by omega) _ _)
      · exact (readHead_marker 0xDB (by omega) _).trans (readNumber_bind (by omega) _ _)

theorem readHead_binary {bytes : List UInt8} (h : bytes.length < maxCount) (rest : List UInt8) :
    readHead (binaryHead bytes.length ++ (bytes ++ rest)) =
      some (.whole (.binary bytes), rest) := by
  have hwidths := countOf_widths
  unfold maxCount at h
  rw [← readBinary_append bytes rest]
  generalize bytes.length = count at *
  generalize bytes ++ rest = following
  unfold binaryHead
  split
  · exact (readHead_marker 0xC4 (by omega) _).trans (readNumber_bind (by omega) _ _)
  · split
    · exact (readHead_marker 0xC5 (by omega) _).trans (readNumber_bind (by omega) _ _)
    · exact (readHead_marker 0xC6 (by omega) _).trans (readNumber_bind (by omega) _ _)

theorem readHead_extension {tag : UInt8} {bytes : List UInt8} (h : bytes.length < maxCount)
    (rest : List UInt8) :
    readHead (0xC9 :: (bigEndian 4 bytes.length ++ tag :: (bytes ++ rest))) =
      some (.whole (.extension tag bytes), rest) := by
  have hwidths := countOf_widths
  unfold maxCount at h
  refine (readHead_marker 0xC9 (by omega) _).trans ((readNumber_bind (by omega) _ _).trans ?_)
  rw [readExtension, reader_bind, readByte_cons, Option.bind_some, reader_bind, readBytes_append]
  rfl

/-- A value that is no array and no map is read back from its bytes at once. -/
theorem readHead_write {packed : Packed} (hwritable : packed.isWritable = true)
    (harray : ∀ items, packed ≠ .array items) (hmap : ∀ entries, packed ≠ .map entries)
    (rest : List UInt8) : readHead (packed.write ++ rest) = some (.whole packed, rest) := by
  cases packed with
  | nil => rfl
  | bool value => cases value <;> rfl
  | unsigned value =>
      rw [write, readHead_unsignedBytes value.toNat_lt, UInt64.ofNat_toNat]
  | signed value =>
      have hlow := value.le_toInt
      have hhigh := value.toInt_lt
      rw [write, readHead_signedBytes hlow hhigh, Int64.ofInt_toInt]
  | single bits =>
      refine (readHead_marker 0xCA (by omega) _).trans
        ((readNumber_bind (Nat.lt_of_lt_of_le bits.toNat_lt (by decide)) _ _).trans ?_)
      rw [reader_pure, UInt32.ofNat_toNat]
  | double bits =>
      refine (readHead_marker 0xCB (by omega) _).trans
        ((readNumber_bind (Nat.lt_of_lt_of_le bits.toNat_lt (by decide)) _ _).trans ?_)
      rw [reader_pure, UInt64.ofNat_toNat]
  | text bytes =>
      rw [write, List.append_assoc]
      exact readHead_text (of_decide_eq_true hwritable) rest
  | binary bytes =>
      rw [write, List.append_assoc]
      exact readHead_binary (of_decide_eq_true hwritable) rest
  | array items => exact absurd rfl (harray items)
  | map entries => exact absurd rfl (hmap entries)
  | extension tag bytes =>
      rw [write, List.cons_append, List.append_assoc, List.cons_append]
      exact readHead_extension (of_decide_eq_true hwritable) rest

/-! ## Values read back -/

theorem readWithin_whole {packed : Packed} {bytes rest : List UInt8}
    (h : readHead bytes = some (.whole packed, rest)) (depth : Nat) :
    readWithin depth bytes = some (packed, rest) := by
  cases depth with
  | zero => rw [readWithin, reader_bind, h]; rfl
  | succ depth => rw [readWithin, reader_bind, h]; rfl

/-- Induction on the depth that is allowed: the parts of an array or a map are nested less
deep, and each of them is read back whatever follows it. -/
theorem readWithin_write {depth : Nat} {packed : Packed} (hnesting : packed.nesting ≤ depth)
    (hwritable : packed.isWritable = true) (rest : List UInt8) :
    readWithin depth (packed.write ++ rest) = some (packed, rest) := by
  induction depth generalizing packed rest with
  | zero =>
      refine readWithin_whole (readHead_write hwritable ?_ ?_ rest) 0
      · rintro items rfl
        simp [nesting] at hnesting
      · rintro entries rfl
        simp [nesting] at hnesting
  | succ depth ih =>
      cases packed with
      | array items =>
          simp only [isWritable, Bool.and_eq_true, decide_eq_true_eq, areWritable_iff] at hwritable
          have hitems : ∀ item ∈ items, ∀ rest,
              readWithin depth (item.write ++ rest) = some (item, rest) := by
            intro item hitem rest
            exact ih (nesting_array_le_iff.mp hnesting item hitem) (hwritable.2 item hitem) rest
          rw [write, List.append_assoc, readWithin, reader_bind,
            readHead_arrayHead hwritable.1, writeItems_eq]
          simp only [Option.bind_some, reader_bind, reader_pure, readTimes_flatMap hitems]
      | map entries =>
          simp only [isWritable, Bool.and_eq_true, decide_eq_true_eq, haveWritable_iff] at hwritable
          have hentries : ∀ entry ∈ entries, ∀ rest,
              readEntry (readWithin depth) (writeEntry entry ++ rest) = some (entry, rest) := by
            intro entry hentry rest
            have hless := nesting_map_le_iff.mp hnesting entry hentry
            have hboth := hwritable.2 entry hentry
            exact readEntry_writeEntry (ih hless.1 hboth.1) (ih hless.2 hboth.2) rest
          rw [write, List.append_assoc, readWithin, reader_bind,
            readHead_mapHead hwritable.1, writeEntries_eq]
          simp only [Option.bind_some, reader_bind, reader_pure, readTimes_flatMap hentries]
      | _ => exact readWithin_whole (readHead_write hwritable (by simp) (by simp) rest) _

theorem read_write {packed : Packed} (hnesting : packed.nesting ≤ readDepth)
    (hwritable : packed.isWritable = true) (rest : List UInt8) :
    read (packed.write ++ rest) = some (packed, rest) :=
  readWithin_write hnesting hwritable rest

end Packed

end TextAdventure.Save
