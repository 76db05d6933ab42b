/-!
# Readers of bytes

A reader takes a value from the front of a list of bytes and leaves the rest, or
refuses.  Numbers are written with their most significant byte first.
-/

namespace TextAdventure.Save

abbrev Reader : Type → Type := StateT (List UInt8) Option

/-- The lowest bytes of a number, most significant first. -/
def bigEndian : Nat → Nat → List UInt8
  | 0, _ => []
  | width + 1, n => bigEndian width (n / 256) ++ [UInt8.ofNat (n % 256)]

/-- How many numbers can be written in so many bytes. -/
def countOf : Nat → Nat
  | 0 => 1
  | width + 1 => 256 * countOf width

/-- The number that bytes spell, most significant first. -/
def ofBigEndian (bytes : List UInt8) : Nat :=
  bytes.foldl (fun n byte => n * 256 + byte.toNat) 0

def readByte : Reader UInt8
  | [] => none
  | byte :: rest => some (byte, rest)

/-- Read so many bytes as they are. -/
def readBytes : Nat → Reader (List UInt8)
  | 0, bytes => some ([], bytes)
  | _ + 1, [] => none
  | count + 1, byte :: rest =>
      match readBytes count rest with
      | none => none
      | some (taken, left) => some (byte :: taken, left)

/-- Read a number of so many bytes. -/
def readNumber (width : Nat) : Reader Nat := do
  return ofBigEndian (← readBytes width)

/-- Read so many values, one after another. -/
def readTimes {α : Type} (read : Reader α) : Nat → Reader (List α)
  | 0 => return []
  | count + 1 => do
      let value ← read
      let rest ← readTimes read count
      return value :: rest

@[simp]
theorem length_bigEndian (width n : Nat) : (bigEndian width n).length = width := by
  induction width generalizing n with
  | zero => rfl
  | succ width ih => simp [bigEndian, ih]

theorem ofBigEndian_append (bytes : List UInt8) (byte : UInt8) :
    ofBigEndian (bytes ++ [byte]) = ofBigEndian bytes * 256 + byte.toNat := by
  simp [ofBigEndian, List.foldl_append]

theorem ofBigEndian_bigEndian (width n : Nat) :
    ofBigEndian (bigEndian width n) = n % countOf width := by
  induction width generalizing n with
  | zero => simp [bigEndian, ofBigEndian, countOf, Nat.mod_one]
  | succ width ih =>
      rw [bigEndian, ofBigEndian_append, ih, countOf, Nat.mod_mul]
      have hbyte : (UInt8.ofNat (n % 256)).toNat = n % 256 := by simp
      rw [hbyte]
      omega

/-- Reading as many bytes as there are in front gives exactly these. -/
theorem readBytes_append (front rest : List UInt8) :
    readBytes front.length (front ++ rest) = some (front, rest) := by
  induction front with
  | nil => rfl
  | cons byte front ih => simp [readBytes, ih]

theorem readNumber_bigEndian {width n : Nat} (h : n < countOf width) (rest : List UInt8) :
    readNumber width (bigEndian width n ++ rest) = some (n, rest) := by
  have hread := readBytes_append (bigEndian width n) rest
  rw [length_bigEndian] at hread
  have hnumber : readNumber width (bigEndian width n ++ rest) =
      (readBytes width (bigEndian width n ++ rest)).bind fun outcome =>
        some (ofBigEndian outcome.1, outcome.2) := rfl
  rw [hnumber, hread, Option.bind_some, ofBigEndian_bigEndian, Nat.mod_eq_of_lt h]

end TextAdventure.Save
