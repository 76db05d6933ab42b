import TextAdventure.Save.Bytes

/-!
# Packed values

Values in the MessagePack format.  Writing takes the shortest form of every number and
length; reading takes any form.  Numbers keep the family, signed or unsigned, in which
they were written.
-/

namespace TextAdventure.Save

inductive Packed where
  | nil
  | bool (value : Bool)
  | unsigned (value : UInt64)
  | signed (value : Int64)
  | single (bits : UInt32)
  | double (bits : UInt64)
  | text (bytes : List UInt8)
  | binary (bytes : List UInt8)
  | array (items : List Packed)
  | map (entries : List (Packed × Packed))
  | extension (tag : UInt8) (bytes : List UInt8)
  deriving Inhabited, Repr

namespace Packed

/-! ## Writing -/

def arrayHead (count : Nat) : List UInt8 :=
  if count < 16 then [UInt8.ofNat (0x90 + count)]
  else if count < 0x10000 then 0xDC :: bigEndian 2 count
  else 0xDD :: bigEndian 4 count

def mapHead (count : Nat) : List UInt8 :=
  if count < 16 then [UInt8.ofNat (0x80 + count)]
  else if count < 0x10000 then 0xDE :: bigEndian 2 count
  else 0xDF :: bigEndian 4 count

def textHead (count : Nat) : List UInt8 :=
  if count < 32 then [UInt8.ofNat (0xA0 + count)]
  else if count < 0x100 then 0xD9 :: bigEndian 1 count
  else if count < 0x10000 then 0xDA :: bigEndian 2 count
  else 0xDB :: bigEndian 4 count

def binaryHead (count : Nat) : List UInt8 :=
  if count < 0x100 then 0xC4 :: bigEndian 1 count
  else if count < 0x10000 then 0xC5 :: bigEndian 2 count
  else 0xC6 :: bigEndian 4 count

def unsignedBytes (n : Nat) : List UInt8 :=
  if n < 0x80 then [UInt8.ofNat n]
  else if n < 0x100 then 0xCC :: bigEndian 1 n
  else if n < 0x10000 then 0xCD :: bigEndian 2 n
  else if n < 0x100000000 then 0xCE :: bigEndian 4 n
  else 0xCF :: bigEndian 8 n

/-- The bytes of a number in two's complement. -/
def complementBytes (width : Nat) (n : Int) : List UInt8 :=
  bigEndian width (n % countOf width).toNat

def signedBytes (n : Int) : List UInt8 :=
  if -32 ≤ n ∧ n < 0 then [UInt8.ofNat (n + 256).toNat]
  else if -0x80 ≤ n ∧ n < 0x80 then 0xD0 :: complementBytes 1 n
  else if -0x8000 ≤ n ∧ n < 0x8000 then 0xD1 :: complementBytes 2 n
  else if -0x80000000 ≤ n ∧ n < 0x80000000 then 0xD2 :: complementBytes 4 n
  else 0xD3 :: complementBytes 8 n

mutual

def write : Packed → List UInt8
  | nil => [0xC0]
  | bool false => [0xC2]
  | bool true => [0xC3]
  | unsigned value => unsignedBytes value.toNat
  | signed value => signedBytes value.toInt
  | single bits => 0xCA :: bigEndian 4 bits.toNat
  | double bits => 0xCB :: bigEndian 8 bits.toNat
  | text bytes => textHead bytes.length ++ bytes
  | binary bytes => binaryHead bytes.length ++ bytes
  | array items => arrayHead items.length ++ writeItems items
  | map entries => mapHead entries.length ++ writeEntries entries
  | extension tag bytes => 0xC9 :: (bigEndian 4 bytes.length ++ tag :: bytes)

def writeItems : List Packed → List UInt8
  | [] => []
  | item :: rest => write item ++ writeItems rest

def writeEntries : List (Packed × Packed) → List UInt8
  | [] => []
  | (key, value) :: rest => write key ++ write value ++ writeEntries rest

end

/-! ## Reading -/

/-- What the first bytes of a value tell: all of it, or how many values it contains. -/
inductive Head where
  | whole (value : Packed)
  | array (count : Nat)
  | map (count : Nat)

def readUnsigned (width : Nat) : Reader Head := do
  return .whole (.unsigned (UInt64.ofNat (← readNumber width)))

def readSigned (width : Nat) : Reader Head := do
  return .whole (.signed (Int64.ofInt (Int.bmod (← readNumber width) (countOf width))))

def readText (count : Nat) : Reader Head := do
  return .whole (.text (← readBytes count))

def readBinary (count : Nat) : Reader Head := do
  return .whole (.binary (← readBytes count))

def readExtension (count : Nat) : Reader Head := do
  let tag ← readByte
  return .whole (.extension tag (← readBytes count))

/-- Read on after a marker that stands alone. -/
def readMarked : Nat → Reader Head
  | 0xC0 => return .whole .nil
  | 0xC2 => return .whole (.bool false)
  | 0xC3 => return .whole (.bool true)
  | 0xC4 => do readBinary (← readNumber 1)
  | 0xC5 => do readBinary (← readNumber 2)
  | 0xC6 => do readBinary (← readNumber 4)
  | 0xC7 => do readExtension (← readNumber 1)
  | 0xC8 => do readExtension (← readNumber 2)
  | 0xC9 => do readExtension (← readNumber 4)
  | 0xCA => do return .whole (.single (UInt32.ofNat (← readNumber 4)))
  | 0xCB => do return .whole (.double (UInt64.ofNat (← readNumber 8)))
  | 0xCC => readUnsigned 1
  | 0xCD => readUnsigned 2
  | 0xCE => readUnsigned 4
  | 0xCF => readUnsigned 8
  | 0xD0 => readSigned 1
  | 0xD1 => readSigned 2
  | 0xD2 => readSigned 4
  | 0xD3 => readSigned 8
  | 0xD4 => readExtension 1
  | 0xD5 => readExtension 2
  | 0xD6 => readExtension 4
  | 0xD7 => readExtension 8
  | 0xD8 => readExtension 16
  | 0xD9 => do readText (← readNumber 1)
  | 0xDA => do readText (← readNumber 2)
  | 0xDB => do readText (← readNumber 4)
  | 0xDC => do return .array (← readNumber 2)
  | 0xDD => do return .array (← readNumber 4)
  | 0xDE => do return .map (← readNumber 2)
  | 0xDF => do return .map (← readNumber 4)
  | _ => failure

/-- Read a marker and what it announces; many markers carry a number or a length. -/
def readHead : Reader Head := do
  let marker := (← readByte).toNat
  if marker < 0x80 then return .whole (.unsigned (UInt64.ofNat marker))
  else if marker < 0x90 then return .map (marker - 0x80)
  else if marker < 0xA0 then return .array (marker - 0x90)
  else if marker < 0xC0 then readText (marker - 0xA0)
  else if marker < 0xE0 then readMarked marker
  else return .whole (.signed (Int64.ofInt ((marker : Int) - 256)))

def readEntry (read : Reader Packed) : Reader (Packed × Packed) := do
  let key ← read
  let value ← read
  return (key, value)

/-- Read a value in which arrays and maps are nested at most so deep. -/
def readWithin : Nat → Reader Packed
  | 0 => do
      match ← readHead with
      | .whole value => return value
      | _ => failure
  | depth + 1 => do
      match ← readHead with
      | .whole value => return value
      | .array count => return array (← readTimes (readWithin depth) count)
      | .map count => return map (← readTimes (readEntry (readWithin depth)) count)

/-- How deep arrays, maps and extensions may be nested in a saved game. -/
def maxDepth : Nat := 1023

/-- The map around what a variant carries is no level of its own.  At most two of them lie
around a value, so that reading goes two deeper. -/
def readDepth : Nat := maxDepth + 2

/-- Read one value from the front of the bytes. -/
def read : Reader Packed :=
  readWithin readDepth

/-! ## Nesting -/

mutual

/-- How deep arrays, maps and extensions are nested in a value. -/
def nesting : Packed → Nat
  | array items => nestingItems 0 items + 1
  | map entries => nestingEntries 0 entries + 1
  | extension _ _ => 1
  | _ => 0

/-- The deepest nesting of the items, or `deepest` if none is deeper. -/
def nestingItems (deepest : Nat) : List Packed → Nat
  | [] => deepest
  | item :: rest => nestingItems (max deepest (nesting item)) rest

/-- The deepest nesting of the keys and values, or `deepest` if none is deeper. -/
def nestingEntries (deepest : Nat) : List (Packed × Packed) → Nat
  | [] => deepest
  | (key, value) :: rest =>
      nestingEntries (max deepest (max (nesting key) (nesting value))) rest

end

/-- Whether a value with `depth` arrays and maps around it is not nested too deep. -/
def fits (depth : Nat) (packed : Packed) : Bool :=
  depth + packed.nesting ≤ maxDepth

end Packed

end TextAdventure.Save
