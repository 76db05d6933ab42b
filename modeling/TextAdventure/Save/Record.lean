import TextAdventure.Save.Packed

/-!
# Packed records and variants

A record is a map from field names to values, or an array of all its values.  A variant
is its bare name, or a map from its name to what it carries.  A name may also be written
as its position among the names.

Values of unknown fields are passed over, unless they are nested too deep.  What unpacks
a record is told its depth, the number of arrays and maps around it; the map of a variant
is not counted.  The values of its fields lie one deeper, and the items of a list in it
two deeper.
-/

namespace TextAdventure.Save.Packed

def ofText (text : String) : Packed :=
  .text text.toUTF8.toList

/-- Text, or other bytes that spell one. -/
def text? : Packed → Option String
  | text bytes => String.fromUTF8? ⟨bytes.toArray⟩
  | binary bytes => String.fromUTF8? ⟨bytes.toArray⟩
  | _ => none

def ofBool (value : Bool) : Packed := .bool value

def bool? : Packed → Option Bool
  | bool value => some value
  | _ => none

def ofNat (n : Nat) : Packed :=
  .unsigned (UInt64.ofNat n)

/-- A whole number: unsigned unless it is negative. -/
def ofInt64 (n : Int64) : Packed :=
  if 0 ≤ n then .unsigned n.toUInt64 else .signed n

def integer? : Packed → Option Int
  | unsigned value => some value.toNat
  | signed value => some value.toInt
  | _ => none

def ofList {α : Type} (pack : α → Packed) (values : List α) : Packed :=
  .array (values.map pack)

/-- The values of an array; no bytes at all count as an empty one. -/
def list? {α : Type} (unpack? : Packed → Option α) : Packed → Option (List α)
  | array items => items.mapM unpack?
  | binary [] => some []
  | _ => none

def ofOption {α : Type} (pack : α → Packed) : Option α → Packed
  | none => .nil
  | some value => pack value

def option? {α : Type} (unpack? : Packed → Option α) : Packed → Option (Option α)
  | nil => some none
  | packed => (unpack? packed).map some

/-! ## Names -/

/-- Which of the names a value stands for: no answer if it cannot be a name at all, and
nothing if it is another name. -/
def position? (names : List String) : Packed → Option (Option Nat)
  | text bytes => some (names.findIdx? fun name => name.toUTF8.toList = bytes)
  | binary bytes => some (names.findIdx? fun name => name.toUTF8.toList = bytes)
  | unsigned value => some (if value.toNat < names.length then some value.toNat else none)
  | _ => none

/-! ## Records -/

def ofRecord (fields : List (String × Packed)) : Packed :=
  .map (fields.map fun field => (ofText field.1, field.2))

/-- Enter the value of a field that has none so far. -/
def enterField (index : Nat) (value : Packed) (fields : List (Option Packed)) :
    Option (List (Option Packed)) :=
  match fields[index]? with
  | some none => some (fields.set index (some value))
  | _ => none

/-- Enter the entries of a map into the fields, passing over names of no field. -/
def enterFields (depth : Nat) (names : List String) :
    List (Packed × Packed) → List (Option Packed) → Option (List (Option Packed))
  | [], fields => some fields
  | (key, value) :: rest, fields =>
      match position? names key with
      | none => none
      | some none => if value.fits depth then enterFields depth names rest fields else none
      | some (some index) => do enterFields depth names rest (← enterField index value fields)

def ofByte (byte : UInt8) : Packed :=
  ofNat byte.toNat

/-- The values of the named fields of a record, as far as they are there.  Bytes count as
an array of numbers, in which more than enough is no harm. -/
def fields? (depth : Nat) (names : List String) : Packed → Option (List (Option Packed))
  | array items => if items.length = names.length then some (items.map some) else none
  | binary bytes =>
      if names.length ≤ bytes.length then
        some ((bytes.take names.length).map fun byte => some (ofByte byte))
      else none
  | map entries => enterFields (depth + 1) names entries (names.map fun _ => none)
  | _ => none

/-- The value of a field that must be there. -/
def required {α : Type} (unpack? : Packed → Option α) (field : Option Packed) : Option α :=
  field.bind unpack?

/-- The value of a field that may be missing. -/
def optional {α : Type} (unpack? : Packed → Option α) : Option Packed → Option (Option α)
  | none => some none
  | some packed => option? unpack? packed

/-! ## Variants -/

def ofVariant (name : String) (content : Packed) : Packed :=
  .map [(ofText name, content)]

/-- The name of a variant and what it carries. -/
def variant? (names : List String) : Packed → Option (String × Option Packed)
  | map [(key, content)] => do
      let index ← ← position? names key
      return (← names[index]?, some content)
  | map _ => none
  | packed => do
      let index ← ← position? names packed
      return (← names[index]?, none)

/-- Whether a variant carries nothing. -/
def isBare : Option Packed → Bool
  | none => true
  | some nil => true
  | some _ => false

end TextAdventure.Save.Packed
