/-!
# Reading whole numbers

A numeral is a non-empty run of the digits 0 to 9, with an optional sign.  A
numeral outside the range of its kind is no number at all.
-/

namespace TextAdventure.Text

def digit? (c : Char) : Option Nat :=
  if '0' ≤ c ∧ c ≤ '9' then some (c.toNat - '0'.toNat) else none

/-- Continue a numeral whose digits so far have the value `value`. -/
def readDigits? (value : Nat) : List Char → Option Nat
  | [] => some value
  | c :: rest =>
      match digit? c with
      | none => none
      | some d => readDigits? (10 * value + d) rest

def readNat? (cs : List Char) : Option Nat :=
  if cs.isEmpty then none else readDigits? 0 cs

/-- A signed number of 64 bits; either sign may be written. -/
def readSigned? (s : String) : Option Int :=
  match s.toList with
  | '-' :: digits => do
      let n ← readNat? digits
      if n ≤ 0x8000000000000000 then some (-(n : Int)) else none
  | '+' :: digits => do
      let n ← readNat? digits
      if n < 0x8000000000000000 then some (n : Int) else none
  | digits => do
      let n ← readNat? digits
      if n < 0x8000000000000000 then some (n : Int) else none

/-- An unsigned number of 64 bits; a plus sign may be written. -/
def readUnsigned? (s : String) : Option Nat :=
  let digits :=
    match s.toList with
    | '+' :: digits => digits
    | digits => digits
  do
    let n ← readNat? digits
    if n < UInt64.size then some n else none

end TextAdventure.Text
