/-!
# Weights

A weight is the 64-bit pattern of a binary floating-point number.  Sums of
weights are taken in an arithmetic given as a record, so that the same rules run
on binary numbers and can be stated about exact ones.
-/

namespace TextAdventure

structure Weight where
  bits : UInt64
  deriving DecidableEq, Repr

namespace Weight

def zero : Weight := ⟨0⟩

def toFloat (weight : Weight) : Float :=
  Float.ofBits weight.bits

def ofFloat (number : Float) : Weight :=
  ⟨number.toBits⟩

def isNegative (weight : Weight) : Bool :=
  weight.bits >>> 63 == 1

/-- The eleven bits that say by which power of two the significand counts. -/
def exponentField (weight : Weight) : Nat :=
  ((weight.bits >>> 52) &&& 0x7FF).toNat

def fractionField (weight : Weight) : Nat :=
  (weight.bits &&& 0xFFFFFFFFFFFFF).toNat

def isNaN (weight : Weight) : Bool :=
  weight.exponentField == 0x7FF && weight.fractionField != 0

def isZero (weight : Weight) : Bool :=
  weight.exponentField == 0 && weight.fractionField == 0

/-- Equality as numbers: the two zeros agree and nothing equals a NaN. -/
def sameNumber (left right : Weight) : Bool :=
  !left.isNaN && !right.isNaN && (left.bits == right.bits || left.isZero && right.isZero)

/-- The quotient rounded to the nearest whole number, a half to the even one. -/
def roundQuotient (numerator denominator : Nat) : Nat :=
  let quotient := numerator / denominator
  let remainder := numerator % denominator
  if 2 * remainder > denominator then quotient + 1
  else if 2 * remainder = denominator ∧ quotient % 2 = 1 then quotient + 1
  else quotient

/-- The magnitude of a finite weight in tenths, rounded on its exact value. -/
def tenths (weight : Weight) : Nat :=
  let exponent := max weight.exponentField 1
  let significand :=
    if weight.exponentField = 0 then weight.fractionField
    else weight.fractionField + 0x10000000000000
  if exponent < 1075 then roundQuotient (10 * significand) (1 <<< (1075 - exponent))
  else (10 * significand) <<< (exponent - 1075)

/-- The weight with one decimal place. -/
def toText (weight : Weight) : String :=
  let sign := if weight.isNegative then "-" else ""
  if weight.exponentField = 0x7FF then
    if weight.fractionField = 0 then sign ++ "inf" else "NaN"
  else
    sign ++ toString (weight.tenths / 10) ++ "." ++ toString (weight.tenths % 10)

end Weight

/-- The operations that adding up and comparing loads needs. -/
structure Arithmetic where
  Amount : Type
  zero : Amount
  ofWeight : Weight → Amount
  times : Amount → UInt32 → Amount
  add : Amount → Amount → Amount
  exceeds : Amount → Amount → Bool

namespace Arithmetic

/-- The 64-bit binary floating-point numbers. -/
def binary64 : Arithmetic where
  Amount := Float
  zero := 0.0
  ofWeight := Weight.toFloat
  times amount count := amount * count.toFloat
  add left right := left + right
  exceeds left right := left > right

end Arithmetic

end TextAdventure
