import TextAdventure.Weight

/-!
# Weights from other numbers

Whole numbers and 32-bit binary numbers as weights.  A whole number is rounded to the
nearest weight, a half to the even one; a 32-bit number is kept exactly.
-/

namespace TextAdventure.Weight

/-- Put the sign bit on the bits of a magnitude. -/
def withSign (isNegative : Bool) (magnitude : Nat) : Weight :=
  ⟨UInt64.ofNat (if isNegative then magnitude + 0x8000000000000000 else magnitude)⟩

/-- The bits of a positive whole number.  A significand rounded up to the next power of
two carries into the exponent. -/
def magnitudeBits (n : Nat) : Nat :=
  if n = 0 then 0
  else
    let exponent := n.log2
    let significand :=
      if exponent ≤ 52 then n <<< (52 - exponent)
      else roundQuotient n (1 <<< (exponent - 52))
    (exponent + 1023) <<< 52 + (significand - 1 <<< 52)

def ofInt (n : Int) : Weight :=
  withSign (n < 0) (magnitudeBits n.natAbs)

/-- The weight of a 32-bit binary number; what is no number stays none, and quiet. -/
def ofSingle (bits : UInt32) : Weight :=
  let exponent := ((bits >>> 23) &&& 0xFF).toNat
  let fraction := (bits &&& 0x7FFFFF).toNat
  let magnitude :=
    if exponent = 0xFF then
      0x7FF <<< 52 + (if fraction = 0 then 0 else 1 <<< 51 ||| fraction <<< 29)
    else if exponent = 0 then
      if fraction = 0 then 0
      else
        let top := fraction.log2
        (top + 874) <<< 52 + (fraction - 1 <<< top) <<< (52 - top)
    else (exponent + 896) <<< 52 + fraction <<< 29
  withSign (bits >>> 31 == 1) magnitude

end TextAdventure.Weight
