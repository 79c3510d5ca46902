/-!
# Binary floating point

A binary floating-point number of 64 bits has a sign, an exponent and a fraction
(`MessageRelay.Binary.ofFloat`). With an exponent `e` that is neither the least nor the greatest it
stands for the significand, which is the fraction with one more bit in front, shifted by `e - 1075`
places.
-/

namespace MessageRelay

/-- The parts of a binary floating-point number. -/
structure Binary where
  /-- Whether it has a minus sign. -/
  isNegative : Bool
  /-- The eleven bits of the exponent. -/
  exponent : Nat
  /-- The fifty-two bits of the fraction. -/
  fraction : Nat
deriving DecidableEq, Inhabited

namespace Binary

/-- What the bit in front of the fraction is worth: two to the power of 52. -/
def leadingBit : Nat := 0x10000000000000

/-- The parts of a number. -/
def ofFloat (x : Float) : Binary :=
  let bits := x.toBits.toNat
  { isNegative := bits >>> 63 = 1
    exponent := (bits >>> 52) % 2048
    fraction := bits % leadingBit }

/-- The fraction with the bit in front of it. -/
def significand (b : Binary) : Nat :=
  leadingBit + b.fraction

end Binary

end MessageRelay
