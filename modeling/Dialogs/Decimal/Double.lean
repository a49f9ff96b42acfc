/-!
# Binary floating-point numbers

A double is its 64-bit pattern. A finite one denotes the rational number `significand * 2 ^ power`,
and every operation here is exact on that rational number and rounds once, to the nearest double
and to the even one of two. No machine arithmetic is involved, so each step can be computed and
reasoned about in natural numbers.
-/

namespace Dialogs

/-- A 64-bit floating-point number, by its bit pattern: a sign, eleven bits of exponent and
fifty-two bits of fraction. -/
structure Double where
  bits : UInt64
  deriving DecidableEq, Repr

namespace Double

/-- The place of the sign, `2 ^ 63`. -/
def signBit : Nat := 9223372036854775808

/-- The place of the leading bit of a significand, `2 ^ 52`, which is also that of the exponent. -/
def leadingBit : Nat := 4503599627370496

/-- The sign bit. Zero has one too. -/
def isNegative (x : Double) : Bool := signBit ≤ x.bits.toNat

/-- The biased exponent. -/
def exponentBits (x : Double) : Nat := x.bits.toNat / leadingBit % 2048

/-- The fraction below the leading bit. -/
def fractionBits (x : Double) : Nat := x.bits.toNat % leadingBit

/-- Neither an infinity nor a NaN. -/
def isFinite (x : Double) : Bool := x.exponentBits != 2047

/-- The integer that the power of two scales: the fraction with its leading bit, which the
smallest exponent does not have. -/
def significand (x : Double) : Nat :=
  if x.exponentBits = 0 then x.fractionBits else leadingBit + x.fractionBits

/-- The power of two that scales the significand. -/
def power (x : Double) : Int :=
  if x.exponentBits = 0 then -1074 else (x.exponentBits : Int) - 1075

/-- The distance of the value from zero as a fraction of natural numbers. -/
def magnitude (x : Double) : Nat × Nat :=
  (x.significand * Nat.pow 2 x.power.toNat, Nat.pow 2 (-x.power).toNat)

/-- Division rounded to the nearest integer, a half to the even one. -/
def divideNearest (numerator denominator : Nat) : Nat :=
  let quotient := numerator / denominator
  let twice := 2 * (numerator % denominator)
  if denominator < twice ∨ (twice = denominator ∧ quotient % 2 = 1) then quotient + 1 else quotient

/-- The bit pattern without sign of the double nearest to a positive fraction. The unit in the last
place is `2 ^ power`; it is the largest for which the significand has its full width, or the
smallest there is. A significand that rounds up to the next power of two carries into the
exponent. -/
def nearestBits (numerator denominator : Nat) : Nat :=
  let guess : Int := (numerator.log2 : Int) - (denominator.log2 : Int) - 53
  let scaled (power : Int) : Nat × Nat :=
    (numerator * Nat.pow 2 (-power).toNat, denominator * Nat.pow 2 power.toNat)
  let power := max (-1074) <|
    if 2 * leadingBit ≤ (scaled guess).1 / (scaled guess).2 then guess + 1 else guess
  (power + 1074).toNat * leadingBit + divideNearest (scaled power).1 (scaled power).2

/-- The double nearest to a fraction, if it is finite. -/
def ofFraction? (negative : Bool) (numerator denominator : Nat) : Option Double :=
  let magnitude := if numerator = 0 then 0 else nearestBits numerator denominator
  if 2047 * leadingBit ≤ magnitude then none
  else some ⟨UInt64.ofNat (magnitude + if negative then signBit else 0)⟩

/-- Positive zero. -/
def zero : Double := ⟨0⟩

/-- The value with its sign turned. -/
def negate (x : Double) : Double := ⟨x.bits ^^^ 0x8000000000000000⟩

/-- Whether the value is a zero of either sign. -/
def isZero (x : Double) : Bool := x.exponentBits == 0 && x.fractionBits == 0

end Double

end Dialogs
