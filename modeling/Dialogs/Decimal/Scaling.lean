import Dialogs.Decimal.Double

/-!
# Reading a decimal number by scaling

A decimal number that is not an integer is read in two roundings: its significant digits become a
double, and that is multiplied or divided by a power of ten which is itself a double. The result
can differ in the last place from the double nearest to the number; it is what the format
prescribes, so the steps are kept apart here.
-/

namespace Dialogs.Decimal

/-- The double nearest to a natural number below `2 ^ 64`. -/
def ofNatural (value : Nat) : Double := (Double.ofFraction? false value 1).getD Double.zero

/-- The double nearest to a power of ten up to `10 ^ 308`. -/
def powerOfTen (exponent : Nat) : Double := ofNatural (Nat.pow 10 exponent)

/-- The product of two finite doubles without sign, if it is finite. -/
def multiply? (x y : Double) : Option Double :=
  Double.ofFraction? false (x.magnitude.1 * y.magnitude.1) (x.magnitude.2 * y.magnitude.2)

/-- The quotient of two finite doubles without sign. -/
def divide (x y : Double) : Double :=
  (Double.ofFraction? false (x.magnitude.1 * y.magnitude.2)
    (x.magnitude.2 * y.magnitude.1)).getD Double.zero

/-- Divides by a power of ten of any size, `10 ^ 308` at a time. A value that has become zero stays
zero. -/
def scaleDown : (fuel : Nat) → Double → (exponent : Nat) → Double
  | 0, _, _ => Double.zero
  | fuel + 1, x, exponent =>
    if exponent ≤ 308 then divide x (powerOfTen exponent)
    else if x.isZero then x
    else scaleDown fuel (divide x (powerOfTen 308)) (exponent - 308)

/-- The double for `significand * 10 ^ exponent`, if it is finite. A zero stays zero under every
scaling. Three divisions by `10 ^ 308` take every significand below `2 ^ 64` to zero. -/
def scale? (significand : Nat) (exponent : Int) : Option Double :=
  let x := ofNatural significand
  if exponent < 0 then some (scaleDown 4 x exponent.natAbs)
  else if exponent ≤ 308 then multiply? x (powerOfTen exponent.natAbs)
  else if x.isZero then some x
  else none

end Dialogs.Decimal
