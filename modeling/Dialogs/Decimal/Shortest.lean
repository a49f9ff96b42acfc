import Dialogs.Decimal.Double

/-!
# Shortest decimal digits

A finite double stands for the whole interval of real numbers that round to it. The shortest
decimal number in that interval is found by trying grids of one, two, and up to seventeen
significant digits: if a grid has a point in the interval, then one of the two grid points around
the value is such a point. The nearer of the two wins, and the even one of two that are equally
near.
-/

namespace Dialogs.Decimal

/-- A decimal number `digits * 10 ^ exponent`. -/
structure Scientific where
  digits : Nat
  exponent : Int
  deriving DecidableEq, Repr

/-- The same number with no trailing zero in its digits; `fuel` bounds the zeros. -/
def Scientific.dropZeros : (fuel : Nat) → Scientific → Scientific
  | 0, number => number
  | fuel + 1, number =>
    if number.digits ≠ 0 ∧ number.digits % 10 = 0 then
      dropZeros fuel ⟨number.digits / 10, number.exponent + 1⟩
    else number

/-- The interval of the real numbers that round to a double, as three numerators over one
denominator: the lower end, the value and the upper end. The ends belong to the interval when
`closed`. -/
structure Span where
  lower : Nat
  value : Nat
  upper : Nat
  denominator : Nat
  closed : Bool

/-- The interval around a positive finite double: half a unit in the last place to either side,
but a quarter below a power of two, where the units become smaller. -/
def Span.around (x : Double) : Span :=
  let scale := Nat.pow 2 x.power.toNat
  let atPowerOfTwo := x.fractionBits = 0 ∧ 1 < x.exponentBits
  { lower := (4 * x.significand - if atPowerOfTwo then 1 else 2) * scale
    value := 4 * x.significand * scale
    upper := (4 * x.significand + 2) * scale
    denominator := 4 * Nat.pow 2 (-x.power).toNat
    closed := x.significand % 2 = 0 }

/-- Whether a numerator over the denominator of the span lies in it. -/
def Span.contains (span : Span) (numerator : Nat) : Bool :=
  if span.closed then span.lower ≤ numerator && numerator ≤ span.upper
  else span.lower < numerator && numerator < span.upper

/-- The span with its numerators and its denominator scaled so that the points of the grid
`10 ^ exponent` are the multiples of the second result. -/
def Span.onGrid (span : Span) (exponent : Int) : Span × Nat :=
  let factor := Nat.pow 10 (-exponent).toNat
  ({ span with
      lower := span.lower * factor
      value := span.value * factor
      upper := span.upper * factor },
    span.denominator * Nat.pow 10 exponent.toNat)

/-- The grid point in the span that is nearest to its value, if either neighbour of the value on
the grid `10 ^ exponent` lies in the span. -/
def Span.nearestOnGrid? (span : Span) (exponent : Int) : Option Scientific :=
  let (span, unit) := span.onGrid exponent
  let below := span.value / unit
  let distanceBelow := span.value - below * unit
  let distanceAbove := (below + 1) * unit - span.value
  let admitsBelow := span.contains (below * unit)
  let admitsAbove := span.contains ((below + 1) * unit)
  let preferAbove := distanceAbove < distanceBelow ∨
    (distanceAbove = distanceBelow ∧ below % 2 = 1)
  if admitsAbove ∧ (¬ admitsBelow ∨ preferAbove) then some ⟨below + 1, exponent⟩
  else if admitsBelow then some ⟨below, exponent⟩
  else none

/-- The exponent of the leading decimal digit of a fraction below one: the number of times that it
has to be taken tenfold to reach one, negated. -/
def leadingBelowOne (numerator denominator : Nat) : (fuel tenfolds : Nat) → Int
  | 0, tenfolds => -(tenfolds : Int)
  | fuel + 1, tenfolds =>
    if denominator ≤ numerator * Nat.pow 10 tenfolds then -(tenfolds : Int)
    else leadingBelowOne numerator denominator fuel (tenfolds + 1)

/-- The exponent of the leading decimal digit of a positive fraction. -/
def leadingExponent (numerator denominator : Nat) : Int :=
  if denominator ≤ numerator then
    ((Nat.toDigits 10 (numerator / denominator)).length : Int) - 1
  else leadingBelowOne numerator denominator 400 0

/-- Tries grids of growing precision; `exponent` is that of the first grid. -/
def Span.shortestFrom (span : Span) : (grids : Nat) → (exponent : Int) → Scientific
  | 0, exponent => ⟨0, exponent⟩
  | grids + 1, exponent =>
    match span.nearestOnGrid? exponent with
    | some found => found
    | none => span.shortestFrom grids (exponent - 1)

/-- The shortest decimal number that rounds to a finite double, up to the sign. -/
def shortest (x : Double) : Scientific :=
  if x.isZero then ⟨0, 0⟩
  else
    let span := Span.around x
    (span.shortestFrom 18 (leadingExponent span.value span.denominator)).dropZeros 20

end Dialogs.Decimal
