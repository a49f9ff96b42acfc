import Dialogs.Decimal.Shortest

/-!
# The layout of decimal numbers

Where a number is written in positional notation and where with an exponent is a decision of the
format that the number stands in, and is collected in one record.
-/

namespace Dialogs.Decimal

/-- How a floating-point number is laid out. -/
structure Layout where
  /-- Positional notation is used when the leading digit stands at an exponent in this range. -/
  lowestPositional : Int
  highestPositional : Int
  /-- What is written behind the digits of an integral number in positional notation. -/
  integralTail : String
  /-- The sign that is written before a positive exponent. -/
  positiveExponent : String

/-- The positional notation of `digits * 10 ^ exponent`. -/
def positional (layout : Layout) (digits : String) (exponent : Int) : String :=
  let point := (digits.length : Int) + exponent
  if 0 ≤ exponent then
    digits ++ String.ofList (List.replicate exponent.toNat '0') ++ layout.integralTail
  else if 0 < point then
    String.ofList (digits.toList.take point.toNat) ++ "." ++
      String.ofList (digits.toList.drop point.toNat)
  else "0." ++ String.ofList (List.replicate (-point).toNat '0') ++ digits

/-- The notation with an exponent: one digit, the rest behind a point, and the exponent of the
leading digit. -/
def withExponent (layout : Layout) (digits : String) (leading : Int) : String :=
  let fraction := String.ofList (digits.toList.drop 1)
  String.ofList (digits.toList.take 1) ++ (if fraction.isEmpty then "" else "." ++ fraction) ++
    "e" ++ (if 0 ≤ leading then layout.positiveExponent else "-") ++ toString leading.natAbs

/-- The text of a finite double. -/
def Layout.text (layout : Layout) (x : Double) : String :=
  let number := shortest x
  let digits := toString number.digits
  let leading := (digits.length : Int) - 1 + number.exponent
  (if x.isNegative then "-" else "") ++
    if layout.lowestPositional ≤ leading ∧ leading ≤ layout.highestPositional then
      positional layout digits number.exponent
    else withExponent layout digits leading

end Dialogs.Decimal
