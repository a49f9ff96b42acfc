import Dialogs.Decimal.Double

/-!
# Reading a decimal number

A decimal number with a sign, a point and an exponent denotes the double that is nearest to it, with one
rounding at the end. A number beyond the range of doubles denotes an infinity, which can also be named,
and so can the value that is no number.
-/

namespace Dialogs

namespace Double

/-- The infinity of a sign. -/
def infinity (negative : Bool) : Double :=
  if negative then ⟨0xFFF0000000000000⟩ else ⟨0x7FF0000000000000⟩

/-- The value that is no number. -/
def notANumber : Double := ⟨0x7FF8000000000000⟩

/-- Whether the value is no number. -/
def isNotANumber (x : Double) : Bool := !x.isFinite && x.fractionBits != 0

end Double

namespace Decimal

/-- A number as it is written: `digits * 10 ^ exponent`, with the number of its digits. -/
structure Written where
  digits : Nat
  count : Nat
  exponent : Int
  deriving DecidableEq, Repr

/-- The double that is nearest to a number whose first digit is not zero. A number with more than 400 digits
in front of the point is beyond every double, and one with more than 330 zeros behind it is nearest to zero;
so no large power is computed. -/
def Written.double (negative : Bool) (number : Written) : Double :=
  let leading : Int := number.count + number.exponent
  let nearest :=
    if number.digits = 0 ∨ leading < -330 then Double.ofFraction? negative 0 1
    else if 400 < leading then none
    else
      Double.ofFraction? negative (number.digits * Nat.pow 10 number.exponent.toNat)
        (Nat.pow 10 (-number.exponent).toNat)
  nearest.getD (.infinity negative)

/-- The value of decimal digits. -/
def digitsValue (digits : List Char) : Nat :=
  digits.foldl (fun value c => value * 10 + (c.toNat - '0'.toNat)) 0

/-- The exponent behind its letter: a sign, and then digits to the end. -/
def readExponent (text : List Char) : Option Int :=
  let read (digits : List Char) : Option Int :=
    if !digits.isEmpty && digits.all Char.isDigit then some (digitsValue digits) else none
  match text with
  | '-' :: digits => (read digits).map fun value => -value
  | '+' :: digits => read digits
  | digits => read digits

/-- A number without sign: digits with a point among them, in front of them or behind them, and then perhaps
an exponent. -/
def readWritten (text : List Char) : Option Written := do
  let whole := text.takeWhile Char.isDigit
  let (fraction, rest) := match text.drop whole.length with
    | '.' :: rest =>
      let fraction := rest.takeWhile Char.isDigit
      (fraction, rest.drop fraction.length)
    | rest => ([], rest)
  let digits := whole ++ fraction
  if digits.isEmpty then none
  let exponent ← match rest with
    | [] => some 0
    | c :: rest => if c == 'e' || c == 'E' then readExponent rest else none
  let significant := digits.dropWhile (· == '0')
  return ⟨digitsValue significant, significant.length, exponent - fraction.length⟩

/-- The values that have names, in small letters. -/
def namedValue (negative : Bool) (name : String) : Option Double :=
  if name == "inf" || name == "infinity" then some (.infinity negative)
  else if name == "nan" then some .notANumber
  else none

/-- A number with an optional sign, or a named value in letters of either case. -/
def readDouble (text : List Char) : Option Double :=
  let (negative, body) := match text with
    | '-' :: rest => (true, rest)
    | '+' :: rest => (false, rest)
    | rest => (false, rest)
  match readWritten body with
  | some number => some (number.double negative)
  | none => namedValue negative (String.ofList (body.map Char.toLower))

end Decimal

end Dialogs
