/-!
# Integer texts

Reading a decimal integer of a bounded range. The digits are ASCII, a sign may stand in front, and
leading zeros are harmless. The digits are taken from the left, so of an overflow and a foreign
character the one further left is reported.

Characters and numbers can also be written in hexadecimal digits of either case.
-/

namespace Dialogs.Text

/-- Why a text is not an integer of the wanted range. -/
inductive IntegerFault where
  | empty
  | invalidDigit
  | tooLarge
  | tooSmall
  deriving DecidableEq, Repr

/-- The wording of an integer fault. -/
def IntegerFault.message : IntegerFault → String
  | .empty => "cannot parse integer from empty string"
  | .invalidDigit => "invalid digit found in string"
  | .tooLarge => "number too large to fit in target type"
  | .tooSmall => "number too small to fit in target type"

/-- The largest unsigned 64-bit number. -/
def largestUnsigned64 : Nat := 18446744073709551615

/-- The largest signed 64-bit number. -/
def largestSigned64 : Nat := 9223372036854775807

/-- The largest signed 32-bit number. -/
def largestSigned32 : Nat := 2147483647

/-- The value of an ASCII digit. -/
def digitValue? (c : Char) : Option Nat :=
  if '0' ≤ c ∧ c ≤ '9' then some (c.toNat - '0'.toNat) else none

/-- Reads digits from the left, up to and including `limit`; `overflow` is the fault of a larger
value. -/
def readDigits (limit : Nat) (overflow : IntegerFault) :
    (value : Nat) → List Char → Except IntegerFault Nat
  | value, [] => .ok value
  | value, c :: rest =>
    match digitValue? c with
    | none => .error .invalidDigit
    | some digit =>
      if limit < value * 10 + digit then .error overflow
      else readDigits limit overflow (value * 10 + digit) rest

/-- Reads an integer from `0` to `limit`, with an optional plus sign. -/
def readNatural (limit : Nat) : List Char → Except IntegerFault Nat
  | [] => .error .empty
  | '+' :: c :: rest => readDigits limit .tooLarge 0 (c :: rest)
  | text => readDigits limit .tooLarge 0 text

/-- Reads an integer from `-low` to `high`, with an optional sign. -/
def readInteger (low high : Nat) : List Char → Except IntegerFault Int
  | [] => .error .empty
  | '+' :: c :: rest => (readDigits high .tooLarge 0 (c :: rest)).map Int.ofNat
  | '-' :: c :: rest => (readDigits low .tooSmall 0 (c :: rest)).map fun value => -(value : Int)
  | text => (readDigits high .tooLarge 0 text).map Int.ofNat

/-! ### Hexadecimal digits -/

/-- The value of a hexadecimal digit. -/
def hexValue? (c : Char) : Option Nat :=
  if c.isDigit then some (c.toNat - '0'.toNat)
  else if 'a' ≤ c && c ≤ 'f' then some (c.toNat - 'a'.toNat + 10)
  else if 'A' ≤ c && c ≤ 'F' then some (c.toNat - 'A'.toNat + 10)
  else none

/-- The number that some hexadecimal digits denote. -/
def hexNumber? (digits : List Char) : Option Nat :=
  digits.foldlM (fun value digit => do return value * 16 + (← hexValue? digit)) 0

/-- The character with a number, if there is one. -/
def charOfNumber? (number : Nat) : Option Char :=
  if valid : number.isValidChar then some (Char.ofNatAux number valid) else none

/-- The character that the first `length` characters of a text denote as hexadecimal digits. -/
def hexChar? (length : Nat) (text : List Char) : Option Char := do
  let digits := text.take length
  if digits.length < length then none
  charOfNumber? (← hexNumber? digits)

end Dialogs.Text
