import Dialogs.Json.Basic
import Dialogs.Json.Fault
import Dialogs.Decimal.Scaling

/-!
# Numerals

The written form of a JSON number and the number it stands for. An integer that fits a 64-bit word
is kept exactly; every other numeral denotes a double. Its significant digits are gathered from the
left as long as they fit an unsigned 64-bit word. The digits of the whole part that no longer fit
count as powers of ten, and those of the fraction are dropped.

Main statements: no scanner leaves more text than it was given.
-/

namespace Dialogs.Json

/-- What a scanner finds at the start of a text, and the text behind it. -/
structure Scan (α : Type) where
  found : Except Fault α
  rest : List Char

/-- The written form of a number, as the values of its digits. -/
structure Numeral where
  negative : Bool
  whole : List Nat
  fraction : List Nat
  /-- Whether a fraction or an exponent is written. -/
  integral : Bool
  negativeExponent : Bool
  exponent : List Nat

/-- The digits at the start of a text. -/
def leadingDigits (text : List Char) : List Nat :=
  (text.takeWhile Char.isDigit).map fun c => c.toNat - '0'.toNat

/-- The text behind the digits at its start. -/
def behindDigits (text : List Char) : List Char := text.dropWhile Char.isDigit

/-- Gathers digits behind `value` as long as the result stays below `limit`: the result, and the
number of digits gathered. -/
def gather (limit : Nat) : (value gathered : Nat) → List Nat → Nat × Nat
  | value, gathered, [] => (value, gathered)
  | value, gathered, digit :: rest =>
    if value * 10 + digit < limit then gather limit (value * 10 + digit) (gathered + 1) rest
    else (value, gathered)

/-- The first number that is too large for the digits of a numeral, `2 ^ 64`. -/
def wordEnd : Nat := 18446744073709551616

/-- The first number that is too large for the exponent of a numeral, `2 ^ 31`. -/
def exponentEnd : Nat := 2147483648

/-- The double of a numeral, if it is finite. -/
def Numeral.double? (numeral : Numeral) : Option Double :=
  let (whole, wholeGathered) := gather wordEnd 0 0 numeral.whole
  let (significand, fractionGathered) := gather wordEnd whole 0 numeral.fraction
  let shift : Int := ((numeral.whole.length - wholeGathered : Nat) : Int) - fractionGathered
  let (exponent, exponentGathered) := gather exponentEnd 0 0 numeral.exponent
  let magnitude :=
    if exponentGathered < numeral.exponent.length then
      if significand ≠ 0 ∧ ¬ numeral.negativeExponent then none else some Double.zero
    else
      Decimal.scale? significand
        (if numeral.negativeExponent then shift - exponent else shift + exponent)
  magnitude.map fun x => if numeral.negative then x.negate else x

/-- The number of a numeral, if there is one: a double that is not finite is none. A negative zero
is a double. -/
def Numeral.number? (numeral : Numeral) : Option Number :=
  let (whole, gathered) := gather wordEnd 0 0 numeral.whole
  if numeral.integral ∧ gathered = numeral.whole.length then
    if numeral.negative then
      if range : 0 < whole ∧ whole ≤ 9223372036854775808 then
        some (.integer (-(whole : Int)) (by omega) (by omega))
      else numeral.double?.map .double
    else if range : whole < 18446744073709551616 then
      some (.integer whole (by omega) (by omega))
    else none
  else numeral.double?.map .double

/-- Scans the exponent of a numeral behind its letter. -/
def scanExponent (numeral : Numeral) (text : List Char) : Scan Numeral :=
  let (negative, digits) := match text with
    | '+' :: rest => (false, rest)
    | '-' :: rest => (true, rest)
    | rest => (false, rest)
  match leadingDigits digits with
  | [] =>
    ⟨.error ⟨if digits.isEmpty then .endInValue else .invalidNumber, some .invalidNumber⟩, digits⟩
  | exponent =>
    ⟨.ok { numeral with integral := false, negativeExponent := negative, exponent },
      behindDigits digits⟩

/-- Scans what may follow the fraction of a numeral. -/
def scanAfterFraction (numeral : Numeral) : List Char → Scan Numeral
  | 'e' :: rest => scanExponent numeral rest
  | 'E' :: rest => scanExponent numeral rest
  | rest => ⟨.ok numeral, rest⟩

/-- Scans what may follow the whole part of a numeral. -/
def scanAfterWhole (numeral : Numeral) : List Char → Scan Numeral
  | '.' :: rest =>
    match leadingDigits rest with
    | [] => ⟨.error ⟨if rest.isEmpty then .endInValue else .invalidNumber, some .invalidNumber⟩, rest⟩
    | fraction => scanAfterFraction { numeral with integral := false, fraction } (behindDigits rest)
  | rest => scanAfterFraction numeral rest

/-- Scans a numeral behind its sign. The whole part starts with a zero only if it is one. -/
def scanUnsigned (negative : Bool) (text : List Char) : Scan Numeral :=
  match leadingDigits text with
  | [] => ⟨.error ⟨if text.isEmpty then .endInValue else .invalidNumber, some .invalidNumber⟩, text⟩
  | 0 :: _ :: _ => ⟨.error (.always .invalidNumber), behindDigits text⟩
  | whole => scanAfterWhole ⟨negative, whole, [], true, false, []⟩ (behindDigits text)

/-- Scans a number at the start of a text. -/
def scanNumber (text : List Char) : Scan Number :=
  let scan := match text with
    | '-' :: rest => scanUnsigned true rest
    | rest => scanUnsigned false rest
  match scan.found with
  | .error fault => ⟨.error fault, scan.rest⟩
  | .ok numeral =>
    match numeral.number? with
    | none => ⟨.error (.reading .numberOutOfRange), scan.rest⟩
    | some value => ⟨.ok value, scan.rest⟩

/-- Behind the digits of a text is no more than the text. -/
theorem length_behindDigits_le (text : List Char) :
    (behindDigits text).length ≤ text.length := by
  simpa [behindDigits] using (List.dropWhile_suffix Char.isDigit (l := text)).length_le

/-- An exponent leaves no more than the text it starts. -/
theorem length_scanExponent_le (numeral : Numeral) (text : List Char) :
    (scanExponent numeral text).rest.length ≤ text.length := by
  unfold scanExponent
  split
  rename_i negative digits signed
  have shorter : digits.length ≤ text.length := by
    split at signed
    · obtain ⟨-, rfl⟩ := Prod.mk.inj signed
      exact Nat.le_succ _
    · obtain ⟨-, rfl⟩ := Prod.mk.inj signed
      exact Nat.le_succ _
    · obtain ⟨-, rfl⟩ := Prod.mk.inj signed
      exact Nat.le_refl _
  split
  · exact shorter
  · exact Nat.le_trans (length_behindDigits_le digits) shorter

/-- What follows a fraction leaves no more than the text it starts. -/
theorem length_scanAfterFraction_le (numeral : Numeral) (text : List Char) :
    (scanAfterFraction numeral text).rest.length ≤ text.length := by
  unfold scanAfterFraction
  split
  · exact Nat.le_succ_of_le (length_scanExponent_le _ _)
  · exact Nat.le_succ_of_le (length_scanExponent_le _ _)
  · exact Nat.le_refl _

/-- What follows a whole part leaves no more than the text it starts. -/
theorem length_scanAfterWhole_le (numeral : Numeral) (text : List Char) :
    (scanAfterWhole numeral text).rest.length ≤ text.length := by
  unfold scanAfterWhole
  split
  · split
    · simp
    · exact Nat.le_succ_of_le
        (Nat.le_trans (length_scanAfterFraction_le _ _) (length_behindDigits_le _))
  · exact length_scanAfterFraction_le _ _

/-- A numeral leaves no more than the text it starts. -/
theorem length_scanUnsigned_le (negative : Bool) (text : List Char) :
    (scanUnsigned negative text).rest.length ≤ text.length := by
  unfold scanUnsigned
  split
  · exact Nat.le_refl _
  · exact length_behindDigits_le _
  · exact Nat.le_trans (length_scanAfterWhole_le _ _) (length_behindDigits_le _)

/-- A numeral that starts with a digit takes that digit. -/
theorem length_scanUnsigned_cons_le (negative : Bool) {c : Char} (isDigit : c.isDigit = true)
    (rest : List Char) :
    (scanUnsigned negative (c :: rest)).rest.length ≤ rest.length := by
  have shorter : (behindDigits (c :: rest)).length ≤ rest.length := by
    have same : behindDigits (c :: rest) = behindDigits rest := by simp [behindDigits, isDigit]
    exact same ▸ length_behindDigits_le rest
  unfold scanUnsigned
  split
  · rename_i none
    simp [leadingDigits, isDigit] at none
  · exact shorter
  · exact Nat.le_trans (length_scanAfterWhole_le _ _) shorter

/-- A number that starts with a sign or a digit takes that character. -/
theorem length_scanNumber_cons_le {c : Char} (starts : c = '-' ∨ c.isDigit = true)
    (rest : List Char) : (scanNumber (c :: rest)).rest.length ≤ rest.length := by
  have bound : (match c :: rest with
      | '-' :: rest => scanUnsigned true rest
      | rest => scanUnsigned false rest).rest.length ≤ rest.length := by
    split
    · rename_i same
      cases same
      exact length_scanUnsigned_le true rest
    · rename_i different
      rcases starts with rfl | isDigit
      · exact absurd rfl (different rest)
      · exact length_scanUnsigned_cons_le false isDigit rest
  unfold scanNumber
  simp only
  split
  · exact bound
  · split <;> exact bound

end Dialogs.Json
