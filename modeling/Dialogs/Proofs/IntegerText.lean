import Dialogs.Text.Blank
import Dialogs.Text.Integer
import Dialogs.Proofs.RecordFields

/-!
# Integers and their texts

Which texts are read as an integer, and as which: decimal digits, at least one, with at most one
sign in front, that denote an integer of the wanted range. A reader gives up at the first digit that
leads out of the range; since no later digit leads back into it, only the whole text counts.

The text that an integer is written as is one of those that it is read from.
-/

namespace Dialogs.Text

variable {c : Char} {text : List Char} {low high limit value result : Nat} {number : Int}
  {overflow : IntegerFault}

/-- The texts of an integer: decimal digits that denote it, and possibly a sign in front. -/
inductive Denotes : List Char → Int → Prop where
  | plain {digits : List Char} (filled : digits ≠ []) (decimal : ∀ c ∈ digits, c.isDigit = true) :
    Denotes digits (Nat.ofDigitChars 10 digits 0)
  | plus {digits : List Char} (filled : digits ≠ []) (decimal : ∀ c ∈ digits, c.isDigit = true) :
    Denotes ('+' :: digits) (Nat.ofDigitChars 10 digits 0)
  | minus {digits : List Char} (filled : digits ≠ []) (decimal : ∀ c ∈ digits, c.isDigit = true) :
    Denotes ('-' :: digits) (-(Nat.ofDigitChars 10 digits 0 : Int))

/-! ### Digits -/

/-- The characters with a value are the decimal digits. -/
theorem digitValue?_eq (c : Char) :
    digitValue? c = if c.isDigit then some (c.toNat - '0'.toNat) else none := by
  simp only [digitValue?, Char.isDigit_iff_toNat]
  rfl

/-- Further digits do not make a number smaller. -/
theorem le_ofDigitChars (digits : List Char) (value : Nat) :
    value ≤ Nat.ofDigitChars 10 digits value := by
  induction digits generalizing value with
  | nil => exact Nat.le_of_eq Nat.ofDigitChars_nil.symm
  | cons c rest inductionHypothesis =>
    have later := inductionHypothesis (10 * value + (c.toNat - '0'.toNat))
    rw [Nat.ofDigitChars_cons]
    omega

/-- Digits are read as the number that they denote, if it is within the limit.

Proof: a number beyond the limit stays beyond it, whatever digits follow, so it makes no difference
that reading ends there. -/
theorem readDigits_eq_ok_iff (start : value ≤ limit) :
    readDigits limit overflow value text = .ok result ↔
      (∀ c ∈ text, c.isDigit = true) ∧ Nat.ofDigitChars 10 text value = result ∧
        result ≤ limit := by
  induction text generalizing value with
  | nil =>
    rw [readDigits, Nat.ofDigitChars_nil, Except.ok.injEq]
    constructor
    · rintro rfl
      exact ⟨by simp, rfl, start⟩
    · exact fun denoted => denoted.2.1
  | cons c rest inductionHypothesis =>
    rw [readDigits, digitValue?_eq, Nat.ofDigitChars_cons, Nat.mul_comm 10 value,
      List.forall_mem_cons]
    by_cases digit : c.isDigit = true
    · rw [if_pos digit]
      simp only [digit, true_and]
      split
      · rename_i beyond
        have farther := le_ofDigitChars rest (value * 10 + (c.toNat - '0'.toNat))
        constructor
        · intro refused
          cases refused
        · rintro ⟨-, denoted, within⟩
          omega
      · rename_i within
        exact inductionHypothesis (Nat.le_of_not_lt within)
    · simp [digit]

/-! ### Integers -/

/-- A text of an integer has something in it. -/
theorem Denotes.ne_nil (denotes : Denotes text number) : text ≠ [] := by
  cases denotes with
  | plain filled => exact filled
  | plus => simp
  | minus => simp

/-- A text of an integer has only signs and digits in it. -/
theorem Denotes.sign_or_digit (denotes : Denotes text number) (inside : c ∈ text) :
    c = '+' ∨ c = '-' ∨ c.isDigit = true := by
  cases denotes with
  | plain filled decimal => exact .inr (.inr (decimal c inside))
  | plus filled decimal =>
    rcases List.mem_cons.mp inside with sign | later
    · exact .inl sign
    · exact .inr (.inr (decimal c later))
  | minus filled decimal =>
    rcases List.mem_cons.mp inside with sign | later
    · exact .inr (.inl sign)
    · exact .inr (.inr (decimal c later))

/-- Digits are read as what is made of the number that they denote, if it is within the limit. -/
theorem map_readDigits_eq_ok_iff (make : Nat → Int) :
    (readDigits limit overflow 0 text).map make = .ok number ↔
      (∀ c ∈ text, c.isDigit = true) ∧ make (Nat.ofDigitChars 10 text 0) = number ∧
        Nat.ofDigitChars 10 text 0 ≤ limit := by
  constructor
  · intro read
    obtain ⟨value, digits, made⟩ := Json.ok_of_map read
    obtain ⟨decimal, rfl, within⟩ := (readDigits_eq_ok_iff (Nat.zero_le _)).mp digits
    exact ⟨decimal, made, within⟩
  · rintro ⟨decimal, rfl, within⟩
    rw [(readDigits_eq_ok_iff (Nat.zero_le _)).mpr ⟨decimal, rfl, within⟩, Except.map]

/-- There are no blanks in a text of an integer. -/
theorem Denotes.solid (denotes : Denotes text number) (inside : c ∈ text) : isBlank c = false := by
  rcases denotes.sign_or_digit inside with rfl | rfl | digit
  · rfl
  · rfl
  · have range : 48 ≤ c.toNat ∧ c.toNat ≤ 57 := Char.isDigit_iff_toNat.mp digit
    simp [isBlank, blankRanges]
    omega

/-- A text that starts with a digit is read without a sign. -/
theorem readInteger_of_digit {rest : List Char} (digit : c.isDigit = true) :
    readInteger low high (c :: rest) =
      (readDigits high .tooLarge 0 (c :: rest)).map Int.ofNat := by
  have unsigned : c ≠ '+' ∧ c ≠ '-' := by
    constructor <;> (rintro rfl; cases digit)
  rw [readInteger]
  · exact nofun
  · rintro d later same
    exact unsigned.1 (List.cons.inj same).1
  · rintro d later same
    exact unsigned.2 (List.cons.inj same).1

/-- A text that starts with a minus sign is read as the negative of what stands behind the sign. -/
theorem readInteger_minus (c : Char) (rest : List Char) :
    readInteger low high ('-' :: c :: rest) =
      (readDigits low .tooSmall 0 (c :: rest)).map fun value => -Int.ofNat value := by
  rw [readInteger]
  cases readDigits low .tooSmall 0 (c :: rest) <;> rfl

/-- The texts that are read as an integer are those that denote it, if it is within the range. -/
theorem readInteger_eq_ok_iff :
    readInteger low high text = .ok number ↔
      Denotes text number ∧ -(low : Int) ≤ number ∧ number ≤ high := by
  constructor
  · intro read
    have opened := read
    rw [readInteger.eq_def] at opened
    split at opened
    next => cases opened
    next c rest =>
      obtain ⟨decimal, rfl, within⟩ := (map_readDigits_eq_ok_iff _).mp opened
      have lower : -(low : Int) ≤ Nat.ofDigitChars 10 (c :: rest) 0 := by omega
      exact ⟨.plus (List.cons_ne_nil c rest) decimal, lower, Int.ofNat_le.mpr within⟩
    next c rest =>
      rw [readInteger_minus] at read
      obtain ⟨decimal, rfl, within⟩ := (map_readDigits_eq_ok_iff _).mp read
      have upper : -(Nat.ofDigitChars 10 (c :: rest) 0 : Int) ≤ high := by omega
      exact ⟨.minus (List.cons_ne_nil c rest) decimal, Int.neg_le_neg (Int.ofNat_le.mpr within),
        upper⟩
    next filled _ _ =>
      obtain ⟨decimal, rfl, within⟩ := (map_readDigits_eq_ok_iff _).mp opened
      have lower : -(low : Int) ≤ Nat.ofDigitChars 10 text 0 := by omega
      exact ⟨.plain filled decimal, lower, Int.ofNat_le.mpr within⟩
  · rintro ⟨denotes, lower, upper⟩
    cases denotes with
    | @plain digits filled decimal =>
      obtain ⟨c, rest, rfl⟩ := List.exists_cons_of_ne_nil filled
      rw [readInteger_of_digit (decimal c List.mem_cons_self), map_readDigits_eq_ok_iff]
      exact ⟨decimal, rfl, Int.ofNat_le.mp upper⟩
    | @plus digits filled decimal =>
      obtain ⟨c, rest, rfl⟩ := List.exists_cons_of_ne_nil filled
      rw [readInteger, map_readDigits_eq_ok_iff]
      exact ⟨decimal, rfl, Int.ofNat_le.mp upper⟩
    | @minus digits filled decimal =>
      obtain ⟨c, rest, rfl⟩ := List.exists_cons_of_ne_nil filled
      rw [readInteger_minus, map_readDigits_eq_ok_iff]
      exact ⟨decimal, rfl, by omega⟩

/-- An integer is written as a text that denotes it. -/
theorem denotes_toString (number : Int) : Denotes (toString number).toList number := by
  have decimal : ∀ value, ∀ c ∈ Nat.toDigits 10 value, c.isDigit = true := fun _ _ inside =>
    Nat.isDigit_of_mem_toDigits (by decide) (by decide) inside
  cases number with
  | ofNat value =>
    have written : (toString (Int.ofNat value)).toList = Nat.toDigits 10 value := Nat.toList_repr
    have denotes := Denotes.plain Nat.toDigits_ne_nil (decimal value)
    rw [Nat.ofDigitChars_ten_toDigits] at denotes
    rwa [written]
  | negSucc value =>
    have written : (toString (Int.negSucc value)).toList = '-' :: Nat.toDigits 10 (value + 1) := by
      simp [Int.toString_eq_repr, Int.repr]
    have denotes := Denotes.minus Nat.toDigits_ne_nil (decimal (value + 1))
    rw [Nat.ofDigitChars_ten_toDigits] at denotes
    rwa [written]

end Dialogs.Text
