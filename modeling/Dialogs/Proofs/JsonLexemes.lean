import Dialogs.Json.Printer
import Dialogs.Json.Lexeme

/-!
# The lexemes of compact text

Compact text is cut into lexemes exactly where the printer put its parts together. Each part is
scanned in front of any text that may follow it, and what follows is left as it is: a string ends
at its own quote, since each quote in it is escaped, and a numeral ends before a character that
cannot belong to one. A double is the exception: how its decimal text is read is not said here.
-/

namespace Dialogs.Json

/-! ## Strings -/

/-- Four digits of a control character denote its code. -/
theorem hexCode_controlDigits {code : Nat} (control : code < 32) (rest : List Char) :
    hexCode (controlDigits code ++ rest) = .ok code := by
  have wide : ∀ code < 32,
      ¬ (controlDigits code).foldl (fun size c => size + c.utf8Size) 0 < 4 := by decide
  have denoted : ∀ code < 32, Text.hexNumber? (controlDigits code) = some code := by decide
  have taken : (controlDigits code ++ rest).take 4 = controlDigits code := rfl
  rw [hexCode, taken, if_neg (wide code control), denoted code control]

/-- A letter behind a backslash is read as what it stands for. -/
theorem scanString_simpleEscape {letter meant : Char} (simple : simpleEscape? letter = some meant)
    (read rest : List Char) :
    scanString read none ('\\' :: letter :: rest) = scanString (meant :: read) none rest := by
  have notHex : letter ≠ 'u' := by
    rintro rfl
    cases simple
  rw [scanString.eq_def]
  simp [simple]

/-- An escaped control character is read as the character. -/
theorem scanString_controlEscape {c : Char} (control : c < ' ') (read rest : List Char) :
    scanString read none ('\\' :: 'u' :: (controlDigits c.toNat ++ rest)) =
      scanString (c :: read) none rest := by
  have small : c.toNat < 32 := control
  rw [scanString.eq_def]
  have unit : ∀ text, unitCharacter c.toNat text = .ok (c, 0) := by
    intro text
    unfold unitCharacter
    rw [if_neg (by omega), if_pos (by omega), Char.ofNat_toNat]
  simp only [hexCode_controlDigits small, unit]
  rfl

/-- The form of a character inside a string is read as the character. -/
theorem scanString_escapeChar (read : List Char) (c : Char) (rest : List Char) :
    scanString read none (escapeChar c ++ rest) = scanString (c :: read) none rest := by
  unfold escapeChar
  split
  case h_8 notQuote notBackslash _ _ _ _ _ =>
    split
    next control => exact scanString_controlEscape control read rest
    next printable =>
      rw [List.singleton_append, scanString, if_neg printable]
      · exact notQuote
      · exact notBackslash
  all_goals exact scanString_simpleEscape rfl read rest

/-- The characters of a string are read back behind its opening quote, and its closing quote ends
it. -/
theorem scanString_escaped (read text rest : List Char) :
    scanString read none (text.flatMap escapeChar ++ '"' :: rest) =
      ⟨.ok (String.ofList (read.reverse ++ text)), rest⟩ := by
  induction text generalizing read with
  | nil => simp [scanString]
  | cons c text inductionHypothesis =>
    rw [List.flatMap_cons, List.append_assoc, scanString_escapeChar, inductionHypothesis,
      List.reverse_cons, List.append_assoc, List.singleton_append]

/-! ## Numbers -/

/-- What may follow a value in compact text: nothing, or a comma or a closing bracket. -/
def Closes (rest : List Char) : Prop := ∀ c ∈ rest.head?, c = ',' ∨ c = ']' ∨ c = '\x7d'

/-- The values of decimal digits. -/
def digitValues (digits : List Char) : List Nat := digits.map fun c => c.toNat - '0'.toNat

/-- The number that the values of decimal digits denote behind a number. -/
def decimal (value : Nat) (digits : List Nat) : Nat :=
  digits.foldl (fun value digit => value * 10 + digit) value

/-- Further digits do not make a number smaller. -/
theorem le_decimal (value : Nat) (digits : List Nat) : value ≤ decimal value digits := by
  induction digits generalizing value with
  | nil => exact Nat.le_refl value
  | cons digit digits inductionHypothesis =>
    have grown : value ≤ value * 10 + digit := by omega
    exact Nat.le_trans grown (inductionHypothesis (value * 10 + digit))

/-- All digits of a number below the limit are gathered. -/
theorem gather_all {limit value : Nat} {digits : List Nat} (gathered : Nat)
    (fits : decimal value digits < limit) :
    gather limit value gathered digits = (decimal value digits, gathered + digits.length) := by
  induction digits generalizing value gathered with
  | nil => rfl
  | cons digit digits inductionHypothesis =>
    have first : value * 10 + digit < limit :=
      Nat.lt_of_le_of_lt (le_decimal (value * 10 + digit) digits) fits
    rw [gather, if_pos first, inductionHypothesis (gathered + 1) fits, List.length_cons]
    exact Prod.ext rfl (by simp only; omega)

/-- The digits of a number denote it. -/
theorem decimal_toDigits (number : Nat) :
    decimal 0 (digitValues (Nat.toDigits 10 number)) = number := by
  have denoted := Nat.ofDigitChars_toDigits (b := 10) (n := number) (by decide) (by decide)
  rw [Nat.ofDigitChars_eq_foldl] at denoted
  simpa only [decimal, digitValues, List.foldl_map, Nat.mul_comm] using denoted

/-- A number is written without a zero in front, unless it is zero. -/
theorem toDigits_head {number : Nat} (positive : 0 < number) :
    ∃ digit rest, Nat.toDigits 10 number = digit :: rest ∧ digit.toNat - '0'.toNat ≠ 0 := by
  induction number using Nat.strongRecOn with
  | ind number inductionHypothesis =>
    rw [Nat.toDigits_eq_if (by decide)]
    split
    · rename_i single
      have nonzero : ∀ number < 10, 0 < number → number.digitChar.toNat - '0'.toNat ≠ 0 := by decide
      exact ⟨_, [], rfl, nonzero number single positive⟩
    · obtain ⟨digit, rest, shape, nonzero⟩ :=
        inductionHypothesis (number / 10) (by omega) (by omega)
      exact ⟨digit, rest ++ [(number % 10).digitChar], by rw [shape, List.cons_append], nonzero⟩

/-- The text of a number starts with a digit. -/
theorem toDigits_first (number : Nat) :
    ∃ digit rest, Nat.toDigits 10 number = digit :: rest ∧ digit.isDigit = true := by
  obtain ⟨digit, rest, shape⟩ := List.exists_cons_of_ne_nil
    (Nat.toDigits_ne_nil (n := number) (b := 10))
  exact ⟨digit, rest, shape,
    Nat.isDigit_of_mem_toDigits (b := 10) (n := number) (by decide) (by decide) (by simp [shape])⟩

/-- The digits of a number are all in front of what may follow it. -/
theorem leadingDigits_toDigits (number : Nat) {rest : List Char} (closes : Closes rest) :
    leadingDigits (Nat.toDigits 10 number ++ rest) = digitValues (Nat.toDigits 10 number) ∧
      behindDigits (Nat.toDigits 10 number ++ rest) = rest := by
  have digits : ∀ c ∈ Nat.toDigits 10 number, c.isDigit = true := fun c inside =>
    Nat.isDigit_of_mem_toDigits (by decide) (by decide) inside
  have stops : rest.takeWhile Char.isDigit = [] ∧ rest.dropWhile Char.isDigit = rest := by
    cases rest with
    | nil => exact ⟨rfl, rfl⟩
    | cons c rest =>
      rcases closes c rfl with rfl | rfl | rfl <;> exact ⟨rfl, rfl⟩
  rw [leadingDigits, behindDigits, List.takeWhile_append_of_pos digits,
    List.dropWhile_append_of_pos digits, stops.1, stops.2, List.append_nil]
  exact ⟨rfl, rfl⟩

/-- What may follow a value belongs to no numeral. -/
theorem scanAfterWhole_closes (numeral : Numeral) {rest : List Char} (closes : Closes rest) :
    scanAfterWhole numeral rest = ⟨.ok numeral, rest⟩ := by
  cases rest with
  | nil => rfl
  | cons c rest => rcases closes c rfl with rfl | rfl | rfl <;> rfl

/-- The numeral of a whole number. -/
def wholeNumeral (negative : Bool) (number : Nat) : Numeral :=
  ⟨negative, digitValues (Nat.toDigits 10 number), [], true, false, []⟩

/-- The digits of a number are scanned as its numeral. -/
theorem scanUnsigned_toDigits (negative : Bool) (number : Nat) {rest : List Char}
    (closes : Closes rest) :
    scanUnsigned negative (Nat.toDigits 10 number ++ rest) =
      ⟨.ok (wholeNumeral negative number), rest⟩ := by
  obtain ⟨leading, behind⟩ := leadingDigits_toDigits number closes
  unfold scanUnsigned
  rw [leading, behind]
  split
  · rename_i empty
    simp [digitValues, Nat.toDigits_ne_nil] at empty
  · rename_i zeros
    rcases Nat.eq_zero_or_pos number with rfl | positive
    · cases zeros
    · obtain ⟨digit, others, shape, nonzero⟩ := toDigits_head positive
      rw [shape, digitValues, List.map_cons, List.cons.injEq] at zeros
      exact absurd zeros.1 nonzero
  · exact scanAfterWhole_closes _ closes

/-- A natural number that fits a word is the number of its numeral. -/
theorem number?_natural {number : Nat} (fits : number < wordEnd) :
    (wholeNumeral false number).number? =
      some (.integer number (by omega) (Int.ofNat_lt.mpr fits)) := by
  have gathered := gather_all 0 ((decimal_toDigits number).symm ▸ fits)
  simp only [Numeral.number?, wholeNumeral, gathered, decimal_toDigits]
  simp [show number < 18446744073709551616 from fits]

/-- So is a negative number that fits a word. -/
theorem number?_negative {number : Nat} (positive : 0 < number)
    (fits : number ≤ 9223372036854775808) :
    (wholeNumeral true number).number? = some (.integer (-number) (by omega) (by omega)) := by
  have small : number < wordEnd := by simp only [wordEnd]; omega
  have gathered := gather_all 0 ((decimal_toDigits number).symm ▸ small)
  simp only [Numeral.number?, wholeNumeral, gathered, decimal_toDigits]
  simp [positive, fits]

/-- The text of a natural number are its digits. -/
theorem text_ofNat {number : Nat} (lower : -9223372036854775808 ≤ Int.ofNat number)
    (upper : Int.ofNat number < 18446744073709551616) :
    (Number.integer (.ofNat number) lower upper).text.toList = Nat.toDigits 10 number :=
  Nat.toList_repr

/-- The text of a negative number is a sign and digits. -/
theorem text_negSucc {number : Nat} (lower : -9223372036854775808 ≤ Int.negSucc number)
    (upper : Int.negSucc number < 18446744073709551616) :
    (Number.integer (.negSucc number) lower upper).text.toList =
      '-' :: Nat.toDigits 10 (number + 1) := by
  simp [Number.text, Int.toString_eq_repr, Int.repr]

/-- The text of an integer is scanned as the integer. -/
theorem scanNumber_integer {value : Int} (lower : -9223372036854775808 ≤ value)
    (upper : value < 18446744073709551616) {rest : List Char} (closes : Closes rest) :
    scanNumber ((Number.integer value lower upper).text.toList ++ rest) =
      ⟨.ok (.integer value lower upper), rest⟩ := by
  cases value with
  | ofNat number =>
    have fits : number < wordEnd := Int.ofNat_lt.mp upper
    obtain ⟨digit, digits, shape, isDigit⟩ := toDigits_first number
    have unsigned : digit ≠ '-' := by
      rintro rfl
      cases isDigit
    have scanned := scanUnsigned_toDigits false number closes
    rw [shape, List.cons_append] at scanned
    rw [text_ofNat, shape, List.cons_append]
    unfold scanNumber
    split
    next signed => exact absurd (List.cons.inj signed).1 unsigned
    next =>
      simp only [scanned, number?_natural fits]
      rfl
  | negSucc number =>
    have fits : number + 1 ≤ 9223372036854775808 := by omega
    have scanned := scanUnsigned_toDigits true (number + 1) closes
    rw [text_negSucc, List.cons_append, scanNumber]
    simp only [scanned, number?_negative (Nat.succ_pos number) fits]
    rfl

/-- The text of an integer has only digits and a sign in it. -/
theorem integer_chars {value : Int} (lower : -9223372036854775808 ≤ value)
    (upper : value < 18446744073709551616) {c : Char}
    (inside : c ∈ (Number.integer value lower upper).text.toList) :
    c = '-' ∨ c.isDigit = true := by
  have digits : ∀ number, c ∈ Nat.toDigits 10 number → c.isDigit = true := fun _ written =>
    Nat.isDigit_of_mem_toDigits (by decide) (by decide) written
  cases value with
  | ofNat number =>
    rw [text_ofNat] at inside
    exact .inr (digits number inside)
  | negSucc number =>
    rw [text_negSucc, List.mem_cons] at inside
    exact inside.imp_right (digits (number + 1))

/-- The text of an integer starts with a sign or a digit. -/
theorem integer_first {value : Int} (lower : -9223372036854775808 ≤ value)
    (upper : value < 18446744073709551616) :
    ∃ first rest, (Number.integer value lower upper).text.toList = first :: rest ∧
      (first = '-' ∨ first.isDigit = true) := by
  have filled : (Number.integer value lower upper).text.toList ≠ [] := by
    cases value with
    | ofNat number =>
      rw [text_ofNat]
      exact Nat.toDigits_ne_nil
    | negSucc number =>
      rw [text_negSucc]
      exact List.cons_ne_nil _ _
  obtain ⟨first, rest, shape⟩ := List.exists_cons_of_ne_nil filled
  exact ⟨first, rest, shape, integer_chars lower upper (shape ▸ List.mem_cons_self)⟩

/-! ## Lexemes -/

/-- A lexeme behind which the text can be read on is followed by the lexemes of that text. -/
theorem lexemes_cons {first : Char} {rest : List Char} (solid : isGap first = false)
    (more : (scanLexeme first rest).1.isLast = false) :
    lexemes (first :: rest) = (scanLexeme first rest).1 :: lexemes (scanLexeme first rest).2 := by
  rw [lexemes]
  simp [solid, more]

/-- A bracket, comma or colon is a lexeme. -/
theorem lexemes_punctuation {c : Char} {lexeme : Lexeme} (mark : punctuation? c = some lexeme)
    (rest : List Char) : lexemes (c :: rest) = lexeme :: lexemes rest := by
  have scanned : scanLexeme c rest = (lexeme, rest) := by simp [scanLexeme, mark]
  have kinds : isGap c = false ∧ lexeme.isLast = false := by
    unfold punctuation? at mark
    split at mark <;> cases mark <;> exact ⟨rfl, rfl⟩
  rw [lexemes_cons kinds.1 (by rw [scanned]; exact kinds.2), scanned]

/-- The letters of a word are scanned as its value. -/
theorem scanWord_letters (value : Json) (letters rest : List Char) :
    scanWord value letters (letters ++ rest) = ⟨.ok value, rest⟩ := by
  induction letters with
  | nil => rw [List.nil_append, scanWord]
  | cons letter letters inductionHypothesis =>
    rw [List.cons_append, scanWord, if_pos rfl, inductionHypothesis]

/-- A word is a lexeme. -/
theorem lexemes_word {c : Char} {value : Json} {letters : List Char}
    (word : word? c = some (value, letters)) (rest : List Char) :
    lexemes (c :: letters ++ rest) = .scalar (.ok value) :: lexemes rest := by
  have kinds : isGap c = false ∧ punctuation? c = none := by
    unfold word? at word
    split at word <;> first | exact ⟨rfl, rfl⟩ | cases word
  have scanned : scanLexeme c (letters ++ rest) = (.scalar (.ok value), rest) := by
    simp [scanLexeme, kinds.2, word, scanWord_letters]
  rw [List.cons_append, lexemes_cons kinds.1 (by rw [scanned]; rfl), scanned]

/-- A string with its quotes is a lexeme. -/
theorem lexemes_string (text : String) (rest : List Char) :
    lexemes (stringChars text ++ rest) = .string (.ok text) :: lexemes rest := by
  have scanned : scanLexeme '"' (text.toList.flatMap escapeChar ++ ['"'] ++ rest) =
      (.string (.ok text), rest) := by
    simp [scanLexeme, punctuation?, word?, scanString_escaped]
  rw [stringChars, List.cons_append, lexemes_cons rfl (by rw [scanned]; rfl), scanned]

/-- A sign or a digit starts no other lexeme than a number. -/
theorem starts_number {c : Char} (starts : c = '-' ∨ c.isDigit = true) :
    isGap c = false ∧ punctuation? c = none ∧ word? c = none ∧ c ≠ '"' := by
  rcases starts with rfl | isDigit
  · decide
  · refine ⟨?_, ?_, ?_, ?_⟩
    · simp only [isGap, Bool.or_eq_false_iff, beq_eq_false_iff_ne]
      refine ⟨⟨⟨?_, ?_⟩, ?_⟩, ?_⟩ <;> rintro rfl <;> cases isDigit
    · unfold punctuation?
      split <;> first | rfl | cases isDigit
    · unfold word?
      split <;> first | rfl | cases isDigit
    · rintro rfl
      cases isDigit

/-- An integer is a lexeme in front of what may follow a value. -/
theorem lexemes_integer {value : Int} (lower : -9223372036854775808 ≤ value)
    (upper : value < 18446744073709551616) {rest : List Char} (closes : Closes rest) :
    lexemes ((Number.integer value lower upper).text.toList ++ rest) =
      .scalar (.ok (.number (.integer value lower upper))) :: lexemes rest := by
  obtain ⟨first, others, shape, starts⟩ := integer_first lower upper
  have number := scanNumber_integer lower upper closes
  rw [shape, List.cons_append] at number ⊢
  have kinds := starts_number starts
  have scanned : scanLexeme first (others ++ rest) =
      (.scalar (.ok (.number (.integer value lower upper))), rest) := by
    simp [scanLexeme, kinds, starts, number]
    rfl
  rw [lexemes_cons kinds.1 (by rw [scanned]; rfl), scanned]

end Dialogs.Json
