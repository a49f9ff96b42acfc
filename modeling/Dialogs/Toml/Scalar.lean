import Dialogs.Decimal.Reading
import Dialogs.Text.Integer
import Dialogs.Text.Pieces
import Dialogs.Toml.Table

/-!
# Scalars of TOML

Strings in four kinds of quotes, numbers with underscores between their digits, truth values and dates.
Each reader takes the front of a text and hands back the rest.
-/

namespace Dialogs.Toml

/-- Whether a character is a space or a tab. -/
def isSpace (c : Char) : Bool := c == ' ' || c == '\t'

/-- Whether a character may stand on a line: a tab, or no control character. -/
def isVisible (c : Char) : Bool := c == '\t' || (' ' ≤ c && c != '\x7f')

/-- The rest behind the end of a line. -/
def newline? : List Char → Option (List Char)
  | '\n' :: rest | '\r' :: '\n' :: rest => some rest
  | _ => none

/-- The characters that a letter behind a backslash stands for. -/
def escapes : List (Char × Char) :=
  [('b', '\x08'), ('t', '\t'), ('n', '\n'), ('f', '\x0c'), ('r', '\r'), ('"', '"'), ('\\', '\\')]

/-- An escape behind its backslash. -/
def readEscape : List Char → Option (Char × List Char)
  | [] => none
  | 'u' :: rest => (Text.hexChar? 4 rest).map fun meant => (meant, rest.drop 4)
  | 'U' :: rest => (Text.hexChar? 8 rest).map fun meant => (meant, rest.drop 8)
  | letter :: rest => (escapes.lookup letter).map fun meant => (meant, rest)

/-- A string behind its opening quote. Only double quotes have escapes. -/
def readShort (quote : Char) (fuel : Nat) (read : List Char) (text : List Char) :
    Option (String × List Char) :=
  match fuel, text with
  | 0, _ | _, [] => none
  | fuel + 1, c :: rest =>
    if c == quote then some (String.ofList read.reverse, rest)
    else if c == '\\' && quote == '"' then do
      let (meant, rest) ← readEscape rest
      readShort quote fuel (meant :: read) rest
    else if isVisible c then readShort quote fuel (c :: read) rest
    else none

/-- The rest behind the blanks and newlines that a backslash at the end of a line joins. -/
def joinedRest? (text : List Char) : Option (List Char) :=
  (newline? (text.dropWhile isSpace)).map fun rest =>
    rest.dropWhile fun c => isSpace c || c == '\n' || c == '\r'

/-- A string of several lines behind its three opening quotes. Up to two quotes may stand right in front of
the closing ones. -/
def readLong (quote : Char) (fuel : Nat) (read : List Char) (text : List Char) :
    Option (String × List Char) :=
  match fuel, text with
  | 0, _ | _, [] => none
  | fuel + 1, c :: rest =>
    if c == quote then
      let count := min 5 ((c :: rest).takeWhile (· == quote)).length
      let behind := (c :: rest).drop count
      if count < 3 then readLong quote fuel (List.replicate count quote ++ read) behind
      else some (String.ofList (read.reverse ++ List.replicate (count - 3) quote), behind)
    else if c == '\\' && quote == '"' then
      match joinedRest? rest with
      | some rest => readLong quote fuel read rest
      | none => do
        let (meant, rest) ← readEscape rest
        readLong quote fuel (meant :: read) rest
    else match newline? (c :: rest) with
      | some rest => readLong quote fuel ('\n' :: read) rest
      | none => if isVisible c then readLong quote fuel (c :: read) rest else none

/-- A string of one line. -/
def readLine : List Char → Option (String × List Char)
  | '"' :: rest => readShort '"' (rest.length + 1) [] rest
  | '\'' :: rest => readShort '\'' (rest.length + 1) [] rest
  | _ => none

/-- A string. A newline right behind three opening quotes is not part of it. -/
def readString (text : List Char) : Option (String × List Char) :=
  let long (quote : Char) (rest : List Char) : Option (String × List Char) :=
    readLong quote (rest.length + 1) [] ((newline? rest).getD rest)
  match text with
  | '"' :: '"' :: '"' :: rest => long '"' rest
  | '\'' :: '\'' :: '\'' :: rest => long '\'' rest
  | _ => readLine text

/-- The digits of a number without the underscores between them. -/
def digits? (isDigit : Char → Bool) (text : List Char) : Option (List Char) :=
  let groups := Text.piecesChars '_' text
  if groups.all fun group => !group.isEmpty && group.all isDigit then some groups.flatten else none

/-- The digits of a whole number, which begins with a zero only if it is zero. -/
def wholeDigits? (text : List Char) : Option (List Char) :=
  (digits? Char.isDigit text).filter fun digits => digits.head? != some '0' || digits.length == 1

/-- The sign in front of a number, if it has one, and the number. -/
def cutSign : List Char → List Char × List Char
  | '-' :: rest => (['-'], rest)
  | '+' :: rest => (['+'], rest)
  | rest => ([], rest)

/-- The digits behind the mark of a base, as an integer of 64 bits. -/
def based? (base : Nat) (text : List Char) : Option Int := do
  let isDigit (c : Char) : Bool := (Text.hexValue? c).any (· < base)
  let digits ← digits? isDigit text
  let value := digits.foldl (fun value c => value * base + (Text.hexValue? c).getD 0) 0
  if value ≤ Text.largestSigned64 then some value else none

/-- The integer of 64 bits that a word is. -/
def integer? (word : List Char) : Option Int :=
  match word with
  | '0' :: 'x' :: digits => based? 16 digits
  | '0' :: 'o' :: digits => based? 8 digits
  | '0' :: 'b' :: digits => based? 2 digits
  | word => do
    let (sign, number) := cutSign word
    let digits ← wholeDigits? number
    (Text.readInteger (Text.largestSigned64 + 1) Text.largestSigned64 (sign ++ digits)).toOption

/-- The number that is no integer and that a word is. A number that is greater than every double is none. -/
def real? (word : List Char) : Option Double := do
  let (sign, number) := cutSign word
  if number == ['i', 'n', 'f'] then some (.infinity (sign == ['-']))
  else if number == ['n', 'a', 'n'] then some .notANumber
  else
    let mantissa := number.takeWhile fun c => c != 'e' && c != 'E'
    let whole := mantissa.takeWhile (· != '.')
    let wholeText ← wholeDigits? whole
    let fractionText ← match mantissa.drop whole.length with
      | [] => some []
      | point :: fraction => (digits? Char.isDigit fraction).map (point :: ·)
    let exponentText ← match number.drop mantissa.length with
      | [] => some []
      | mark :: exponent =>
        let (sign, exponent) := cutSign exponent
        (digits? Char.isDigit exponent).map fun digits => mark :: (sign ++ digits)
    if fractionText.isEmpty && exponentText.isEmpty then none
    let value ← Decimal.readDouble (sign ++ wholeText ++ fractionText ++ exponentText)
    if value.isFinite || value.isNegative then some value else none

/-- Two digits with a value in a range. -/
def pair? (low high : Nat) : List Char → Option (List Char × List Char)
  | tens :: units :: rest =>
    if tens.isDigit && units.isDigit then
      let value := Decimal.digitsValue [tens, units]
      if low ≤ value && value ≤ high then some ([tens, units], rest) else none
    else none
  | _ => none

/-- The number of days of a month. -/
def daysOf (year month : Nat) : Nat :=
  if month == 2 then
    if year % 4 == 0 && (year % 100 != 0 || year % 400 == 0) then 29 else 28
  else if [4, 6, 9, 11].contains month then 30 else 31

/-- A day of the calendar. -/
def readDay (text : List Char) : Option (List Char × List Char) := do
  let year := text.take 4
  if year.length < 4 || !year.all Char.isDigit then none
  let '-' :: rest := text.drop 4 | none
  let (month, rest) ← pair? 1 12 rest
  let '-' :: rest := rest | none
  let (day, rest) ←
    pair? 1 (daysOf (Decimal.digitsValue year) (Decimal.digitsValue month)) rest
  return (year ++ '-' :: month ++ '-' :: day, rest)

/-- The digits of a fraction of a second, as they are written: nine at most, and none of the zeros at the
end. -/
def fractionText (digits : List Char) : List Char :=
  let kept := ((digits.take 9).reverse.dropWhile (· == '0')).reverse
  if kept.isEmpty then [] else '.' :: kept

/-- A time of the day. -/
def readTime (text : List Char) : Option (List Char × List Char) := do
  let (hour, rest) ← pair? 0 23 text
  let ':' :: rest := rest | none
  let (minute, rest) ← pair? 0 59 rest
  let ':' :: rest := rest | none
  let (second, rest) ← pair? 0 60 rest
  let time := hour ++ ':' :: minute ++ ':' :: second
  match rest with
  | '.' :: rest =>
    let digits := rest.takeWhile Char.isDigit
    if digits.isEmpty then none
    return (time ++ fractionText digits, rest.drop digits.length)
  | rest => return (time, rest)

/-- What stands behind a time on a day: nothing, or its offset. -/
def readOffset : List Char → Option (List Char)
  | [] => some []
  | ['Z'] | ['z'] => some ['Z']
  | sign :: rest => do
    if sign != '+' && sign != '-' then none
    let (hour, rest) ← pair? 0 23 rest
    let ':' :: rest := rest | none
    let (minute, rest) ← pair? 0 59 rest
    if !rest.isEmpty then none
    let isZero := (hour ++ minute).all (· == '0')
    return (if isZero then '+' else sign) :: (hour ++ ':' :: minute)

/-- The text of the day, the time or both that a word is. -/
def date? (word : List Char) : Option String :=
  match readDay word with
  | none => do
    let (time, rest) ← readTime word
    if rest.isEmpty then some (String.ofList time) else none
  | some (day, []) => some (String.ofList day)
  | some (day, mark :: rest) => do
    if !(['T', 't', ' '].contains mark) then none
    let (time, rest) ← readTime rest
    let offset ← readOffset rest
    return String.ofList (day ++ 'T' :: time ++ offset)

/-- Whether a character may be part of a word. -/
def isWordChar (c : Char) : Bool := c.isAlphanum || ['+', '-', '_', '.', ':'].contains c

/-- The word at the front of a text. A blank between a day and a time belongs to it. -/
def wordOf (text : List Char) : List Char :=
  let word := text.takeWhile isWordChar
  match readDay word, text.drop word.length with
  | some (_, []), ' ' :: c :: rest =>
    if c.isDigit then word ++ ' ' :: (c :: rest).takeWhile isWordChar else word
  | _, _ => word

/-- What a word means. -/
def wordValue? (word : List Char) : Option Value :=
  if word == "true".toList then some (.flag true)
  else if word == "false".toList then some (.flag false)
  else ((integer? word).map Value.integer).or
    (((real? word).map Value.real).or ((date? word).map Value.text))

/-- A value that is neither an array nor a table. -/
def readScalar (text : List Char) : Option (Value × List Char) :=
  match text with
  | '"' :: _ | '\'' :: _ => (readString text).map fun (value, rest) => (.text value, rest)
  | _ =>
    let word := wordOf text
    (wordValue? word).map fun value => (value, text.drop word.length)

end Dialogs.Toml
