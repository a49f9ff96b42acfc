import Dialogs.Decimal.Reading
import Dialogs.Json.Basic
import Dialogs.Text.Alphabet
import Dialogs.Text.Blank
import Dialogs.Text.Integer

/-!
# Scalars of JSON5

Strings in either kind of quotes, names, and numbers with signs, with points at their ends, in hexadecimal
digits, or infinite. Each reader takes the front of a text and hands back the rest.
-/

namespace Dialogs.Json5

/-- Whether a line ends at a character. -/
def isBreak (c : Char) : Bool := ['\n', '\r', '\u2028', '\u2029'].contains c

/-- The blanks between the parts of a text. -/
def isGap (c : Char) : Bool := c == '\uFEFF' || (Text.isBlank c && c != '\x85')

/-- The rest behind the end of a comment of several lines. -/
def behindComment? : List Char → Option (List Char)
  | [] => none
  | '*' :: '/' :: rest => some rest
  | _ :: rest => behindComment? rest

/-- The rest behind blanks and comments. A comment that has no end is none. -/
def skipGaps (fuel : Nat) (text : List Char) : List Char :=
  match fuel, text with
  | 0, text => text
  | fuel + 1, '/' :: '/' :: rest => skipGaps fuel (rest.dropWhile fun c => !isBreak c)
  | fuel + 1, '/' :: '*' :: rest =>
    match behindComment? rest with
    | some rest => skipGaps fuel rest
    | none => text
  | fuel + 1, c :: rest => if isGap c then skipGaps fuel rest else c :: rest
  | _, [] => []

/-- The rest of a text behind blanks and comments. -/
def skip (text : List Char) : List Char := skipGaps text.length text

/-- The number of four hexadecimal digits, and the rest. -/
def readUnit (text : List Char) : Option (Nat × List Char) :=
  if (text.take 4).length < 4 then none
  else (Text.hexNumber? (text.take 4)).map fun unit => (unit, text.drop 4)

/-- The character that units of sixteen bits denote behind a backslash and the letter `u`: one unit, or two of
which the second has an escape of its own. -/
def readUnits (text : List Char) : Option (Char × List Char) := do
  let (high, rest) ← readUnit text
  if 0xD800 ≤ high && high < 0xDC00 then
    match rest with
    | '\\' :: 'u' :: rest =>
      let (low, rest) ← readUnit rest
      if 0xDC00 ≤ low && low < 0xE000 then
        return (← Text.charOfNumber? ((high - 0xD800) * 0x400 + (low - 0xDC00) + 0x10000), rest)
      else none
    | _ => none
  else return (← Text.charOfNumber? high, rest)

/-- The characters that a letter behind a backslash stands for. -/
def escapes : List (Char × Char) :=
  [('b', '\x08'), ('f', '\x0c'), ('n', '\n'), ('r', '\r'), ('t', '\t'), ('v', '\x0b'), ('0', '\x00')]

/-- An escape behind its backslash. A newline that is escaped stands for nothing, and a letter for itself
unless it has a meaning; a digit has one only if it is zero. -/
def readEscape : List Char → Option (Option Char × List Char)
  | [] => none
  | 'x' :: rest => (Text.hexChar? 2 rest).map fun meant => (some meant, rest.drop 2)
  | 'u' :: rest => (readUnits rest).map fun (meant, rest) => (some meant, rest)
  | '\r' :: '\n' :: rest => some (none, rest)
  | c :: rest =>
    if isBreak c then some (none, rest)
    else if c.isDigit && c != '0' then none
    else some ((escapes.lookup c).getD c, rest)

/-- A string behind its opening quote. -/
def readString (quote : Char) (fuel : Nat) (read : List Char) (text : List Char) :
    Option (String × List Char) :=
  match fuel, text with
  | 0, _ | _, [] => none
  | fuel + 1, c :: rest =>
    if c == quote then some (String.ofList read.reverse, rest)
    else if c == '\\' then do
      let (meant, rest) ← readEscape rest
      readString quote fuel (meant.toList ++ read) rest
    else if isBreak c then none
    else readString quote fuel (c :: read) rest

/-- Whether a name may begin with a character. -/
def isNameStart (c : Char) : Bool := c == '$' || c == '_' || Text.isLetter c

/-- Signs that join parts of a name. -/
def isJoiner (c : Char) : Bool :=
  ['\u200C', '\u200D', '\u203F', '\u2040', '\u2054', '\uFE33', '\uFE34', '\uFE4D', '\uFE4E', '\uFE4F',
   '\uFF3F'].contains c

/-- Whether a name may go on with a character. -/
def isNamePart (c : Char) : Bool :=
  isNameStart c || c.isDigit || isJoiner c || Text.isMark c || Text.inRanges Text.digitRanges c.toNat

/-- A name behind its characters so far, last first. -/
def readName (fuel : Nat) (read : List Char) (text : List Char) : Option (String × List Char) :=
  let ended : Option (String × List Char) :=
    if read.isEmpty then none else some (String.ofList read.reverse, text)
  match fuel, text with
  | 0, _ | _, [] => ended
  | fuel + 1, '\\' :: 'u' :: rest =>
    match readUnits rest with
    | some (meant, rest) => readName fuel (meant :: read) rest
    | none => ended
  | fuel + 1, c :: rest =>
    if if read.isEmpty then isNameStart c else isNamePart c then readName fuel (c :: read) rest
    else ended

/-- A key: a name or a string. -/
def readKey (text : List Char) : Option (String × List Char) :=
  match text with
  | '"' :: rest => readString '"' (rest.length + 1) [] rest
  | '\'' :: rest => readString '\'' (rest.length + 1) [] rest
  | text => readName text.length [] text

/-- The integer of JSON with a value, if it has 64 bits. -/
def integer? (value : Int) : Option Json :=
  if bounds : -9223372036854775808 ≤ value ∧ value ≤ 9223372036854775807 then
    some (.number (.integer value bounds.1 (by omega)))
  else none

/-- A number with a point or an exponent in its text, if it is in the range of doubles. -/
def real? (text : List Char) : Option Json := do
  let value ← Decimal.readDouble text
  if value.isFinite then some (.number (.double value)) else none

/-- The digits of an exponent with its letter and its sign, and the rest. -/
def cutExponent (text : List Char) : List Char × List Char :=
  match text with
  | c :: rest =>
    let sign := rest.takeWhile fun c => c == '+' || c == '-'
    let digits := (rest.drop sign.length).takeWhile Char.isDigit
    if (c == 'e' || c == 'E') && sign.length ≤ 1 && !digits.isEmpty then
      (c :: sign ++ digits, rest.drop (sign.length + digits.length))
    else ([], text)
  | [] => ([], [])

/-- The characters of a number without sign: digits, of which the first is a zero only if it is the only one,
perhaps with a point, which may come first or last, and an exponent. -/
def cutDecimal (text : List Char) : Option (List Char × List Char) :=
  let whole := match text with
    | '0' :: _ => ['0']
    | text => text.takeWhile Char.isDigit
  let (fraction, rest) := match text.drop whole.length with
    | '.' :: rest =>
      let digits := rest.takeWhile Char.isDigit
      if whole.isEmpty && digits.isEmpty then ([], '.' :: rest)
      else ('.' :: digits, rest.drop digits.length)
    | rest => ([], rest)
  if whole.isEmpty && fraction.isEmpty then none
  else
    let (exponent, rest) := cutExponent rest
    some (whole ++ fraction ++ exponent, rest)

/-- The sign in front of a number, if it has one, and the number. -/
def cutSign : List Char → List Char × List Char
  | '-' :: rest => (['-'], rest)
  | '+' :: rest => (['+'], rest)
  | rest => ([], rest)

/-- The rest behind a word. -/
def behindWord? (word : String) (text : List Char) : Option (List Char) :=
  if word.toList.isPrefixOf text then some (text.drop word.length) else none

/-- A number. Hexadecimal digits have no sign and denote a number of 32 bits; an infinity has no plus sign,
and neither has what is no number. -/
def readNumber (text : List Char) : Option (Json × List Char) := do
  let (sign, body) := cutSign text
  match (behindWord? "0x" body).or (behindWord? "0X" body) with
  | some rest =>
    let digits := rest.takeWhile fun c => (Text.hexValue? c).isSome
    let value ← Text.hexNumber? digits
    if sign.isEmpty && !digits.isEmpty && value < 4294967296 then
      return (← integer? value, rest.drop digits.length)
    else none
  | none =>
    match behindWord? "Infinity" body, behindWord? "NaN" body with
    | some rest, _ =>
      if sign == ['+'] then none else return (.number (.double (.infinity (sign == ['-']))), rest)
    | _, some rest => if sign == ['+'] then none else return (.number (.double .notANumber), rest)
    | none, none =>
      let (written, rest) ← cutDecimal body
      if written.any fun c => c == '.' || c == 'e' || c == 'E' then
        return (← real? (sign ++ written), rest)
      else
        let value := Decimal.digitsValue written
        return (← integer? (if sign == ['-'] then -value else value), rest)

end Dialogs.Json5
