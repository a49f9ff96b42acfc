import Dialogs.Decimal.Reading
import Dialogs.Text.Integer

/-!
# Scalars of RON

Names, characters, strings with escapes or within signs of their own, and numbers in four bases. Each reader
takes the front of a text and hands back the rest.
-/

namespace Dialogs.Ron

/-- Whether a character is a blank. -/
def isGap (c : Char) : Bool := c == ' ' || c == '\t' || c == '\n' || c == '\r'

/-- The rest behind the end of a comment of several lines, in which other comments may be nested. -/
def behindComment? : (depth : Nat) → List Char → Option (List Char)
  | depth, '/' :: '*' :: rest => behindComment? (depth + 1) rest
  | 0, '*' :: '/' :: rest => some rest
  | depth + 1, '*' :: '/' :: rest => behindComment? depth rest
  | depth, _ :: rest => behindComment? depth rest
  | _, [] => none

/-- The rest behind blanks and comments. A slash that begins no comment, and a comment that has no end, are
refused. -/
def skipGaps (fuel : Nat) (text : List Char) : Option (List Char) :=
  match fuel, text with
  | 0, text => some text
  | fuel + 1, '/' :: '/' :: rest => skipGaps fuel (rest.dropWhile (· != '\n'))
  | fuel + 1, '/' :: '*' :: rest => do skipGaps fuel (← behindComment? 0 rest)
  | _, '/' :: _ => none
  | fuel + 1, c :: rest => if isGap c then skipGaps fuel rest else some (c :: rest)
  | _, [] => some []

/-- The rest of a text behind blanks and comments. -/
def skip (text : List Char) : Option (List Char) := skipGaps text.length text

/-- Whether a name may begin with a character. -/
def isNameStart (c : Char) : Bool := c.isAlpha || c == '_'

/-- Whether a name may go on with a character. -/
def isNamePart (c : Char) : Bool := c.isAlphanum || c == '_'

/-- Whether a raw name may hold a character. -/
def isRawNamePart (c : Char) : Bool := isNamePart c || c == '.' || c == '+' || c == '-'

/-- A name. A raw one stands behind a mark; and where a raw name would be longer, there is no other. -/
def readName (text : List Char) : Option (String × List Char) :=
  let raw := text.takeWhile isRawNamePart
  match text with
  | 'r' :: '"' :: _ => none
  | 'r' :: '#' :: rest =>
    let name := rest.takeWhile isRawNamePart
    if name.isEmpty then none else some (String.ofList name, rest.drop name.length)
  | c :: _ =>
    let name := text.takeWhile isNamePart
    if isNameStart c && raw.length ≤ name.length && !name.isEmpty then
      some (String.ofList name, text.drop name.length)
    else none
  | [] => none

/-- The rest behind a word, if the word goes on no further. -/
def behindWord? (word : String) (text : List Char) : Option (List Char) :=
  let rest := text.drop word.length
  if word.toList.isPrefixOf text && !rest.head?.any isNamePart then some rest else none

/-- The characters that a letter behind a backslash stands for. -/
def escapes : List (Char × Char) :=
  [('\'', '\''), ('"', '"'), ('\\', '\\'), ('n', '\n'), ('r', '\r'), ('t', '\t'), ('0', '\x00')]

/-- An escape behind its backslash: a letter, two hexadecimal digits, or up to six of them in braces. -/
def readEscape : List Char → Option (Char × List Char)
  | [] => none
  | 'x' :: rest => (Text.hexChar? 2 rest).map fun meant => (meant, rest.drop 2)
  | 'u' :: '\x7b' :: rest => do
    let digits := rest.takeWhile (· != '\x7d')
    if digits.isEmpty || 6 < digits.length then none
    let '\x7d' :: rest := rest.drop digits.length | none
    return (← Text.charOfNumber? (← Text.hexNumber? digits), rest)
  | letter :: rest => (escapes.lookup letter).map fun meant => (meant, rest)

/-- A string behind its opening quote. -/
def readQuoted (fuel : Nat) (read : List Char) (text : List Char) : Option (String × List Char) :=
  match fuel, text with
  | 0, _ | _, [] => none
  | _, '"' :: rest => some (String.ofList read.reverse, rest)
  | fuel + 1, '\\' :: rest => do
    let (meant, rest) ← readEscape rest
    readQuoted fuel (meant :: read) rest
  | fuel + 1, c :: rest => readQuoted fuel (c :: read) rest

/-- A raw string behind its opening quote, up to its closing quote and the marks behind that. -/
def readRaw (closing : List Char) (read : List Char) : List Char → Option (String × List Char)
  | [] => none
  | c :: rest =>
    if closing.isPrefixOf (c :: rest) then
      some (String.ofList read.reverse, (c :: rest).drop closing.length)
    else readRaw closing (c :: read) rest

/-- A string. -/
def readString (text : List Char) : Option (String × List Char) :=
  match text with
  | '"' :: rest => readQuoted (rest.length + 1) [] rest
  | 'r' :: rest =>
    let marks := rest.takeWhile (· == '#')
    match rest.drop marks.length with
    | '"' :: rest => readRaw ('"' :: marks) [] rest
    | _ => none
  | _ => none

/-- A character behind its opening quote. -/
def readChar (text : List Char) : Option (Char × List Char) := do
  let (c, rest) ← match text with
    | '\\' :: rest => readEscape rest
    | '\'' :: _ | [] => none
    | c :: rest => some (c, rest)
  match rest with
  | '\'' :: rest => return (c, rest)
  | _ => none

/-- A number, either whole and of 64 bits, or not. -/
inductive Number where
  | integer (value : Int)
  | real (value : Double)
  deriving DecidableEq, Repr

/-- Whether a character may be part of an integer. -/
def isIntegerChar (c : Char) : Bool := (Text.hexValue? c).isSome || c == '_'

/-- Whether a character may be part of a number with a point or an exponent. -/
def isRealChar (c : Char) : Bool := c.isDigit || ['e', 'E', '.', '+', '-', '_'].contains c

/-- The sign in front of a number, if it has one, and the number. -/
def cutSign : List Char → List Char × List Char
  | '-' :: rest => (['-'], rest)
  | '+' :: rest => (['+'], rest)
  | rest => ([], rest)

/-- The base of an integer, and its digits. -/
def cutBase : List Char → Nat × List Char
  | '0' :: 'x' :: rest => (16, rest)
  | '0' :: 'b' :: rest => (2, rest)
  | '0' :: 'o' :: rest => (8, rest)
  | rest => (10, rest)

/-- An integer, which has a sign or is not negative. Underscores may stand behind its first digit. -/
def readInteger (text : List Char) : Option (Number × List Char) := do
  let (sign, body) := cutSign text
  let (base, body) := cutBase body
  let written := body.takeWhile isIntegerChar
  if written.isEmpty || written.head? == some '_' then none
  let value ← (written.filter (· != '_')).foldlM (fun value c => do
    let digit ← Text.hexValue? c
    if digit < base then some (value * base + digit) else none) 0
  let rest := body.drop written.length
  if sign == ['-'] then
    if value ≤ Text.largestSigned64 + 1 then return (.integer (-value), rest) else none
  else if value ≤ Text.largestSigned64 then return (.integer value, rest)
  else if sign.isEmpty && value ≤ Text.largestUnsigned64 then
    return (.real ((Double.ofFraction? false value 1).getD Double.zero), rest)
  else none

/-- The names of the values that are not written in digits. -/
def namedReals : List (String × Double) :=
  [("inf", .infinity false), ("-inf", .infinity true), ("NaN", .notANumber)]

/-- Names with a sign that are understood only where a number is expected. -/
def signedReals : List (String × Double) :=
  [("+inf", .infinity false), ("+NaN", .notANumber), ("-NaN", .notANumber)]

/-- One of some named values. -/
def readNamedReal (names : List (String × Double)) (text : List Char) :
    Option (Number × List Char) :=
  names.findSome? fun (name, value) =>
    (behindWord? name text).map fun rest => (.real value, rest)

/-- A number that need not be whole. -/
def readReal (text : List Char) : Option (Number × List Char) :=
  (readNamedReal (namedReals ++ signedReals) text).or (do
    let written := text.takeWhile isRealChar
    if written.contains '_' then none
    return (.real (← Decimal.readDouble written), text.drop written.length))

/-- A number. One that is no integer, although it looks like one, may still be another number. -/
def readNumber (text : List Char) : Option (Number × List Char) :=
  let (_, body) := cutSign text
  if (body.takeWhile isIntegerChar).length < (body.takeWhile isRealChar).length then readReal text
  else (readInteger text).or (readReal text)

end Dialogs.Ron
