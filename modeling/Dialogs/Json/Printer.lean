import Dialogs.Json.Basic
import Dialogs.Decimal.Layout

/-!
# Compact JSON text

The text of a value without any blanks, with the members of objects in the order in which the value
has them. Only the quote, the backslash and the control characters below U+0020 are escaped.
-/

namespace Dialogs.Json

/-- Doubles always have a point or an exponent; the exponent has a sign and appears below `0.00001`
and from `10000000000000000` on. -/
def doubleLayout : Decimal.Layout :=
  { lowestPositional := -5, highestPositional := 15, integralTail := ".0", positiveExponent := "+" }

/-- The text of a number. -/
def Number.text : Number → String
  | .integer value _ _ => toString value
  | .double value => doubleLayout.text value

/-- The four hexadecimal digits of a control character. -/
def controlDigits (code : Nat) : List Char :=
  ['0', '0', Nat.digitChar (code / 16), Nat.digitChar (code % 16)]

/-- The form of one character inside a string. -/
def escapeChar (c : Char) : List Char :=
  match c with
  | '"' => ['\\', '"']
  | '\\' => ['\\', '\\']
  | '\x08' => ['\\', 'b']
  | '\t' => ['\\', 't']
  | '\n' => ['\\', 'n']
  | '\x0c' => ['\\', 'f']
  | '\r' => ['\\', 'r']
  | c => if c < ' ' then '\\' :: 'u' :: controlDigits c.toNat else [c]

/-- The characters of a string, escaped, between quotes. -/
def stringChars (text : String) : List Char :=
  '"' :: (text.toList.flatMap escapeChar ++ ['"'])

mutual

/-- The characters of a value's compact text. -/
def chars : Json → List Char
  | .null => ['n', 'u', 'l', 'l']
  | .bool true => ['t', 'r', 'u', 'e']
  | .bool false => ['f', 'a', 'l', 's', 'e']
  | .number value => value.text.toList
  | .string value => stringChars value
  | .array elements => '[' :: (elementsChars elements ++ [']'])
  | .object members => '\x7b' :: (membersChars members ++ ['\x7d'])

/-- The elements of an array, with commas between them. -/
def elementsChars : List Json → List Char
  | [] => []
  | element :: rest => element.chars ++ laterElementsChars rest

/-- The elements of an array behind its first, each after a comma. -/
def laterElementsChars : List Json → List Char
  | [] => []
  | element :: rest => ',' :: (element.chars ++ laterElementsChars rest)

/-- The members of an object, with commas between them. -/
def membersChars : List (String × Json) → List Char
  | [] => []
  | member :: rest => memberChars member ++ laterMembersChars rest

/-- The members of an object behind its first, each after a comma. -/
def laterMembersChars : List (String × Json) → List Char
  | [] => []
  | member :: rest => ',' :: (memberChars member ++ laterMembersChars rest)

/-- A member: its key, a colon and its value. -/
def memberChars : String × Json → List Char
  | (key, value) => stringChars key ++ ':' :: value.chars

end

/-- The compact text of a value. -/
def compact (value : Json) : String := String.ofList value.chars

/-- The compact text of a document. -/
def Document.compact (held : Document) : String := held.json.compact

end Dialogs.Json
