import Dialogs.Decimal.Reading
import Dialogs.Json.Basic
import Dialogs.Yaml.Node

/-!
# YAML documents as JSON values

What a tree means as a JSON value. Plain text may be a null, a truth value or a number; all other text is
a string, and a key is always one. A tag of the standard vocabulary says what a scalar has to be; a tag
that the document made up has no meaning.
-/

namespace Dialogs.Yaml

/-- Whether a text is a null. -/
def isNull (text : String) : Bool := ["null", "Null", "NULL", "~"].contains text

/-- The truth value that a text is. -/
def truth? (text : String) : Option Bool :=
  if ["true", "True", "TRUE"].contains text then some true
  else if ["false", "False", "FALSE"].contains text then some false
  else none

/-- The value of digits in a base, if there are any and nothing else. -/
def digitsIn (base : Nat) (text : List Char) : Option Nat :=
  if text.isEmpty then none
  else text.foldlM (fun value c => do
    let digit ← Text.hexValue? c
    if digit < base then some (value * base + digit) else none) 0

/-- Whether a text is made of digits but not meant as a number, since it begins with a zero. -/
def isZeroPadded (text : List Char) : Bool :=
  let digits := match text with
    | '-' :: rest | '+' :: rest => rest
    | rest => rest
  digits.length > 1 && digits.head? == some '0' && digits.all Char.isDigit

/-- The value of digits behind the mark of a base, or of decimal digits. -/
def unsigned (text : List Char) : Option Nat :=
  match text with
  | '0' :: 'x' :: digits => digitsIn 16 digits
  | '0' :: 'o' :: digits => digitsIn 8 digits
  | '0' :: 'b' :: digits => digitsIn 2 digits
  | digits => digitsIn 10 digits

/-- The integer that a text is, of any size. -/
def integer? (text : List Char) : Option Int :=
  if isZeroPadded text then none
  else match text with
    | '-' :: rest => (unsigned rest).map fun value => -(value : Int)
    | '+' :: rest => (unsigned rest).map Int.ofNat
    | rest => (unsigned rest).map Int.ofNat

/-- What a text is as an integer. -/
inductive IntegerMeaning where
  | number (value : Json.Number)
  /-- An integer of 128 bits, but not of 64. -/
  | tooWide
  | other

/-- Whether an integer needs no more than 128 bits, signed or unsigned. -/
def isWide (value : Int) : Bool :=
  -170141183460469231731687303715884105728 ≤ value &&
    value ≤ 340282366920938463463374607431768211455

/-- What a text is as an integer. One that needs more than 128 bits is none. -/
def integerMeaning (text : List Char) : IntegerMeaning :=
  match integer? text with
  | none => .other
  | some value =>
    if range : -9223372036854775808 ≤ value ∧ value < 18446744073709551616 then .number (.integer value range.1 range.2)
    else if isWide value then .tooWide
    else .other

/-- The value of a text as a number with a point. Infinities are written with a dot in front, and have no
JSON value but null. -/
def real? (text : List Char) : Option Json :=
  let infinities := [".inf", ".Inf", ".INF"]
  let unnamed := (infinities ++ infinities.map ("+" ++ ·) ++ infinities.map ("-" ++ ·) ++
    [".nan", ".NaN", ".NAN"]).contains (String.ofList text)
  if unnamed then some .null
  else do
    let value ← Decimal.readDouble text
    if value.isFinite then some (.number (.double value)) else none

/-- The value of plain text, unless it is an integer that is too wide. -/
def plainValue (text : String) : Option Json :=
  if text.isEmpty || isNull text then some .null
  else match truth? text with
    | some value => some (.bool value)
    | none =>
      match integerMeaning text.toList with
      | .number value => some (.number value)
      | .tooWide => none
      | .other =>
        if isZeroPadded text.toList then some (.string text)
        else some ((real? text.toList).getD (.string text))

/-- The name of a tag in the standard vocabulary. -/
def standardName? (tag : String) : Option String :=
  let vocabulary := "tag:yaml.org,2002:"
  if tag.startsWith vocabulary then some (tag.drop vocabulary.length).toString else none

/-- Whether a tag is one that the document made up. -/
def isOwnTag (tag : Option String) : Bool := tag.any fun tag => tag.startsWith "!"

/-- The value of text with a tag, if it is what the tag says. -/
def taggedValue (tag text : String) : Option Json :=
  match standardName? tag with
  | some "bool" => (truth? text).map .bool
  | some "int" =>
    match integerMeaning text.toList with
    | .number value => some (.number value)
    | .tooWide | .other => none
  | some "float" => real? text.toList
  | some "null" => if isNull text then some .null else none
  | _ => some (.string text)

namespace Node

/-- The text of a node that is a key. -/
def key? : Node → Option String
  | .scalar text _ _ => some text
  | .sequence _ _ | .mapping _ _ => none

/-- The value of a scalar. -/
def scalarValue (text : String) (plain : Bool) : Option String → Option Json
  | some tag => if isOwnTag (some tag) then none else taggedValue tag text
  | none => if plain then plainValue text else some (.string text)

/-- The JSON value of a tree that is nested at most to a depth. -/
def toJson : (room : Nat) → Node → Option Json
  | _, .scalar text plain tag => scalarValue text plain tag
  | 0, _ => none
  | room + 1, .sequence entries tag =>
    if isOwnTag tag then none else (entries.mapM (toJson room)).map .array
  | room + 1, .mapping entries tag =>
    if isOwnTag tag then none
    else
      let members : Option (List (String × Json)) := entries.mapM fun entry => do
        return (← entry.1.key?, ← toJson room entry.2)
      members.map .object

/-- How deep a document may be nested. -/
def nestingLimit : Nat := 128

end Node

/-- The JSON value of a text. An empty text is a null. -/
def jsonOfText (text : String) : Option Json := do
  match ← Node.read text with
  | none => some .null
  | some root => root.toJson Node.nestingLimit

end Dialogs.Yaml
