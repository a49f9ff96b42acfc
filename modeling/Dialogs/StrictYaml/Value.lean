import Dialogs.Decimal.Reading
import Dialogs.StrictYaml.Node
import Dialogs.Text.Integer

/-!
# Values of strict YAML documents

What a tree means. Plain text may be a null, a truth value or a number. Plain text with a standard tag that
it does not fit is unusable, and so is a part that repeats itself; as a key, such a part is passed over, and
what follows it counts as the key. No key is used twice.
-/

namespace Dialogs.StrictYaml

/-- The meaning of a part of a document. -/
inductive Value where
  | null
  | unusable
  | flag (value : Bool)
  | integer (value : Int)
  /-- A number that is no integer, as it is written. -/
  | real (text : String)
  | text (value : String)
  | list (elements : List Value)
  | table (entries : List (Value × Value))
  deriving Repr

namespace Value

mutual

/-- Whether two values are the same. Numbers have to be written in the same way. -/
def same : Value → Value → Bool
  | .null, .null | .unusable, .unusable => true
  | .flag first, .flag second => first == second
  | .integer first, .integer second => first == second
  | .real first, .real second | .text first, .text second => first == second
  | .list first, .list second => sameElements first second
  | .table first, .table second => sameEntries first second
  | _, _ => false

/-- Whether two lists have the same elements. -/
def sameElements : List Value → List Value → Bool
  | [], [] => true
  | first :: firsts, second :: seconds => same first second && sameElements firsts seconds
  | _, _ => false

/-- Whether two tables have the same entries in the same order. -/
def sameEntries : List (Value × Value) → List (Value × Value) → Bool
  | [], [] => true
  | first :: firsts, second :: seconds => sameEntry first second && sameEntries firsts seconds
  | _, _ => false

/-- Whether two entries are the same. -/
def sameEntry : Value × Value → Value × Value → Bool
  | (firstKey, firstValue), (secondKey, secondValue) =>
    same firstKey secondKey && same firstValue secondValue

end

/-- The signed 64-bit integer of digits in a base, with an optional sign. -/
def basedInteger? (base : Nat) (text : List Char) : Option Int := do
  let (negative, digits) := match text with
    | '-' :: rest => (true, rest)
    | '+' :: rest => (false, rest)
    | rest => (false, rest)
  if digits.isEmpty then none
  let size ← digits.foldlM (fun value c => do
    let digit ← Text.hexValue? c
    if digit < base then some (value * base + digit) else none) 0
  if negative then
    if size ≤ Text.largestSigned64 + 1 then some (-(size : Int)) else none
  else if size ≤ Text.largestSigned64 then some size else none

/-- The signed 64-bit integer of decimal digits, with an optional sign. -/
def decimalInteger? (text : List Char) : Option Int :=
  (Text.readInteger (Text.largestSigned64 + 1) Text.largestSigned64 text).toOption

/-- The integer that a text is: digits behind the mark of a base, or decimal digits. Behind one plus sign,
another sign may stand. -/
def integer? (text : List Char) : Option Int :=
  match text with
  | '0' :: 'x' :: digits => basedInteger? 16 digits
  | '0' :: 'o' :: digits => basedInteger? 8 digits
  | '+' :: digits => decimalInteger? digits
  | digits => decimalInteger? digits

/-- The spellings of values that are no finite numbers. -/
def namedNumbers : List String :=
  let infinities := [".inf", ".Inf", ".INF"]
  infinities ++ infinities.map ("+" ++ ·) ++ infinities.map ("-" ++ ·) ++ [".nan", ".NAN"]

/-- Whether a text is a number that is no integer. -/
def isReal (text : String) : Bool :=
  namedNumbers.contains text || (Decimal.readDouble text.toList).isSome

/-- The meaning of plain text. -/
def ofPlain (text : String) : Value :=
  match integer? text.toList with
  | some value => .integer value
  | none =>
    if text == "~" || text == "null" then .null
    else if text == "true" then .flag true
    else if text == "false" then .flag false
    else if isReal text then .real text
    else .text text

/-- The meaning of plain text with a standard tag. -/
def ofTagged (name text : String) : Value :=
  if name == "bool" then
    if text == "true" then .flag true else if text == "false" then .flag false else .unusable
  else if name == "int" then ((decimalInteger? text.toList).map Value.integer).getD .unusable
  else if name == "float" then if isReal text then .real text else .unusable
  else if name == "null" then if text == "~" || text == "null" then .null else .unusable
  else .text text

/-- The meaning of a scalar. -/
def ofScalar (text : String) (plain : Bool) (tag : Option Tag) : Value :=
  if !plain then .text text
  else match tag with
    | none => ofPlain text
    | some tag =>
      if tag.space == Reading.standardSpace then ofTagged tag.name text else .text text

/-- Adds the next part of a table: a key if `pending` holds none, else the value of that key. -/
def addPart (entries : List (Value × Value)) (pending : Option Value) (part : Value) :
    Option (List (Value × Value) × Option Value) :=
  match pending with
  | none =>
    match part with
    | .unusable => some (entries, none)
    | key => some (entries, some key)
  | some key =>
    if entries.any fun (other, _) => other.same key then none
    else some (entries ++ [(key, part)], none)

mutual

/-- The meaning of a node, unless a key is used twice. -/
def ofNode : Node → Option Value
  | .scalar written plain tag => some (ofScalar written plain tag)
  | .sequence entries => (ofNodes entries).map .list
  | .mapping entries => (ofPairs [] none entries).map .table
  | .cycle => some .unusable

/-- The meanings of nodes. -/
def ofNodes : List Node → Option (List Value)
  | [] => some []
  | node :: rest => do return (← ofNode node) :: (← ofNodes rest)

/-- The entries of a table, behind those that have been read and a key that waits for its value. -/
def ofPairs (entries : List (Value × Value)) (pending : Option Value) :
    List (Node × Node) → Option (List (Value × Value))
  | [] => some entries
  | pair :: rest => do
    let (entries, pending) ← ofPair entries pending pair
    ofPairs entries pending rest

/-- The entries of a table behind one more pair. -/
def ofPair (entries : List (Value × Value)) (pending : Option Value) :
    Node × Node → Option (List (Value × Value) × Option Value)
  | (key, value) => do
    let (entries, pending) ← addPart entries pending (← ofNode key)
    addPart entries pending (← ofNode value)

end

/-- The meanings of the documents of a text, unless it is malformed. -/
def read (text : String) : Option (List Value) := do ofNodes (← Node.read text)

end Value

end Dialogs.StrictYaml
