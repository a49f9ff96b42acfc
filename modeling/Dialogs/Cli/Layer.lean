import Dialogs.Cli.Settings
import Dialogs.Decimal.Layout
import Dialogs.Decimal.Reading
import Dialogs.Text.Pieces

/-!
# Layers of settings

Settings come from several places, each of which says what some paths lead to. They are laid over each
other into one table, in which letters are small; then the table is read as settings. Texts, numbers and
truth values are taken for one another where that makes sense, since a variable of the environment can
only hold text.
-/

namespace Dialogs.Cli

/-- Why settings cannot be used. -/
inductive SettingsFault where
  | malformed
  /-- A key that is neither a text nor an integer. -/
  | unusableKey
  /-- A place in a list that the list cannot have. -/
  | unusablePlace
  deriving DecidableEq, Repr

/-- The small letter of a letter. Besides those of ASCII, the Kelvin sign has one that names of settings
hold. -/
def smallLetter (c : Char) : Char := if c == '\u212A' then 'k' else c.toLower

/-- A name in small letters. -/
def smallName (name : String) : String := String.ofList (name.toList.map smallLetter)

/-- What a place says about a setting. -/
inductive Held where
  /-- Nothing, in so many words. -/
  | nothing
  | flag (value : Bool)
  | integer (value : Int)
  | real (value : Double)
  | text (value : String)
  | list (entries : List Held)
  | table (entries : List (String × Held))
  deriving Repr

namespace Held

/-- The entries of a table. Anything else has none. -/
def entries : Held → List (String × Held)
  | .table entries => entries
  | _ => []

/-- The elements of a list. Anything else has none. -/
def elements : Held → List Held
  | .list elements => elements
  | _ => []

/-- What a table holds at a name. -/
def get? (held : Held) (name : String) : Option Held :=
  (held.entries.find? fun (other, _) => other == name).map Prod.snd

/-- Puts something at a name. What is no table becomes one. -/
def put (held : Held) (name : String) (value : Held) : Held :=
  .table ((name, value) :: held.entries.filter fun (other, _) => other != name)

mutual

/-- Lays one thing onto another. The entries of a table are laid on one by one; everything else takes the
place of what was there. -/
def onto : Held → Option Held → Held
  | .table entries, below => entriesOver entries (below.getD (.table []))
  | value, _ => value

/-- Lays entries onto a table. -/
def entriesOver : List (String × Held) → Held → Held
  | [], below => below
  | entry :: rest, below => entriesOver rest (entryOver entry below)

/-- Lays an entry onto a table. -/
def entryOver : String × Held → Held → Held
  | (name, value), below =>
    let name := smallName name
    below.put name (value.onto (below.get? name))

end

end Held

/-- A step on the way to a setting. -/
inductive PathStep where
  | name (name : String)
  /-- An element of a list, counted from the end if the number is negative. -/
  | element (index : Int)
  deriving DecidableEq, Repr

/-- The number of elements that a list never reaches. -/
def elementLimit : Nat := 16777216

/-- The place of an element in a list of `count` elements, or behind them. Nothing is in front of the
first. -/
def placeOf (count : Nat) (index : Int) : Except SettingsFault Nat :=
  if index < 0 then
    if index.natAbs ≤ count then .ok (count - index.natAbs) else .error .unusablePlace
  else if index.natAbs < elementLimit then .ok index.natAbs
  else .error .unusablePlace

/-- Puts something at the end of a path. What is in the way gives way. -/
def Held.putAt (value : Held) : List PathStep → Option Held → Except SettingsFault Held
  | [], below => .ok (value.onto below)
  | .name name :: rest, below => do
    let table := below.getD (.table [])
    let name := smallName name
    return table.put name (← putAt value rest (table.get? name))
  | .element index :: rest, below => do
    let elements := (below.getD .nothing).elements
    let place ← placeOf elements.length index
    let padded := elements ++ List.replicate (place + 1 - elements.length) .nothing
    let held ← putAt value rest (if rest.isEmpty then none else padded[place]?)
    return .list (padded.set place held)

/-- Whether a character may be part of a name on a path. -/
def isPathChar (c : Char) : Bool := c.isAlphanum || [' ', '_', '-'].contains c

/-- The blanks around a number in brackets. -/
def isIndexBlank (c : Char) : Bool := [' ', '\t', '\n', '\r'].contains c

/-- A number of 64 bits and the bracket behind it, and the rest of the text. -/
def readIndex (text : List Char) : Option (Int × List Char) := do
  let text := text.dropWhile isIndexBlank
  let written := text.takeWhile fun c => c == '-' || c.isDigit
  let index ← (Text.readInteger (Text.largestSigned64 + 1) Text.largestSigned64 written).toOption
  match (text.drop written.length).dropWhile isIndexBlank with
  | ']' :: rest => return (index, rest)
  | _ => none

/-- The steps of a path behind its first name: names behind dots, and numbers in brackets. -/
def pathTail (fuel : Nat) (text : List Char) : Option (List PathStep) :=
  match fuel, text with
  | _, [] => some []
  | 0, _ => none
  | fuel + 1, '.' :: rest => do
    let name := rest.takeWhile isPathChar
    if name.isEmpty then none
    return .name (String.ofList name) :: (← pathTail fuel (rest.drop name.length))
  | fuel + 1, '[' :: rest => do
    let (index, rest) ← readIndex rest
    return .element index :: (← pathTail fuel rest)
  | _, _ => none

/-- The path that a text denotes. A text that is no path is a name as a whole. -/
def pathOf (text : String) : List PathStep :=
  let first := text.toList.takeWhile isPathChar
  let rest := text.toList.drop first.length
  match if first.isEmpty then none else pathTail rest.length rest with
  | some steps => .name (String.ofList first) :: steps
  | none => [.name text]

/-- What one place says: what is held at the ends of paths. -/
abbrev Layer := List (String × Held)

/-- Lays a layer onto a table. -/
def Layer.onto (layer : Layer) (below : Held) : Except SettingsFault Held :=
  layer.foldlM (fun table (path, held) => held.putAt (pathOf path) (some table)) below

/-- What the names of the variables begin with that hold settings, in small letters. -/
def variableMark : String := "tanto_cli__"

/-- The layer of the variables of the environment. Two underscores in a name stand for a step of the
path. -/
def Layer.ofVariables (environment : List (String × String)) : Layer :=
  environment.filterMap fun (name, value) =>
    let small := (smallName name).toList
    if variableMark.toList.isPrefixOf small then
      let path := ".".intercalate
        ((String.ofList (small.drop variableMark.length)).splitOn "__")
      some (path, .text value)
    else none

namespace Held

/-- How a number is written where a text is wanted: without an exponent, and without a point if it is
whole. -/
def numberLayout : Decimal.Layout :=
  { lowestPositional := -400, highestPositional := 400, integralTail := "", positiveExponent := "" }

/-- The text of a number. -/
def realText (value : Double) : String :=
  if value.isFinite then numberLayout.text value
  else if value.isNotANumber then "NaN"
  else if value.isNegative then "-inf" else "inf"

/-- What is held, as a text. -/
def toText : Held → Option String
  | .text value => some value
  | .flag value => some (toString value)
  | .integer value => some (toString value)
  | .real value => some (realText value)
  | .nothing | .list _ | .table _ => none

/-- The texts that say yes. -/
def affirmations : List String := ["true", "on", "yes"]

/-- The texts that say no. -/
def denials : List String := ["false", "off", "no"]

/-- What is held, as a truth value. -/
def toFlag : Held → Option Bool
  | .flag value => some value
  | .integer value => some (value != 0)
  | .real value => some (!value.isZero)
  | .text value =>
    let small := value.toLower
    if small == "1" || affirmations.contains small then some true
    else if small == "0" || denials.contains small then some false
    else none
  | .nothing | .list _ | .table _ => none

/-- The unsigned 64-bit word nearest to a number, a half to the greater one. -/
def nearestWord (value : Double) : UInt64 :=
  if value.isNotANumber || value.isNegative then 0
  else
    let (numerator, denominator) := value.magnitude
    let whole := (2 * numerator + denominator) / (2 * denominator)
    UInt64.ofNat (if value.isFinite then min whole Text.largestUnsigned64 else Text.largestUnsigned64)

/-- What is held, as an unsigned 64-bit word. -/
def toWord : Held → Option UInt64
  | .flag value => some (if value then 1 else 0)
  | .integer value => if 0 ≤ value then some (UInt64.ofNat value.toNat) else none
  | .real value => some (nearestWord value)
  | .text value =>
    let small := value.toLower
    if affirmations.contains small then some 1
    else if denials.contains small then some 0
    else (Config.parseTimeout value).toOption
  | .nothing | .list _ | .table _ => none

/-- What is held, unless it is nothing. -/
def optional {α : Type} (read : Held → Option α) : Held → Option (Option α)
  | .nothing => some none
  | held => (read held).map some

/-- Reads a list of texts. -/
def toTexts : Held → Option (List String)
  | .list elements => elements.mapM toText
  | _ => none

/-- What is held of some names in order: at the names of a table, or as the first elements of a list. -/
def parts (names : List String) : Held → Option (String → Held)
  | .table entries => some fun name => ((Held.table entries).get? name).getD .nothing
  | .list elements => some fun name => elements.getD (names.idxOf name) .nothing
  | _ => none

/-- Reads the settings of the renderer. -/
def toRendererSettings (held : Held) : Option RendererSettings := do
  let part ← held.parts ["executable", "args", "backend", "timeout_secs", "debug"]
  return {
    executable := ← (part "executable").optional toText
    args := ← (part "args").optional toTexts
    backend := ← (part "backend").optional toText
    timeoutSecs := ← (part "timeout_secs").optional toWord
    debug := ← (part "debug").optional toFlag }

/-- Reads the settings of the log. -/
def toLogSettings (held : Held) : Option LogSettings := do
  let part ← held.parts ["dir", "filter"]
  return {
    dir := ← (part "dir").optional toText
    filter := ← (part "filter").optional toText }

/-- Reads settings. -/
def toSettings (held : Held) : Option Settings := do
  let part ← held.parts ["renderer", "logging"]
  return {
    renderer := ← (part "renderer").optional toRendererSettings
    logging := ← (part "logging").optional toLogSettings }

end Held

/-- The settings of some layers, the first of which lies at the bottom. -/
def Settings.ofLayers (layers : List Layer) : Except SettingsFault Settings := do
  let table ← layers.foldlM (fun table (layer : Layer) => layer.onto table) (Held.table [])
  match table.toSettings with
  | some settings => return settings
  | none => throw .malformed

end Dialogs.Cli
