import Dialogs.Decimal.Reading
import Dialogs.Regex.Reader
import Dialogs.Text.Integer
import Dialogs.Text.Pieces

/-!
# Filters of the log

A filter says which records the log keeps: directives between commas, each with a level, a target, or a
span and its fields in brackets, such as `info`, `renderer=debug` and `[run{mode=fast}]=trace`. Here a filter
is only checked.

A directive is walked through without the blanks around it, but its parts are cut from it as it stands, at
the same numbers of bytes. So blanks in front shift every part, and a part may begin or end within a
character, which no program survives.
-/

namespace Dialogs.Cli.LogFilter

/-- Why a filter is refused. -/
inductive Fault where
  | level
  | directive
  /-- The value of a field is no expression that can be matched. -/
  | field (cause : RegexFault)
  /-- A part begins or ends within a character. -/
  | splitCharacter
  deriving DecidableEq, Repr

/-- The wording of a fault. The last has none, since nothing survives it. -/
def Fault.message : Fault → String
  | .level =>
    "error parsing level filter: expected one of \"off\", \"error\", \"warn\", \"info\", " ++
      "\"debug\", \"trace\", or a number 0-5"
  | .directive => "invalid filter directive"
  | .field cause => "invalid field filter: " ++ cause.message
  | .splitCharacter => ""

/-- What a fault says, and what is behind it. -/
def Fault.causes (fault : Fault) : List String :=
  match fault with
  | .level => [fault.message, fault.message]
  | .field cause => [fault.message, cause.message]
  | .directive | .splitCharacter => [fault.message]

/-- The names of levels. -/
def levels : List String := ["off", "error", "warn", "info", "debug", "trace"]

/-- Whether a text is a level: a name in letters of either case, or a number up to five. -/
def isLevel (text : List Char) : Bool :=
  text.isEmpty || levels.contains (String.ofList (text.map Char.toLower)) ||
    (Text.readNatural 5 text).isOk

/-- What is behind a number of bytes at the start of a text, unless these end within a character. -/
def behindBytes? : (count : Nat) → List Char → Option (List Char)
  | 0, text => some text
  | _, [] => none
  | count, c :: rest => if c.utf8Size ≤ count then behindBytes? (count - c.utf8Size) rest else none

/-- A number of bytes at the start of a text, unless these end within a character. -/
def firstBytes? : (count : Nat) → List Char → Option (List Char)
  | 0, _ => some []
  | _, [] => none
  | count, c :: rest =>
    if c.utf8Size ≤ count then (firstBytes? (count - c.utf8Size) rest).map (c :: ·) else none

/-- The part of a directive between two numbers of bytes. -/
def part (directive : List Char) (start stop : Nat) : Except Fault (List Char) :=
  match (behindBytes? start directive).bind (firstBytes? (stop - start)) with
  | some part => .ok part
  | none => .error .splitCharacter

/-- The part of a directive behind a number of bytes. -/
def tail (directive : List Char) (start : Nat) : Except Fault (List Char) :=
  match behindBytes? start directive with
  | some tail => .ok tail
  | none => .error .splitCharacter

/-- Whether a field can have a value as it is: a truth value, an integer of 64 bits or a number. -/
def isPlainValue (value : List Char) : Bool :=
  value == "true".toList || value == "false".toList ||
    (Text.readNatural Text.largestUnsigned64 value).isOk ||
    (Text.readInteger (Text.largestSigned64 + 1) Text.largestSigned64 value).isOk ||
    (Decimal.readDouble value).isSome

/-- Checks a field: a name, and perhaps a value between equals signs. A value that is not plain is an
expression. -/
def checkField (field : List Char) : Except Fault Unit :=
  if field.isEmpty then .error .directive
  else match Text.piecesChars '=' field with
    | _ :: value :: _ =>
      if isPlainValue value then .ok ()
      else (Regex.checkText (String.ofList value)).mapError .field
    | _ => .ok ()

/-- Where a directive stands at a character. Parts are marked by the number of bytes in front of them. -/
inductive Place where
  | start
  /-- In a level or a target, nothing else having been read. -/
  | word
  | span (origin : Nat)
  | field (origin : Nat)
  | fields
  | target
  /-- In a level behind an equals sign. -/
  | level (origin : Nat)
  deriving DecidableEq, Repr

/-- The place behind a character in front of which there are `index` bytes, if the character can stand
there. -/
def Place.behind (directive : List Char) (place : Place) (index : Nat) (c : Char) :
    Except Fault Place := do
  match place with
  | .start =>
    if c == '[' then return .span (index + 1)
    else if Text.isAlphanumeric c || ['-', ':', '_'].contains c then return .word
    else throw .directive
  | .word =>
    if c == '=' || c == '[' then
      let _ ← part directive 0 index
      return if c == '=' then .level (index + 1) else .span (index + 1)
    else return .word
  | .span origin =>
    if c == ']' || c == '\x7b' then
      let _ ← part directive origin index
      return if c == ']' then .target else .field (index + 1)
    else return place
  | .field origin =>
    if c == '\x7d' then
      checkField (← part directive origin index)
      return .fields
    else return place
  | .fields => if c == ']' then return .target else throw .directive
  | .target => if c == '=' then return .level (index + 1) else throw .directive
  | .level _ => return place

/-- The place at the end of some characters in front of which there are `index` bytes. -/
def walk (directive : List Char) : Place → (index : Nat) → List Char → Except Fault Place
  | place, _, [] => .ok place
  | place, index, c :: rest => do
    walk directive (← place.behind directive index c) (index + c.utf8Size) rest

/-- Checks a directive. -/
def checkDirective (directive : List Char) : Except Fault Unit := do
  match ← walk directive .start 0 (Text.trimChars directive) with
  | .word | .target => return
  | .level origin => if isLevel (← tail directive origin) then return else throw .level
  | .start | .span _ | .field _ | .fields => throw .directive

/-- The directives of a filter, without those that are empty. -/
def directives (text : String) : List (List Char) :=
  (Text.piecesChars ',' text.toList).filter fun directive => !directive.isEmpty

/-- Checks a filter. -/
def check (text : String) : Except Fault Unit := (directives text).forM checkDirective

/-- What is said about a directive that is left out of a filter. -/
def complaint (directive : List Char) (fault : Fault) : String :=
  "ignoring \x60" ++ String.ofList directive ++ "\x60: " ++ fault.message ++ "\n"

/-- What is said about the directives that are left out of a filter because they are faulty, if the program
survives them. -/
def complaints (text : String) : Option String :=
  (directives text).foldlM (fun said directive =>
    match checkDirective directive with
    | .ok () => some said
    | .error .splitCharacter => none
    | .error fault => some (said ++ complaint directive fault)) ""

end Dialogs.Cli.LogFilter
