import Dialogs.Text.Blank
import Dialogs.Text.Integer

/-!
# INI files

An INI file holds texts under keys, and gathers them in sections under names in brackets. A key goes up to an
equals sign or a colon, also over several lines; a value goes up to the end of its line, apart from what is
quoted. A comment stands on a line of its own, from the first column on.
-/

namespace Dialogs

/-- What an INI file holds. -/
structure Ini where
  /-- What stands in front of the first section. -/
  entries : List (String × String) := []
  /-- The sections in their order. A name may come several times. -/
  sections : List (String × List (String × String)) := []
  deriving DecidableEq, Repr

namespace Ini

/-- The characters that a letter behind a backslash stands for. Every other character stands for itself. -/
def escapes : List (Char × Char) :=
  [('0', '\x00'), ('a', '\x07'), ('b', '\x08'), ('t', '\t'), ('r', '\r'), ('n', '\n')]

/-- The character of four hexadecimal digits. A plus sign can take the place of the first. -/
def codedChar? (text : List Char) : Option Char :=
  match text with
  | '+' :: digits => Text.hexChar? 3 digits
  | digits => Text.hexChar? 4 digits

/-- Reads up to a character that ends the text, which is not taken away. What ends with the file is
complete only if `toEnd` says so. A backslash at the end of a line joins the next line. -/
def readUntil (isEnd : Char → Bool) (toEnd : Bool) (fuel : Nat) (read : List Char)
    (text : List Char) : Option (List Char × List Char) :=
  match fuel, text with
  | 0, _ => none
  | _, [] => if toEnd then some (read.reverse, []) else none
  | fuel + 1, c :: rest =>
    if isEnd c then some (read.reverse, c :: rest)
    else if c != '\\' then readUntil isEnd toEnd fuel (c :: read) rest
    else match rest with
      | [] => none
      | '\n' :: rest => readUntil isEnd toEnd fuel read rest
      | 'x' :: rest => do
        let meant ← codedChar? rest
        readUntil isEnd toEnd fuel (meant :: read) (rest.drop 4)
      | letter :: rest =>
        readUntil isEnd toEnd fuel ((escapes.lookup letter).getD letter :: read) rest

/-- A text up to one of the characters that end it, and what is behind that. -/
def readPart (isEnd : Char → Bool) (text : List Char) : Option (List Char × List Char) := do
  let (part, rest) ← readUntil isEnd false (text.length + 1) [] text
  return (part, rest.tail)

/-- Whether a line ends at a character. -/
def isBreak (c : Char) : Bool := c == '\n' || c == '\r'

/-- A value up to the end of its line: quoted parts, and behind them anything. Blanks behind a value do not
count, and those in front of one do not either unless something quoted stands in front of them. -/
def readValue (fuel : Nat) (isFirst : Bool) (read : List Char) (text : List Char) :
    Option (String × List Char) :=
  match fuel, text with
  | 0, _ => none
  | _, [] => some (String.ofList read, [])
  | fuel + 1, c :: rest =>
    if c == '"' || c == '\'' then do
      let (quoted, rest) ← readPart (· == c) rest
      readValue fuel false (read ++ quoted) rest
    else do
      let (plain, rest) ← readUntil isBreak true (rest.length + 2) [] (c :: rest)
      let plain := if isFirst then Text.trimChars plain else Text.trimEndChars plain
      return (String.ofList (read ++ plain), rest)

/-- The blanks in front of a value. -/
def isInnerBlank (c : Char) : Bool := Text.isBlank c && !isBreak c

/-- The text behind blanks, and whether it is at the start of a line. -/
def skipBlanks : (atStart : Bool) → List Char → Bool × List Char
  | atStart, [] => (atStart, [])
  | atStart, c :: rest =>
    if Text.isBlank c then skipBlanks (c == '\n') rest else (atStart, c :: rest)

/-- Adds an entry to the last section, or in front of all sections. -/
def add (ini : Ini) (entry : String × String) : Ini :=
  match ini.sections.reverse with
  | [] => { ini with entries := ini.entries ++ [entry] }
  | (name, entries) :: earlier =>
    { ini with sections := earlier.reverse ++ [(name, entries ++ [entry])] }

/-- Reads the lines of a file behind what has been read. -/
def readLines (fuel : Nat) (atStart : Bool) (ini : Ini) (text : List Char) : Option Ini :=
  match fuel with
  | 0 => none
  | fuel + 1 =>
    match skipBlanks atStart text with
    | (_, []) => some ini
    | (atStart, c :: rest) =>
      if c == ';' || c == '#' then
        if atStart then readLines fuel true ini (rest.dropWhile (· != '\n')).tail else none
      else if c == '[' then do
        let (name, rest) ← readPart (· == ']') rest
        let opened := (String.ofList (Text.trimChars name), [])
        readLines fuel false { ini with sections := ini.sections ++ [opened] } rest
      else do
        let (key, rest) ← readPart (fun c => c == '=' || c == ':') (c :: rest)
        let key := Text.trimChars key
        if key.isEmpty then none
        let (value, rest) ← readValue (rest.length + 1) true [] (rest.dropWhile isInnerBlank)
        readLines fuel false (ini.add (String.ofList key, value)) rest

/-- Reads a file. -/
def read? (text : String) : Option Ini := readLines (text.length + 1) true {} text.toList

end Ini

end Dialogs
