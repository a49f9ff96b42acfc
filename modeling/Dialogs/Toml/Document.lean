import Dialogs.Text.Utf8
import Dialogs.Toml.Scalar

/-!
# TOML documents

A document is a list of lines: headers, which open tables, and keys with values. An array may go on over
several lines, a table in braces may not. A document is nested at most to a fixed depth.
-/

namespace Dialogs.Toml

/-- Whether a character may be part of a key without quotes. -/
def isKeyChar (c : Char) : Bool := c.isAlphanum || c == '_' || c == '-'

/-- A part of a key. -/
def readKeyPart (text : List Char) : Option (String × List Char) :=
  match text with
  | '"' :: _ | '\'' :: _ => readLine text
  | _ =>
    let part := text.takeWhile isKeyChar
    if part.isEmpty then none else some (String.ofList part, text.drop part.length)

/-- A key: the parts on its path, its last part, and what is behind it and the blanks that follow. -/
def readKey (fuel : Nat) (path : List String) (text : List Char) :
    Option (List String × String × List Char) :=
  match fuel with
  | 0 => none
  | fuel + 1 => do
    let (part, rest) ← readKeyPart (text.dropWhile isSpace)
    match rest.dropWhile isSpace with
    | '.' :: rest => readKey fuel (path ++ [part]) rest
    | rest => return (path, part, rest)

/-- The rest behind blanks, newlines and comments. -/
def skipGaps (fuel : Nat) (text : List Char) : List Char :=
  match fuel, text with
  | 0, text => text
  | fuel + 1, ' ' :: rest | fuel + 1, '\t' :: rest | fuel + 1, '\n' :: rest
  | fuel + 1, '\r' :: '\n' :: rest => skipGaps fuel rest
  | fuel + 1, '#' :: rest => skipGaps fuel (rest.dropWhile isVisible)
  | _, text => text

mutual

/-- A value that is nested at most to a depth. -/
def readValue (fuel room : Nat) (text : List Char) : Option (Value × List Char) :=
  match fuel, room, text with
  | 0, _, _ => none
  | fuel + 1, room + 1, '[' :: rest => do
    let (elements, rest) ← readElements fuel room [] rest
    return (.list elements, rest)
  | fuel + 1, room + 1, '\x7b' :: rest =>
    match rest.dropWhile isSpace with
    | '\x7d' :: rest => some (.table [], rest)
    | rest => do
      let (body, rest) ← readPairs fuel room [] rest
      return (.table (valuesOf body), rest)
  | _, _, text => readScalar text

/-- The elements of an array up to its closing bracket, behind those that have been read. -/
def readElements (fuel room : Nat) (read : List Value) (text : List Char) :
    Option (List Value × List Char) :=
  match fuel with
  | 0 => none
  | fuel + 1 =>
    match skipGaps text.length text with
    | ']' :: rest => some (read.reverse, rest)
    | start => do
      let (value, rest) ← readValue fuel room start
      match skipGaps rest.length rest with
      | ',' :: rest => readElements fuel room (value :: read) rest
      | ']' :: rest => return ((value :: read).reverse, rest)
      | _ => none

/-- The keys and values of a table in braces up to its closing brace, behind those that have been read. -/
def readPairs (fuel room : Nat) (read : Body) (text : List Char) : Option (Body × List Char) :=
  match fuel with
  | 0 => none
  | fuel + 1 => do
    let (path, key, rest) ← readKey (text.length + 1) [] text
    let '=' :: rest := rest | none
    let (value, rest) ← readValue fuel room (rest.dropWhile isSpace)
    let read ← read.addValue path key value
    match rest.dropWhile isSpace with
    | ',' :: rest => readPairs fuel room read rest
    | '\x7d' :: rest => return (read, rest)
    | _ => none

end

/-- How deep a value may be nested. -/
def nestingLimit : Nat := 79

/-- The rest behind the end of a line and the comment in front of it. -/
def lineEnd? (text : List Char) : Option (List Char) :=
  let rest := match text.dropWhile isSpace with
    | '#' :: rest => rest.dropWhile isVisible
    | rest => rest
  if rest.isEmpty then some [] else newline? rest

/-- What lines have said so far, and the path of the header that they stand below. -/
structure Draft where
  body : Body := []
  header : List String := []

/-- Reads a line: what is said with it, and the lines behind it. -/
def Draft.readLine (draft : Draft) (text : List Char) : Option (Draft × List Char) :=
  match text.dropWhile isSpace with
  | '[' :: '[' :: rest => do
    let (path, key, rest) ← readKey (rest.length + 1) [] rest
    let ']' :: ']' :: rest := rest | none
    return (⟨← draft.body.addTable path key, path ++ [key]⟩, ← lineEnd? rest)
  | '[' :: rest => do
    let (path, key, rest) ← readKey (rest.length + 1) [] rest
    let ']' :: rest := rest | none
    return (⟨← draft.body.openTable path key, path ++ [key]⟩, ← lineEnd? rest)
  | start =>
    match lineEnd? start with
    | some rest => some (draft, rest)
    | none => do
      let (path, key, rest) ← readKey (start.length + 1) [] start
      let '=' :: rest := rest | none
      let (value, rest) ← readValue (2 * rest.length + 1) nestingLimit (rest.dropWhile isSpace)
      let body ← draft.body.addBelow draft.header path key value
      return (⟨body, draft.header⟩, ← lineEnd? rest)

/-- Reads lines. -/
def Draft.readLines (fuel : Nat) (draft : Draft) (text : List Char) : Option Draft :=
  match fuel, text with
  | _, [] => some draft
  | 0, _ => none
  | fuel + 1, text => do
    let (draft, rest) ← draft.readLine text
    draft.readLines fuel rest

/-- Reads a document. A byte order mark is not part of it. -/
def readDocument (text : String) : Option (List (String × Value)) :=
  let characters := Text.Utf8.withoutMark text.toList
  (Draft.readLines (characters.length + 1) {} characters).map fun draft => valuesOf draft.body

end Dialogs.Toml
