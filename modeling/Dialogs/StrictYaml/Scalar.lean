import Dialogs.StrictYaml.Cursor
import Dialogs.Yaml.Scalar

/-!
# Scalars of strict YAML

Scalars are plain, quoted, or blocks of lines. The lines of a scalar are joined as in every YAML; but each
further line of a quoted scalar has to be indented as far as the block around asks for, and what follows it
on its last line is limited.
-/

namespace Dialogs.StrictYaml

/-- What is between two words of a scalar that may stand on different lines. -/
structure Fold where
  /-- The blanks on the line of the first word, last first. -/
  blanks : List Char := []
  /-- Whether the line of the first word ends. -/
  broken : Bool := false
  /-- The number of further line breaks. -/
  further : Nat := 0

/-- The text that joins the words: a single line break counts as a space. -/
def Fold.text (fold : Fold) (leading : Bool) : List Char :=
  if !leading then fold.blanks.reverse
  else if fold.broken && fold.further == 0 then [' ']
  else List.replicate fold.further '\n'

/-- An escape behind its backslash: what it stands for, and its length. -/
def readEscape (text : List Char) : Option (Char × Nat) := do
  let letter ← text.head?
  match Yaml.hexLength letter with
  | some length => return (← Text.hexChar? length text.tail, length + 1)
  | none => return ((← Yaml.escapes.find? fun (other, _) => other == letter).2, 1)

/-- A word of a quoted scalar, last character first; and whether the end of its line is escaped. -/
def readQuotedWord (single : Bool) (fuel : Nat) (read : List Char) (cursor : Cursor) :
    Option (List Char × Bool × Cursor) :=
  match fuel with
  | 0 => none
  | fuel + 1 =>
    let c := cursor.next
    if isBlankOrEnd c then some (read, false, cursor)
    else if single then
      if c == '\'' then
        if cursor.peek 1 == '\'' then readQuotedWord single fuel ('\'' :: read) (cursor.skip 2)
        else some (read, false, cursor)
      else readQuotedWord single fuel (c :: read) (cursor.skip 1)
    else if c == '"' then some (read, false, cursor)
    else if c == '\\' then
      if isBreak (cursor.peek 1) then some (read, true, (cursor.skip 1).skipBreak)
      else do
        let (meant, length) ← readEscape cursor.rest.tail
        readQuotedWord single fuel (meant :: read) (cursor.skip (length + 1))
    else readQuotedWord single fuel (c :: read) (cursor.skip 1)

/-- What is between two words of a quoted scalar. A tab does not indent. -/
def readQuotedFold (indent : Int) (fuel : Nat) (leading : Bool) (fold : Fold) (cursor : Cursor) :
    Option (Bool × Fold × Cursor) :=
  match fuel with
  | 0 => none
  | fuel + 1 =>
    let c := cursor.next
    if isBlank c then
      if !leading then
        readQuotedFold indent fuel leading { fold with blanks := c :: fold.blanks }
          (cursor.skipBlanks 1)
      else if c == '\t' && (cursor.column : Int) < indent then none
      else readQuotedFold indent fuel leading fold (cursor.skipBlanks 1)
    else if isBreak c then
      if leading then
        readQuotedFold indent fuel true { fold with further := fold.further + 1 } cursor.skipBreak
      else readQuotedFold indent fuel true { fold with broken := true } cursor.skipBreak
    else some (leading, fold, cursor)

/-- Quoted text behind its opening quote, up to the closing one. -/
def readQuotedText (single : Bool) (indent : Int) (fuel : Nat) (read : List Char) (cursor : Cursor) :
    Option (List Char × Cursor) :=
  match fuel with
  | 0 => none
  | fuel + 1 =>
    if cursor.isAtBoundary || cursor.next == endMark || (cursor.column : Int) < indent then none
    else do
      let (read, joined, behind) ← readQuotedWord single (cursor.rest.length + 1) read cursor
      if behind.next == (if single then '\'' else '"') then
        return (read.reverse, behind)
      let (leading, fold, behind) ←
        readQuotedFold indent (behind.rest.length + 1) joined {} behind
      readQuotedText single indent fuel ((fold.text leading).reverse ++ read) behind

/-- A quoted scalar, with its quotes. Behind it only the marks of what is around it may stand. -/
def readQuoted (single flow : Bool) (indent : Int) (cursor : Cursor) : Option (String × Cursor) := do
  let inner := cursor.skip 1
  let (text, behind) ← readQuotedText single indent (inner.rest.length + 1) [] inner
  let gap ← (behind.skip 1).skipGap true
  let c := gap.cursor.next
  let fits :=
    if flow then [',', '\x7d', ']', ':'].contains c
    else c == ':' && cursor.line == gap.cursor.line
  if fits || isBreakOrEnd c then return (String.ofList text, gap.cursor) else none

/-- Whether a character can be part of plain text. -/
def isPlainChar (flow : Bool) (c next : Char) : Bool :=
  if c == ':' then !(isBlankOrEnd next || flow && isFlow next) else !(flow && isFlow c)

/-- The length of a word of plain text. -/
def plainLength (flow : Bool) : List Char → Nat
  | [] => 0
  | c :: rest =>
    if isBlankOrEnd c || !isPlainChar flow c (rest.headD endMark) then 0
    else plainLength flow rest + 1

/-- What is between two words of plain text. A tab indents only a line on which nothing else stands. -/
def readPlainFold (indent : Int) (fuel : Nat) (fold : Fold) (cursor : Cursor) :
    Option (Fold × Cursor) :=
  match fuel with
  | 0 => none
  | fuel + 1 =>
    let c := cursor.next
    if isBlank c then
      if !cursor.leading then
        readPlainFold indent fuel { fold with blanks := c :: fold.blanks } (cursor.skipBlanks 1)
      else if (cursor.column : Int) < indent && c == '\t' then do
        let gap ← cursor.skipGap true
        if isBreakOrEnd gap.cursor.next then readPlainFold indent fuel fold gap.cursor else none
      else readPlainFold indent fuel fold (cursor.skipBlanks 1)
    else if isBreak c then
      if cursor.leading then
        readPlainFold indent fuel { fold with further := fold.further + 1 } cursor.skipBreak
      else readPlainFold indent fuel { fold with blanks := [], broken := true } cursor.skipBreak
    else some (fold, cursor)

/-- Plain text whose further lines are indented. The text is last character first; what has been read of
the gap in front is `fold`. -/
def readPlainText (flow : Bool) (indent : Int) (fuel : Nat) (read : List Char) (fold : Fold)
    (cursor : Cursor) : Option (List Char × Cursor) :=
  match fuel with
  | 0 => none
  | fuel + 1 =>
    if cursor.isAtBoundary || cursor.next == '#' then some (read, cursor)
    else if flow && cursor.next == '-' && isFlow (cursor.peek 1) then none
    else do
      let length := plainLength flow cursor.rest
      let (read, fold) :=
        if length == 0 then (read, fold)
        else
          ((cursor.rest.take length).reverse ++ (fold.text cursor.leading).reverse ++ read, {})
      let behind := cursor.skip length
      if !(isBlank behind.next || isBreak behind.next) then return (read, behind)
      let (fold, behind) ← readPlainFold indent (behind.rest.length + 1) fold behind
      if !flow && (behind.column : Int) < indent then return (read, behind)
      readPlainText flow indent fuel read fold behind

/-- A plain scalar in a block of an indentation. -/
def readPlain (flow : Bool) (indent : Int) (cursor : Cursor) : Option (String × Cursor) := do
  if flow && (cursor.column : Int) < indent + 1 then none
  let (read, behind) ← readPlainText flow (indent + 1) (cursor.rest.length + 1) [] {} cursor
  if read.isEmpty then none
  return (String.ofList read.reverse, behind)

/-- What becomes of the line breaks at the end of a block of lines. -/
inductive Chomping where
  | clip
  | strip
  | keep
  deriving DecidableEq, Repr

/-- The first line of a block of lines. -/
structure BlockHeader where
  chomping : Chomping := .clip
  /-- How far the lines are indented, if that is said. -/
  increment : Nat := 0

/-- Reads what stands behind the mark of a block of lines: a sign and a digit, in either order. -/
def readBlockHeader (cursor : Cursor) : Option (BlockHeader × Cursor) :=
  let sign? (c : Char) : Option Chomping :=
    if c == '+' then some .keep else if c == '-' then some .strip else none
  let first := cursor.next
  let second := cursor.peek 1
  match sign? first with
  | some chomping =>
    if !second.isDigit then some ({ chomping }, cursor.skip 1)
    else if second == '0' then none
    else some (⟨chomping, second.toNat - 48⟩, cursor.skip 2)
  | none =>
    if !first.isDigit then some ({}, cursor)
    else if first == '0' then none
    else match sign? second with
      | some chomping => some (⟨chomping, first.toNat - 48⟩, cursor.skip 2)
      | none => some ({ increment := first.toNat - 48 }, cursor.skip 1)

/-- The place behind the indentation of a line and the empty lines in front of it, with their number. -/
def skipIndent (indent fuel breaks : Nat) (cursor : Cursor) : Nat × Cursor :=
  match fuel with
  | 0 => (breaks, cursor)
  | fuel + 1 =>
    let spaces := ((cursor.rest.take (indent - cursor.column)).takeWhile (· == ' ')).length
    let behind := cursor.skipBlanks spaces
    if isBreak behind.next then skipIndent indent fuel (breaks + 1) behind.skipBreak
    else (breaks, behind)

/-- The place at the first line of a block that is not empty: the number of empty lines in front of it, and
how far the furthest of these lines is indented. -/
def findIndent (fuel breaks furthest : Nat) (cursor : Cursor) : Nat × Nat × Cursor :=
  match fuel with
  | 0 => (breaks, furthest, cursor)
  | fuel + 1 =>
    let behind := cursor.skipBlanks (cursor.rest.takeWhile (· == ' ')).length
    let furthest := max furthest behind.column
    if isBreak behind.next then findIndent fuel (breaks + 1) furthest behind.skipBreak
    else (breaks, furthest, behind)

/-- What has been read of a block of lines. -/
structure Lines where
  /-- The text, last character first, without the end of its last line. -/
  read : List Char := []
  /-- Whether the last line has ended. -/
  ended : Bool := false
  /-- The number of empty lines behind it. -/
  breaks : Nat
  /-- Whether the last line begins with a blank. -/
  blank : Bool := false
  cursor : Cursor

/-- Reads the lines of a block that are indented far enough. -/
def readLines (literal : Bool) (indent : Nat) (fuel : Nat) (lines : Lines) : Lines :=
  match fuel with
  | 0 => lines
  | fuel + 1 =>
    let cursor := lines.cursor
    if cursor.column != indent || cursor.next == endMark || cursor.isAtMarks '.' then lines
    else
      let blank := isBlank cursor.next
      let joint : List Char :=
        if !literal && lines.ended && !lines.blank && !blank then
          if lines.breaks == 0 then [' '] else List.replicate lines.breaks '\n'
        else List.replicate (lines.breaks + lines.ended.toNat) '\n'
      let line := cursor.rest.takeWhile fun c => !isBreak c
      let behind := cursor.skip line.length
      let read := line.reverse ++ joint ++ lines.read
      if behind.next == endMark then { read, breaks := 0, blank, cursor := behind }
      else
        let (breaks, next) := skipIndent indent (behind.rest.length + 1) 0 behind.skipBreak
        readLines literal indent fuel { read, ended := true, breaks, blank, cursor := next }

/-- A block of lines behind its mark, within a block of an indentation. -/
def readBlock (literal : Bool) (around : Int) (cursor : Cursor) : Option (String × Cursor) := do
  let (header, behind) ← readBlockHeader cursor
  let gap ← behind.skipGap true
  if !isBreakOrEnd gap.cursor.next then none
  let start := gap.cursor.skipBreak
  if start.next == '\t' then none
  let fuel := start.rest.length + 1
  let (breaks, indent, first) :=
    if header.increment = 0 then
      let (breaks, furthest, first) := findIndent fuel 0 0 start
      (breaks, max furthest (around + 1).toNat, first)
    else
      let indent := if 0 ≤ around then around.toNat + header.increment else header.increment
      let (breaks, first) := skipIndent indent fuel 0 start
      (breaks, indent, first)
  if first.next == endMark then
    let text : List Char :=
      if header.chomping = .strip || first.line == cursor.line then []
      else if header.chomping = .keep && breaks != 0 then List.replicate breaks '\n'
      else ['\n']
    return (String.ofList text, first)
  if first.column < indent && around < (first.column : Int) then none
  let lines := readLines literal indent fuel { breaks, cursor := first }
  let atEnd := lines.cursor.next == endMark && max indent 1 ≤ lines.cursor.column
  let tail :=
    (if header.chomping = .strip then 0 else lines.ended.toNat + atEnd.toNat) +
      (if header.chomping = .keep then lines.breaks else 0)
  return (String.ofList (lines.read.reverse ++ List.replicate tail '\n'), lines.cursor)

end Dialogs.StrictYaml
