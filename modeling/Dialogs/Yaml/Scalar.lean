import Dialogs.Text.Integer
import Dialogs.Yaml.Cursor

/-!
# Scalars of a YAML text

The four ways of writing a text: plain, in single or double quotes, and as a block of lines. Line breaks
within a scalar are folded: a single one becomes a space, and of several the first is dropped.
-/

namespace Dialogs.Yaml

/-- Blanks and line breaks that have been read behind some text. -/
structure Gap where
  blanks : List Char := []
  /-- The first line break. -/
  first : List Char := []
  /-- The line breaks behind it. -/
  others : List Char := []
  /-- Whether a line has been ended. -/
  broken : Bool := false
  deriving Repr

namespace Gap

/-- What a gap between two parts of a text becomes. -/
def folded (gap : Gap) : List Char :=
  if !gap.broken then gap.blanks
  else if gap.first == ['\n'] then if gap.others.isEmpty then [' '] else gap.others
  else gap.first ++ gap.others

/-- Reads a gap. -/
def read (fuel : Nat) (gap : Gap) (cursor : Cursor) : Gap × Cursor :=
  match fuel with
  | 0 => (gap, cursor)
  | fuel + 1 =>
    let c := cursor.next
    if isBlank c then
      read fuel (if gap.broken then gap else { gap with blanks := gap.blanks ++ [c] }) cursor.skip
    else if isBreak c then
      let (newline, behind) := cursor.readBreak
      if gap.broken then read fuel { gap with others := gap.others ++ newline } behind
      else read fuel { gap with blanks := [], first := newline, broken := true } behind
    else (gap, cursor)

/-- Whether a gap has a tab in front of a column on one of its later lines. -/
def hasTabBefore (fuel : Nat) (broken : Bool) (column : Nat) (cursor : Cursor) : Bool :=
  match fuel with
  | 0 => false
  | fuel + 1 =>
    let c := cursor.next
    if isBlank c then
      broken && c == '\t' && cursor.column < column || hasTabBefore fuel broken column cursor.skip
    else if isBreak c then hasTabBefore fuel true column cursor.readBreak.2
    else false

end Gap

/-- The characters that a letter behind a backslash stands for. -/
def escapes : List (Char × Char) :=
  [('0', '\x00'), ('a', '\x07'), ('b', '\x08'), ('t', '\t'), ('\t', '\t'), ('n', '\n'),
   ('v', '\x0B'), ('f', '\x0C'), ('r', '\r'), ('e', '\x1B'), (' ', ' '), ('"', '"'), ('/', '/'),
   ('\\', '\\'), ('N', '\x85'), ('_', '\xA0'), ('L', '\u2028'), ('P', '\u2029')]

/-- The number of hexadecimal digits behind a letter. -/
def hexLength (letter : Char) : Option Nat :=
  if letter == 'x' then some 2 else if letter == 'u' then some 4
  else if letter == 'U' then some 8 else none

/-- An escape behind its backslash: what it stands for, and the place behind it. -/
def readEscape (cursor : Cursor) : Option (Char × Cursor) :=
  let letter := cursor.next
  match hexLength letter with
  | some length => do
    let meant ← Text.hexChar? length cursor.rest.tail
    return (meant, cursor.skipMany (length + 1))
  | none => do
    let (_, meant) ← escapes.find? fun (other, _) => other == letter
    return (meant, cursor.skip)

/-- A piece of quoted text up to a blank or the closing quote, last character first; and whether the
end of its line is escaped. -/
def readQuotedPiece (single : Bool) (fuel : Nat) (read : List Char) (cursor : Cursor) :
    Option (List Char × Bool × Cursor) :=
  match fuel with
  | 0 => none
  | fuel + 1 =>
    let c := cursor.next
    if isBlankOrEnd c then some (read, false, cursor)
    else if single then
      if c == '\'' then
        if cursor.peek 1 == '\'' then
          readQuotedPiece single fuel ('\'' :: read) (cursor.skipMany 2)
        else some (read, false, cursor)
      else readQuotedPiece single fuel (c :: read) cursor.skip
    else if c == '"' then some (read, false, cursor)
    else if c == '\\' then
      if isBreak (cursor.peek 1) then some (read, true, cursor.skip.readBreak.2)
      else do
        let (meant, behind) ← readEscape cursor.skip
        readQuotedPiece single fuel (meant :: read) behind
    else readQuotedPiece single fuel (c :: read) cursor.skip

/-- Quoted text behind its opening quote, last character first. -/
def readQuoted (single : Bool) (fuel : Nat) (read : List Char) (cursor : Cursor) :
    Option (List Char × Cursor) :=
  match fuel with
  | 0 => none
  | fuel + 1 =>
    if cursor.isAtBoundary || cursor.next == endMark then none
    else do
      let (read, joined, behind) ← readQuotedPiece single (cursor.rest.length + 1) read cursor
      if behind.next == (if single then '\'' else '"') then
        return (read.reverse, behind.skip)
      let start : Gap := { broken := joined }
      let (gap, behind) := start.read (behind.rest.length + 1) behind
      readQuoted single fuel (gap.folded.reverse ++ read) behind

/-- The characters that end plain text within brackets. -/
def isFlowIndicator (c : Char) : Bool := [',', '[', ']', '\x7b', '\x7d'].contains c

/-- A piece of plain text without blanks, last character first. Within brackets a colon may not stand in
front of one. -/
def readPlainPiece (flow : Bool) (fuel : Nat) (read : List Char) (cursor : Cursor) :
    Option (List Char × Cursor) :=
  match fuel with
  | 0 => none
  | fuel + 1 =>
    let c := cursor.next
    let following := cursor.peek 1
    if isBlankOrEnd c then some (read, cursor)
    else if flow && c == ':' && (following == '?' || isFlowIndicator following) then none
    else if c == ':' && isBlankOrEnd following || flow && isFlowIndicator c then some (read, cursor)
    else readPlainPiece flow fuel (c :: read) cursor.skip

/-- Plain text, last character first: the text, the place behind it, and whether a line was ended
there. -/
def readPlain (flow : Bool) (column : Nat) (fuel : Nat) (read : List Char) (gap : Gap)
    (cursor : Cursor) : Option (List Char × Cursor × Bool) :=
  match fuel with
  | 0 => none
  | fuel + 1 =>
    if cursor.isAtBoundary || cursor.next == '#' then some (read.reverse, cursor, gap.broken)
    else do
      let (piece, behind) ← readPlainPiece flow (cursor.rest.length + 1) [] cursor
      let joined := if piece.isEmpty then read else piece ++ gap.folded.reverse ++ read
      let gap := if piece.isEmpty then gap else {}
      if !(isBlank behind.next || isBreak behind.next) then
        return (joined.reverse, behind, gap.broken)
      if Gap.hasTabBefore (behind.rest.length + 1) gap.broken column behind then none
      let (gap, next) := gap.read (behind.rest.length + 1) behind
      if !flow && next.column < column then return (joined.reverse, next, gap.broken)
      readPlain flow column fuel joined gap next

/-- What is kept of the line breaks at the end of a block. -/
inductive Chomping where
  | strip
  | clip
  | keep
  deriving DecidableEq, Repr

/-- Reads the empty lines in a block, and finds its indentation if that is not known yet: zero stands for
that. -/
def readEmptyLines (fuel : Nat) (indent widest : Nat) (read : List Char) (cursor : Cursor) :
    Option (List Char × Nat × Cursor) :=
  match fuel with
  | 0 => none
  | fuel + 1 =>
    let spaces := cursor.rest.takeWhile (· == ' ')
    let count := if indent == 0 then spaces.length
      else min spaces.length (indent - cursor.column)
    let behind := cursor.skipMany count
    let widest := max widest behind.column
    if (indent == 0 || behind.column < indent) && behind.next == '\t' then none
    else if isBreak behind.next then
      let (newline, behind) := behind.readBreak
      readEmptyLines fuel indent widest (read ++ newline) behind
    else some (read, widest, behind)

/-- The lines of a block, from one with the right indentation on. The text is last character first. -/
def readBlockLines (literal : Bool) (indent : Nat) (fuel : Nat) (read leading trailing : List Char)
    (blankBefore : Bool) (cursor : Cursor) : Option (List Char × List Char × List Char × Cursor) :=
  match fuel with
  | 0 => none
  | fuel + 1 =>
    if cursor.column != indent || cursor.next == endMark then some (read, leading, trailing, cursor)
    else do
      let blankHere := isBlank cursor.next
      let folds := !literal && leading == ['\n'] && !blankBefore && !blankHere
      let joint := if folds then if trailing.isEmpty then [' '] else trailing
        else leading ++ trailing
      let line := cursor.rest.takeWhile fun c => !isBreakOrEnd c
      let behind := cursor.skipMany line.length
      let (leading, behind) := behind.readBreak
      let (trailing, _, behind) ← readEmptyLines (behind.rest.length + 1) indent 0 [] behind
      readBlockLines literal indent fuel (line.reverse ++ joint.reverse ++ read) leading trailing
        blankHere behind

/-- The header of a block: how it ends, and how much it is indented, if that is said. -/
def readBlockHeader (cursor : Cursor) : Option (Chomping × Option Nat × Cursor) :=
  let chomping (cursor : Cursor) : Option (Chomping × Cursor) :=
    if cursor.next == '+' then some (.keep, cursor.skip)
    else if cursor.next == '-' then some (.strip, cursor.skip)
    else none
  let indentation (cursor : Cursor) : Option (Option Nat × Cursor) :=
    if cursor.next == '0' then none
    else if cursor.next.isDigit then some (some (cursor.next.toNat - 48), cursor.skip)
    else some (none, cursor)
  match chomping cursor with
  | some (chomping, behind) => do
    let (indent, behind) ← indentation behind
    return (chomping, indent, behind)
  | none => do
    let (indent, behind) ← indentation cursor
    match chomping behind with
    | some (chomping, behind) => return (chomping, indent, behind)
    | none => return (.clip, indent, behind)

/-- A block behind its mark. `outer` is the indentation around it. -/
def readBlock (literal : Bool) (outer : Int) (cursor : Cursor) : Option (List Char × Cursor) := do
  let (chomping, said, behind) ← readBlockHeader cursor
  let behind := behind.skipWhile isBlank
  let behind := if behind.next == '#' then behind.skipWhile fun c => !isBreakOrEnd c else behind
  if !isBreakOrEnd behind.next then none
  let (_, behind) := behind.readBreak
  let known := match said with
    | some more => (if outer ≥ 0 then outer.toNat else 0) + more
    | none => 0
  let fuel := behind.rest.length + 1
  let (trailing, widest, behind) ← readEmptyLines fuel known 0 [] behind
  let indent := if known != 0 then known else max widest (max (outer + 1).toNat 1)
  let (read, leading, trailing, behind) ←
    readBlockLines literal indent fuel [] [] trailing false behind
  let ending := match chomping with
    | .strip => []
    | .clip => leading
    | .keep => leading ++ trailing
  return (read.reverse ++ ending, behind)

end Dialogs.Yaml
