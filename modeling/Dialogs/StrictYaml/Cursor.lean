/-!
# Places in a strict YAML text

Strict YAML is YAML 1.2, in which a line ends at a line feed or a carriage return only. A cursor is a place
in a text: what is left, and the line and column. Behind the end of the text it sees the character U+0000,
which also ends a text in which it stands.
-/

namespace Dialogs.StrictYaml

/-- The character that stands for the end of the text. -/
def endMark : Char := '\x00'

/-- Whether a character ends a line. -/
def isBreak (c : Char) : Bool := c == '\n' || c == '\r'

/-- Whether a character is a space or a tab. -/
def isBlank (c : Char) : Bool := c == ' ' || c == '\t'

/-- Whether a line ends at a character. -/
def isBreakOrEnd (c : Char) : Bool := isBreak c || c == endMark

/-- Whether a word ends at a character. -/
def isBlankOrEnd (c : Char) : Bool := isBlank c || isBreakOrEnd c

/-- Whether a character is a bracket, a brace or a comma. -/
def isFlow (c : Char) : Bool := [',', '[', ']', '\x7b', '\x7d'].contains c

/-- Whether a character may be part of the name of a directive or of a handle. -/
def isNameChar (c : Char) : Bool := c.isAlphanum || c == '_' || c == '-'

/-- A place in a text. -/
structure Cursor where
  rest : List Char
  index : Nat := 0
  line : Nat := 0
  column : Nat := 0
  /-- Whether nothing but blanks stands in front on the line. -/
  leading : Bool := true
  deriving Repr

namespace Cursor

/-- The start of a text. -/
def start (text : List Char) : Cursor := { rest := text.takeWhile (· != endMark) }

/-- The character at a distance. -/
def peek (cursor : Cursor) (distance : Nat) : Char := (cursor.rest.drop distance).headD endMark

/-- The next character. -/
def next (cursor : Cursor) : Char := cursor.rest.headD endMark

/-- The place behind some blanks. -/
def skipBlanks (cursor : Cursor) (count : Nat) : Cursor :=
  { cursor with
    rest := cursor.rest.drop count
    index := cursor.index + count
    column := cursor.column + count }

/-- The place behind some characters, none of which ends a line. -/
def skip (cursor : Cursor) (count : Nat) : Cursor :=
  if count = 0 then cursor else { cursor.skipBlanks count with leading := false }

/-- The place behind the end of a line, if there is one. -/
def skipBreak (cursor : Cursor) : Cursor :=
  let behind (rest : List Char) (count : Nat) : Cursor :=
    { rest, index := cursor.index + count, line := cursor.line + 1 }
  match cursor.rest with
  | '\r' :: '\n' :: rest => behind rest 2
  | c :: rest => if isBreak c then behind rest 1 else cursor
  | [] => cursor

/-- The place at the end of the line. -/
def skipLine (cursor : Cursor) : Cursor :=
  cursor.skip (cursor.rest.takeWhile fun c => !isBreak c).length

/-- Whether a line begins with three marks that stand alone, as those between documents do. -/
def isAtMarks (cursor : Cursor) (mark : Char) : Bool :=
  cursor.column == 0 && cursor.peek 0 == mark && cursor.peek 1 == mark && cursor.peek 2 == mark &&
    isBlankOrEnd (cursor.peek 3)

/-- Whether a document begins or ends here. -/
def isAtBoundary (cursor : Cursor) : Bool := cursor.isAtMarks '-' || cursor.isAtMarks '.'

end Cursor

/-- The blanks between a token and what follows on its line. -/
structure Gap where
  hasSpace : Bool
  hasTab : Bool
  cursor : Cursor

/-- Goes on over blanks and a comment on the same line, unless the comment touches what is in front of
it. -/
def Cursor.skipGap (cursor : Cursor) (tabs : Bool) : Option Gap :=
  let blanks := cursor.rest.takeWhile fun c => c == ' ' || tabs && c == '\t'
  let behind := cursor.skipBlanks blanks.length
  let gap : Gap := ⟨blanks.contains ' ', blanks.contains '\t', behind⟩
  if behind.next != '#' then some gap
  else if blanks.isEmpty then none
  else some { gap with cursor := behind.skipLine }

end Dialogs.StrictYaml
