import Dialogs.Yaml.Scalar

/-!
# Tokens of a YAML text

A text is cut into tokens whose brackets also show what the text shows by indentation. A key of a
mapping can be told from another value only by the colon behind it; so a place where a key may have begun
is remembered, and marked when the colon comes. Such a key stays on one line, and is not longer than 1024
characters.
-/

namespace Dialogs.Yaml

/-- A lexical unit. -/
inductive Token where
  /-- A line that is meant for the reader: the version, or a handle of tags and what it stands for. -/
  | directive (binding : Option (String × String))
  | documentStart
  | documentEnd
  | blockSequence
  | blockMapping
  | blockEnd
  | flowSequence
  | flowSequenceEnd
  | flowMapping
  | flowMappingEnd
  | entry
  | flowEntry
  | key
  | value
  | alias (name : String)
  | anchor (name : String)
  /-- A tag, by its handle and the rest. A tag that is written out has no handle. -/
  | tag (handle : Option String) (suffix : String)
  | scalar (text : String) (plain : Bool)
  deriving DecidableEq, Repr

/-- A place where a key may have begun. -/
structure Candidate where
  /-- The number of tokens in front. -/
  position : Nat
  index : Nat
  line : Nat
  column : Nat
  /-- Whether nothing but a key can stand there. -/
  required : Bool
  deriving DecidableEq, Repr

/-- What has been scanned of a text. -/
structure Scan where
  cursor : Cursor
  /-- The tokens, last first. -/
  tokens : List Token := []
  /-- The indentation of the block around, and of those around that. -/
  indent : Int := -1
  outer : List Int := []
  /-- For the text and for each open bracket, where a key may have begun. -/
  candidates : List (Option Candidate) := [none]
  /-- Whether a key may begin here. -/
  keyAllowed : Bool := true

namespace Scan

/-- The number of open brackets. -/
def flowLevel (scan : Scan) : Nat := scan.candidates.length - 1

/-- Whether a bracket is open. -/
def inFlow (scan : Scan) : Bool := scan.flowLevel != 0

/-- Adds a token. -/
def push (scan : Scan) (token : Token) : Scan := { scan with tokens := token :: scan.tokens }

/-- Adds a token behind some of the first tokens. -/
def insertAt (scan : Scan) (position : Nat) (token : Token) : Scan :=
  let behind := scan.tokens.take (scan.tokens.length - position)
  { scan with tokens := behind ++ token :: scan.tokens.drop behind.length }

/-- Begins a block if the column is further in than the block around. -/
def indentTo (scan : Scan) (column : Nat) (position : Option Nat) (token : Token) : Scan :=
  if !scan.inFlow && scan.indent < column then
    let opened := { scan with indent := column, outer := scan.indent :: scan.outer }
    match position with
    | some position => opened.insertAt position token
    | none => opened.push token
  else scan

/-- Ends the blocks that are further in than a column. -/
def unindentTo (column : Int) : List Int → Scan → Scan
  | [], scan => scan
  | indent :: outer, scan =>
    if scan.inFlow || scan.indent ≤ column then scan
    else unindentTo column outer ({ scan with indent, outer }.push .blockEnd)

/-- Ends the blocks that are further in than a column. -/
def unindent (scan : Scan) (column : Int) : Scan := unindentTo column scan.outer scan

/-- Forgets where a key may have begun, unless one has to be there. -/
def forgetCandidate (scan : Scan) : Option Scan :=
  match scan.candidates with
  | some candidate :: rest =>
    if candidate.required then none else some { scan with candidates := none :: rest }
  | _ => some scan

/-- Remembers that a key may begin here. -/
def noteCandidate (scan : Scan) : Option Scan :=
  if scan.keyAllowed then do
    let cleared ← scan.forgetCandidate
    let candidate : Candidate :=
      { position := scan.tokens.length
        index := scan.cursor.index
        line := scan.cursor.line
        column := scan.cursor.column
        required := !scan.inFlow && scan.indent == (scan.cursor.column : Int) }
    return { cleared with candidates := some candidate :: cleared.candidates.tail }
  else some scan

/-- Forgets keys that may have begun on an earlier line or too far in front. -/
def dropStale (scan : Scan) : Option Scan := do
  let candidates ← scan.candidates.mapM fun candidate =>
    match candidate with
    | none => some none
    | some candidate =>
      if candidate.line < scan.cursor.line || candidate.index + 1024 < scan.cursor.index then
        if candidate.required then none else some none
      else some (some candidate)
  return { scan with candidates }

/-- Goes on to the next token, over blanks, comments and line breaks. Tabs count as blanks only where no
key can begin. -/
def toToken (fuel : Nat) (scan : Scan) : Scan :=
  match fuel with
  | 0 => scan
  | fuel + 1 =>
    let tabs := scan.inFlow || !scan.keyAllowed
    let cursor := scan.cursor.skipWhile fun c => c == ' ' || tabs && c == '\t'
    let cursor := if cursor.next == '#' then cursor.skipWhile fun c => !isBreakOrEnd c else cursor
    if isBreak cursor.next then
      toToken fuel
        { scan with
          cursor := cursor.readBreak.2
          keyAllowed := scan.keyAllowed || !scan.inFlow }
    else { scan with cursor }

/-- Whether a character may be part of the name of an anchor. -/
def isNameChar (c : Char) : Bool := c.isAlphanum || c == '_' || c == '-'

/-- The name behind the mark of an anchor or alias. -/
def readName (cursor : Cursor) : Option (String × Cursor) :=
  let name := cursor.rest.takeWhile isNameChar
  let behind := cursor.skipMany name.length
  if name.isEmpty then none
  else if isBlankOrEnd behind.next ||
      ['?', ':', ',', ']', '\x7d', '%', '@', '\x60'].contains behind.next then
    some (String.ofList name, behind)
  else none

/-- Whether a character may be part of a tag. -/
def isTagChar (verbatim : Bool) (c : Char) : Bool :=
  isNameChar c || [';', '/', '?', ':', '@', '&', '=', '+', '$', '.', '%', '!', '~', '*', '\'', '(',
    ')'].contains c || verbatim && [',', '[', ']'].contains c

/-- A text in which a percent sign and two hexadecimal digits stand for an ASCII character. -/
def unescapeTag (fuel : Nat) (read : List Char) (text : List Char) : Option (List Char) :=
  match fuel, text with
  | _, [] => some read.reverse
  | 0, _ => none
  | fuel + 1, '%' :: rest => do
    let c ← Text.hexChar? 2 rest
    if c.toNat < 0x80 then unescapeTag fuel (c :: read) (rest.drop 2) else none
  | fuel + 1, c :: rest => unescapeTag fuel (c :: read) rest

/-- The handle and the suffix of a tag behind its exclamation mark. -/
def splitTag (text : List Char) : Option String × List Char :=
  let name := text.takeWhile isNameChar
  match text.drop name.length with
  | '!' :: suffix => (some ("!" ++ String.ofList name ++ "!"), suffix)
  | _ => (some "!", text)

/-- The tag at a place, with its exclamation mark. -/
def readTag (flow : Bool) (cursor : Cursor) : Option (Token × Cursor) := do
  let (token, behind) ←
    if cursor.peek 1 == '<' then do
      let inner := cursor.skipMany 2
      let text := inner.rest.takeWhile (isTagChar true)
      let behind := inner.skipMany text.length
      if text.isEmpty || behind.next != '>' then none
      let plain ← unescapeTag (text.length + 1) [] text
      pure (Token.tag none (String.ofList plain), behind.skip)
    else do
      let text := cursor.skip.rest.takeWhile (isTagChar false)
      let (handle, suffix) := splitTag text
      let plain ← unescapeTag (suffix.length + 1) [] suffix
      if plain.isEmpty && handle != some "!" then none
      pure (Token.tag handle (String.ofList plain), cursor.skipMany (text.length + 1))
  if isBlankOrEnd behind.next || flow && behind.next == ',' then return (token, behind) else none

/-- The words of a directive. A comment ends them. -/
def directiveWords (fuel : Nat) (text : List Char) : List (List Char) :=
  match fuel, text.dropWhile isBlank with
  | 0, _ => []
  | _, [] => []
  | _, '#' :: _ => []
  | fuel + 1, text =>
    let word := text.takeWhile fun c => !isBlank c
    word :: directiveWords fuel (text.drop word.length)

/-- Whether a version can be read. -/
def isKnownVersion (version : List Char) : Bool :=
  ["1.1", "1.2"].contains (String.ofList version)

/-- Whether a text is a handle of tags: a mark alone, or two with a name or nothing between them. -/
def isHandle (text : List Char) : Bool :=
  match text with
  | ['!'] => true
  | '!' :: rest => rest.getLast? == some '!' && rest.dropLast.all isNameChar
  | _ => false

/-- A directive, with its percent sign. -/
def readDirective (cursor : Cursor) : Option (Token × Cursor) := do
  let line := cursor.skip.rest.takeWhile fun c => !isBreakOrEnd c
  let behind := (cursor.skipMany (line.length + 1)).readBreak.2
  match directiveWords (line.length + 1) line with
  | [name, version] =>
    if name == "YAML".toList && isKnownVersion version then return (.directive none, behind)
    else none
  | [name, handle, meaning] =>
    if name == "TAG".toList && isHandle handle && meaning.all (isTagChar true) then do
      let meaning ← unescapeTag (meaning.length + 1) [] meaning
      return (.directive (some (String.ofList handle, String.ofList meaning)), behind)
    else none
  | _ => none

/-- The characters that plain text cannot begin with. -/
def isIndicator (c : Char) : Bool :=
  ['-', '?', ':', ',', '[', ']', '\x7b', '\x7d', '#', '&', '*', '!', '|', '>', '\'', '"', '%', '@',
    '\x60'].contains c

/-- Adds a token that stands between others: no key can have begun in front of it. -/
def separate (scan : Scan) (token : Token) (length : Nat) (keyAllowed : Bool) : Option Scan := do
  let cleared ← scan.forgetCandidate
  return { cleared.push token with cursor := scan.cursor.skipMany length, keyAllowed }

/-- Adds a token that may be the begin of a key. -/
def content (scan : Scan) (token : Token) (cursor : Cursor) (keyAllowed : Bool) : Option Scan := do
  let noted ← scan.noteCandidate
  return { noted.push token with cursor, keyAllowed }

/-- Opens a bracket. -/
def openFlow (scan : Scan) (token : Token) : Option Scan := do
  let opened ← scan.content token scan.cursor.skip true
  return { opened with candidates := none :: opened.candidates }

/-- Closes a bracket. -/
def closeFlow (scan : Scan) (token : Token) : Option Scan := do
  let closed ← scan.separate token 1 false
  return if closed.inFlow then { closed with candidates := closed.candidates.tail } else closed

/-- Adds the mark of an entry of a block sequence. -/
def addEntry (scan : Scan) : Option Scan :=
  if scan.inFlow then scan.separate .entry 1 true
  else if !scan.keyAllowed then none
  else (scan.indentTo scan.cursor.column none .blockSequence).separate .entry 1 true

/-- Adds the mark of a key. -/
def addKey (scan : Scan) : Option Scan :=
  if scan.inFlow then scan.separate .key 1 false
  else if !scan.keyAllowed then none
  else (scan.indentTo scan.cursor.column none .blockMapping).separate .key 1 true

/-- Adds the mark of a value. If a key may have begun in front, it has. -/
def addValue (scan : Scan) : Option Scan :=
  match scan.candidates with
  | some candidate :: rest =>
    let marked := { scan with candidates := none :: rest }.insertAt candidate.position .key
    let opened := marked.indentTo candidate.column (some candidate.position) .blockMapping
    some { opened.push .value with cursor := scan.cursor.skip, keyAllowed := false }
  | _ =>
    if scan.inFlow then
      some { scan.push .value with cursor := scan.cursor.skip, keyAllowed := false }
    else if !scan.keyAllowed then none
    else
      let opened := scan.indentTo scan.cursor.column none .blockMapping
      some { opened.push .value with cursor := scan.cursor.skip, keyAllowed := true }

/-- Adds a mark between documents, which ends all blocks. -/
def addBoundary (scan : Scan) (token : Token) : Option Scan :=
  (scan.unindent (-1)).separate token 3 false

/-- Adds a block of lines. -/
def addBlock (scan : Scan) (literal : Bool) : Option Scan := do
  let cleared ← scan.forgetCandidate
  let (text, cursor) ← readBlock literal scan.indent scan.cursor.skip
  return { cleared.push (.scalar (String.ofList text) false) with cursor, keyAllowed := true }

/-- Adds quoted text. -/
def addQuoted (scan : Scan) (single : Bool) : Option Scan := do
  let inner := scan.cursor.skip
  let (text, cursor) ← readQuoted single (inner.rest.length + 1) [] inner
  scan.content (.scalar (String.ofList text) false) cursor false

/-- Adds plain text. -/
def addPlain (scan : Scan) : Option Scan := do
  let (text, cursor, broken) ←
    readPlain scan.inFlow (scan.indent + 1).toNat (scan.cursor.rest.length + 1) [] {} scan.cursor
  scan.content (.scalar (String.ofList text) true) cursor broken

/-- Ends the text. -/
def finish (scan : Scan) : Option (List Token) := do
  let cleared ← (scan.unindent (-1)).forgetCandidate
  return cleared.tokens.reverse

/-- Adds the token at the cursor. -/
def addToken (scan : Scan) : Option Scan :=
  let cursor := scan.cursor
  let c := cursor.next
  let standsAlone := isBlankOrEnd (cursor.peek 1)
  if cursor.column == 0 && c == '%' then do
    let cleared ← (scan.unindent (-1)).forgetCandidate
    let (token, behind) ← readDirective cursor
    return { cleared.push token with cursor := behind, keyAllowed := false }
  else if cursor.isAtMarks '-' then scan.addBoundary .documentStart
  else if cursor.isAtMarks '.' then scan.addBoundary .documentEnd
  else if c == '[' then scan.openFlow .flowSequence
  else if c == '\x7b' then scan.openFlow .flowMapping
  else if c == ']' then scan.closeFlow .flowSequenceEnd
  else if c == '\x7d' then scan.closeFlow .flowMappingEnd
  else if c == ',' then scan.separate .flowEntry 1 true
  else if c == '-' && standsAlone then scan.addEntry
  else if c == '?' && (scan.inFlow || standsAlone) then scan.addKey
  else if c == ':' && (scan.inFlow || standsAlone) then scan.addValue
  else if c == '*' then do
    let (name, behind) ← readName cursor.skip
    scan.content (.alias name) behind false
  else if c == '&' then do
    let (name, behind) ← readName cursor.skip
    scan.content (.anchor name) behind false
  else if c == '!' then do
    let (token, behind) ← readTag scan.inFlow cursor
    scan.content token behind false
  else if (c == '|' || c == '>') && !scan.inFlow then scan.addBlock (c == '|')
  else if c == '\'' then scan.addQuoted true
  else if c == '"' then scan.addQuoted false
  else if !(isBlankOrEnd c || isIndicator c) || c == '-' && !isBlank (cursor.peek 1) ||
      !scan.inFlow && (c == '?' || c == ':') && !standsAlone then scan.addPlain
  else none

/-- Adds the tokens up to the end of the text. -/
def run (fuel : Nat) (scan : Scan) : Option (List Token) :=
  match fuel with
  | 0 => none
  | fuel + 1 => do
    let arrived ← (scan.toToken (scan.cursor.rest.length + 1)).dropStale
    let level := arrived.unindent arrived.cursor.column
    if level.cursor.next == endMark then level.finish
    else run fuel (← level.addToken)

end Scan

/-- The tokens of a text, unless it cannot be cut into tokens. -/
def tokensOf (text : String) : Option (List Token) :=
  let characters := text.toList
  if characters.all isAllowed then
    let scan : Scan := { cursor := .start characters }
    scan.run (characters.length + 2)
  else none

end Dialogs.Yaml
