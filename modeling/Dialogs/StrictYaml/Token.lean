import Dialogs.StrictYaml.Scalar

/-!
# Tokens of a strict YAML text

A text is cut into tokens whose brackets also show what the text shows by indentation. A key of a mapping
can be told from another value only by the colon behind it; so a place where a key may have begun is
remembered, and marked when the colon comes. What stands behind a key is further in than the key, also
within brackets; so after a key the text is indented by one column without a block of its own, until a
block begins there.
-/

namespace Dialogs.StrictYaml

/-- A lexical unit. -/
inductive Token where
  /-- The version of the text. -/
  | version
  /-- A handle of tags and what it stands for. -/
  | binding (handle meaning : String)
  | documentStart
  | documentEnd
  | blockSequence
  | blockMapping
  | blockEnd
  | flowSequence
  | flowSequenceEnd
  | flowMapping
  | flowMappingEnd
  | entry
  | flowEntry
  | key
  | value
  | alias (name : String)
  | anchor (name : String)
  | tag (handle suffix : String)
  | scalar (text : String) (plain : Bool)
  deriving DecidableEq, Repr

/-- A place where a key may have begun. -/
structure Candidate where
  /-- The number of tokens in front. -/
  position : Nat
  index : Nat
  line : Nat
  column : Nat
  /-- Whether nothing but a key can stand there. -/
  required : Bool
  deriving DecidableEq, Repr

/-- An indentation, and whether it belongs to a block. -/
structure Outer where
  indent : Int
  isBlock : Bool
  deriving DecidableEq, Repr

/-- What has been scanned of a text. -/
structure Scan where
  cursor : Cursor
  /-- The tokens, last first. -/
  tokens : List Token := []
  /-- Whether the last token is an anchor or a tag in the first column. -/
  atEdge : Bool := false
  /-- The indentation here. -/
  indent : Int := -1
  /-- The indentations around, the nearest first, each with whether the one within it belongs to a
  block. -/
  outer : List Outer := []
  /-- For the text and for each open bracket, where a key may have begun. -/
  candidates : List (Option Candidate) := [none]
  /-- Whether a key may begin here. -/
  keyAllowed : Bool := true
  /-- Where the colon of a value may touch what follows it. -/
  adjacent : Nat := 0
  /-- Whether a mapping has been opened by a brace or the mark of a key. -/
  mappingOpened : Bool := false
  /-- For each open square bracket, whether a mapping without braces is open in it. -/
  bareMappings : List Bool := []

namespace Scan

/-- Whether a bracket is open. -/
def inFlow (scan : Scan) : Bool := 1 < scan.candidates.length

/-- Adds a token. -/
def push (scan : Scan) (token : Token) : Scan :=
  { scan with tokens := token :: scan.tokens, atEdge := false }

/-- Adds a token behind some of the first tokens. -/
def insertAt (scan : Scan) (position : Nat) (token : Token) : Scan :=
  let behind := scan.tokens.take (scan.tokens.length - position)
  { scan with tokens := behind ++ token :: scan.tokens.drop behind.length }

/-- Leaves an indentation without a block that reaches at most to a column. -/
def leaveLoose (scan : Scan) (column : Nat) : Scan :=
  match scan.outer with
  | ⟨indent, false⟩ :: outer =>
    if scan.indent ≤ column then { scan with indent, outer } else scan
  | _ => scan

/-- Begins a block if the column is further in than the block around. -/
def indentTo (scan : Scan) (column : Nat) (position : Option Nat) (token : Token) : Scan :=
  if scan.inFlow then scan
  else
    let scan := scan.leaveLoose column
    if scan.indent < column then
      let opened := { scan with indent := column, outer := ⟨scan.indent, true⟩ :: scan.outer }
      match position with
      | some position => opened.insertAt position token
      | none => opened.push token
    else scan

/-- Indents by one column without a block. -/
def indentLoosely (scan : Scan) : Scan :=
  match scan.outer with
  | ⟨_, true⟩ :: _ =>
    if scan.inFlow then scan
    else { scan with indent := scan.indent + 1, outer := ⟨scan.indent, false⟩ :: scan.outer }
  | _ => scan

/-- Leaves all indentations without a block. -/
def leaveAllLoose : List Outer → Scan → Scan
  | ⟨indent, false⟩ :: outer, scan => leaveAllLoose outer { scan with indent, outer }
  | _, scan => scan

/-- The indentation of the block here. -/
def inBlock (scan : Scan) : Scan := leaveAllLoose scan.outer scan

/-- Ends the blocks that are further in than a column. -/
def unindentTo (column : Int) : List Outer → Scan → Scan
  | [], scan => scan
  | ⟨indent, isBlock⟩ :: outer, scan =>
    if scan.inFlow || scan.indent ≤ column then scan
    else
      let left := { scan with indent, outer }
      unindentTo column outer (if isBlock then left.push .blockEnd else left)

/-- Ends the blocks that are further in than a column. -/
def unindent (scan : Scan) (column : Int) : Scan := unindentTo column scan.outer scan

/-- Forgets where a key may have begun, unless one has to be there. -/
def forgetCandidate (scan : Scan) : Option Scan :=
  match scan.candidates with
  | some candidate :: rest =>
    if candidate.required then none else some { scan with candidates := none :: rest }
  | _ => some scan

/-- Remembers that a key may begin here. -/
def noteCandidate (scan : Scan) : Scan :=
  if scan.keyAllowed then
    let inBlock := match scan.outer with
      | ⟨_, isBlock⟩ :: _ => isBlock
      | [] => false
    let candidate : Candidate :=
      { position := scan.tokens.length
        index := scan.cursor.index
        line := scan.cursor.line
        column := scan.cursor.column
        required := !scan.inFlow && inBlock && scan.indent == (scan.cursor.column : Int) }
    { scan with candidates := some candidate :: scan.candidates.tail }
  else scan

/-- Forgets keys that may have begun on an earlier line or too far in front. Within brackets there is no
limit. -/
def dropStale (scan : Scan) : Option Scan :=
  if scan.inFlow then some scan
  else do
    let candidates ← scan.candidates.mapM fun candidate =>
      match candidate with
      | none => some none
      | some candidate =>
        if candidate.line < scan.cursor.line || candidate.index + 1024 < scan.cursor.index then
          if candidate.required then none else some none
        else some (some candidate)
    return { scan with candidates }

/-- Goes on to the next token, over blanks, comments and line breaks. A tab does not indent a line of a
block. -/
def toToken (fuel : Nat) (scan : Scan) : Option Scan :=
  match fuel with
  | 0 => some scan
  | fuel + 1 =>
    let cursor := scan.cursor
    let c := cursor.next
    if c == '\t' && !scan.outer.isEmpty && cursor.leading && (cursor.column : Int) < scan.indent then do
      let gap ← cursor.skipGap true
      if isBreakOrEnd gap.cursor.next then toToken fuel { scan with cursor := gap.cursor } else none
    else if isBlank c then toToken fuel { scan with cursor := cursor.skipBlanks 1 }
    else if isBreak c then
      toToken fuel
        { scan with cursor := cursor.skipBreak, keyAllowed := scan.keyAllowed || !scan.inFlow }
    else if c == '#' then toToken fuel { scan with cursor := cursor.skipLine }
    else some scan

/-- Goes on to the next token. -/
def arrive (scan : Scan) : Option Scan := scan.toToken (scan.cursor.rest.length + 1)

/-- Goes on behind the mark of a key, over spaces, comments and line breaks. -/
def toKey (fuel : Nat) (scan : Scan) : Scan :=
  match fuel with
  | 0 => scan
  | fuel + 1 =>
    let cursor := scan.cursor
    let c := cursor.next
    if c == ' ' then toKey fuel { scan with cursor := cursor.skipBlanks 1 }
    else if isBreak c then
      toKey fuel
        { scan with cursor := cursor.skipBreak, keyAllowed := scan.keyAllowed || !scan.inFlow }
    else if c == '#' then toKey fuel { scan with cursor := cursor.skipLine }
    else scan

/-- The characters of tags. -/
def isUriChar (c : Char) : Bool :=
  isNameChar c ||
    ['#', ';', '/', '?', ':', '@', '&', '=', '+', '$', ',', '_', '.', '!', '~', '*', '\'', '(', ')', '[',
      ']', '%'].contains c

/-- The characters of tags that need no mark around them. -/
def isTagChar (c : Char) : Bool := isUriChar c && !isFlow c && c != '!'

/-- The number of bytes of the character that a first byte announces. -/
def escapeLength (byte : Nat) : Option Nat :=
  if byte < 0x80 then some 1
  else if byte < 0xC0 then none
  else if byte < 0xE0 then some 2
  else if byte < 0xF0 then some 3
  else if byte < 0xF8 then some 4
  else none

/-- The byte that a percent sign and two hexadecimal digits stand for. -/
def escapedByte : List Char → Option Nat
  | '%' :: high :: low :: _ => do return (← Text.hexValue? high) * 16 + (← Text.hexValue? low)
  | _ => none

/-- The bytes behind the first one of a character, as one number. -/
def escapedTail (code : Nat) : Nat → List Char → Option Nat
  | 0, _ => some code
  | count + 1, text => do
    let byte ← escapedByte text
    if byte < 0x80 || 0xC0 ≤ byte then none
    escapedTail (code * 256 + byte) count (text.drop 3)

/-- The character that percent signs with digits stand for, and their length. The bytes are put next to each
other as they are. -/
def readUriEscape (text : List Char) : Option (Char × Nat) := do
  let first ← escapedByte text
  let count ← escapeLength first
  let code ← escapedTail first (count - 1) (text.drop 3)
  if h : code.isValidChar then some (Char.ofNatAux code h, 3 * count) else none

/-- A text of characters with a property, in which percent signs and digits stand for others. -/
def readUri (property : Char → Bool) (fuel : Nat) (read : List Char) (cursor : Cursor) :
    Option (List Char × Cursor) :=
  match fuel with
  | 0 => none
  | fuel + 1 =>
    if !property cursor.next then some (read.reverse, cursor)
    else if cursor.next == '%' then do
      let (meant, length) ← readUriEscape cursor.rest
      readUri property fuel (meant :: read) (cursor.skip length)
    else readUri property fuel (cursor.next :: read) (cursor.skip 1)

/-- A handle of tags: a mark, perhaps with a name and another mark. -/
def readHandle (cursor : Cursor) : Option (String × Cursor) :=
  if cursor.next != '!' then none
  else
    let name := cursor.rest.tail.takeWhile isNameChar
    let behind := cursor.skip (name.length + 1)
    if behind.next == '!' then some (String.ofList ('!' :: name ++ ['!']), behind.skip 1)
    else some (String.ofList ('!' :: name), behind)

/-- Whether a text is a handle with two marks. -/
def isFullHandle (handle : String) : Bool :=
  1 < handle.length && handle.startsWith "!" && handle.endsWith "!"

/-- The tag at a place. A mark alone is a tag without a handle. -/
def readTag (flow : Bool) (cursor : Cursor) : Option (Token × Cursor) := do
  let (token, behind) ←
    if cursor.peek 1 == '<' then do
      let inner := cursor.skip 2
      let (suffix, behind) ← readUri isUriChar (inner.rest.length + 1) [] inner
      if behind.next != '>' then none
      pure (Token.tag "" (String.ofList suffix), behind.skip 1)
    else do
      let (handle, inner) ← readHandle cursor
      let (suffix, behind) ← readUri isTagChar (inner.rest.length + 1) [] inner
      if isFullHandle handle then
        if suffix.isEmpty then none
        pure (Token.tag handle (String.ofList suffix), behind)
      else
        let whole := handle.toList.tail ++ suffix
        pure (if whole.isEmpty then Token.tag "" "!" else Token.tag "!" (String.ofList whole), behind)
  if isBlankOrEnd behind.next || flow && isFlow behind.next then return (token, behind) else none

/-- The version behind the name of its directive: two numbers with a point between them. -/
def readVersion (cursor : Cursor) : Option Cursor := do
  let start := cursor.skipBlanks (cursor.rest.takeWhile isBlank).length
  let major := start.rest.takeWhile Char.isDigit
  let point := start.skip major.length
  let minor := (point.skip 1).rest.takeWhile Char.isDigit
  if major.isEmpty || 9 < major.length || point.next != '.' || minor.isEmpty || 9 < minor.length then
    none
  return (point.skip 1).skip minor.length

/-- The handle behind the name of its directive, and what it stands for. -/
def readBinding (cursor : Cursor) : Option (Token × Cursor) := do
  let (handle, behind) ←
    readHandle (cursor.skipBlanks (cursor.rest.takeWhile isBlank).length)
  if !isFullHandle handle && handle != "!" then none
  let start := behind.skipBlanks (behind.rest.takeWhile isBlank).length
  let first := start.next
  if first != '!' && !isTagChar first then none
  let (meaning, behind) ←
    if first == '!' then do
      let (text, behind) ← readUri isUriChar (start.rest.length + 1) [] (start.skip 1)
      pure ('!' :: text, behind)
    else readUri isUriChar (start.rest.length + 1) [] start
  if isBlankOrEnd behind.next then return (.binding handle (String.ofList meaning), behind) else none

/-- A directive, with its percent sign. One of an unknown name binds nothing. -/
def readDirective (cursor : Cursor) : Option (Token × Cursor) := do
  let name := cursor.rest.tail.takeWhile isNameChar
  let behind := cursor.skip (name.length + 1)
  if name.isEmpty || !isBlankOrEnd behind.next then none
  let (token, behind) ←
    if name == "YAML".toList then (readVersion behind).map fun behind => (Token.version, behind)
    else if name == "TAG".toList then readBinding behind
    else some (.binding "" "", behind.skipLine)
  let gap ← behind.skipGap true
  if isBreakOrEnd gap.cursor.next then return (token, gap.cursor.skipBreak) else none

/-- Whether a character may be part of the name of an anchor. -/
def isAnchorChar (c : Char) : Bool := !isBlankOrEnd c && !isFlow c && c != '\uFEFF'

/-- Adds a token that may be the begin of a key, and goes on to a place. -/
def content (scan : Scan) (token : Token) (cursor : Cursor) : Scan :=
  { scan.noteCandidate.push token with
    cursor
    keyAllowed := false }

/-- Adds an anchor, a tag or an alias. -/
def addProperty (scan : Scan) (token : Token) (cursor : Cursor) : Scan :=
  let isProperty := match token with
    | .alias _ => false
    | _ => true
  { scan.content token cursor with atEdge := isProperty && scan.cursor.column == 0 }

/-- Adds an anchor or an alias. -/
def addName (scan : Scan) (token : String → Token) : Option Scan :=
  let name := scan.cursor.rest.tail.takeWhile isAnchorChar
  if name.isEmpty then none
  else some (scan.addProperty (token (String.ofList name)) (scan.cursor.skip (name.length + 1)))

/-- How deep brackets may be nested. -/
def bracketLimit : Nat := 255

/-- Opens a bracket. -/
def openFlow (scan : Scan) (token : Token) : Option Scan := do
  let noted := scan.noteCandidate.indentLoosely
  if bracketLimit < noted.candidates.length then none
  let gap ← (scan.cursor.skip 1).skipGap true
  let opened := { noted.push token with
    cursor := gap.cursor
    candidates := none :: noted.candidates
    keyAllowed := true }
  return if token = .flowMapping then { opened with mappingOpened := true }
    else { opened with bareMappings := false :: opened.bareMappings }

/-- Ends a mapping without braces, if one is open. -/
def endBareMapping (scan : Scan) : Scan :=
  match scan.bareMappings with
  | true :: rest =>
    { scan.push .flowMappingEnd with mappingOpened := false, bareMappings := false :: rest }
  | _ => scan

/-- Closes a bracket. -/
def closeFlow (scan : Scan) (token : Token) : Option Scan := do
  let cleared ← scan.forgetCandidate
  let outside :=
    if cleared.inFlow then { cleared with candidates := cleared.candidates.tail } else cleared
  let ended :=
    if token = .flowSequenceEnd then
      let ended := outside.endBareMapping
      { ended with bareMappings := ended.bareMappings.tail }
    else outside
  let gap ← (scan.cursor.skip 1).skipGap true
  return { ended.push token with
    cursor := gap.cursor
    keyAllowed := false
    adjacent := if ended.inFlow then gap.cursor.index else ended.adjacent }

/-- Adds the comma between entries within brackets. -/
def addComma (scan : Scan) : Option Scan := do
  let ended := (← scan.forgetCandidate).endBareMapping
  let gap ← (scan.cursor.skip 1).skipGap true
  return { ended.push .flowEntry with cursor := gap.cursor, keyAllowed := true }

/-- Adds the mark of an entry of a block sequence. -/
def addEntry (scan : Scan) : Option Scan := do
  let cursor := scan.cursor
  if scan.inFlow || !scan.keyAllowed then none
  if scan.atEdge && cursor.column == 0 && -1 < scan.indent then none
  let opened := scan.indentTo cursor.column none .blockSequence
  let gap ← (cursor.skip 1).skipGap true
  if gap.hasTab && gap.cursor.next == '-' && isBlankOrEnd (gap.cursor.peek 1) then none
  let c := gap.cursor.next
  let level := if isBreak c || isFlow c then opened.indentLoosely else opened
  let cleared ← level.forgetCandidate
  return { cleared.push .entry with cursor := gap.cursor, keyAllowed := true }

/-- Adds the mark of a key. A blank that is no tab stands behind it. -/
def addKey (scan : Scan) : Option Scan := do
  if !scan.inFlow && !scan.keyAllowed then none
  let opened :=
    if scan.inFlow then { scan with mappingOpened := true }
    else scan.indentTo scan.cursor.column none .blockMapping
  let cleared ← opened.forgetCandidate
  let start := { cleared with cursor := cleared.cursor.skip 1, keyAllowed := !cleared.inFlow }
  let c := start.cursor.next
  if !(c == ' ' || isBreak c) then none
  let arrived := start.toKey (start.cursor.rest.length + 1)
  if arrived.cursor.next == '\t' then none
  return arrived.push .key

/-- Adds the mark of a value. If a key may have begun in front, it has. -/
def addValue (scan : Scan) : Option Scan := do
  let isBare := !scan.bareMappings.isEmpty && !scan.mappingOpened
  let scan := if isBare then { scan with bareMappings := true :: scan.bareMappings.tail } else scan
  let line := scan.cursor.line
  let behind := scan.cursor.skip 1
  let behind ←
    if behind.next == '\t' then do
      let gap ← behind.skipGap true
      if !gap.hasSpace && isNameChar gap.cursor.next then none
      pure gap.cursor
    else pure behind
  match scan.candidates with
  | some candidate :: rest =>
    if isBare && candidate.line < line then none
    let marked := { scan with candidates := none :: rest }.insertAt candidate.position .key
    let marked := if isBare then marked.insertAt candidate.position .flowMapping else marked
    let opened :=
      (marked.indentTo candidate.column (some candidate.position) .blockMapping).indentLoosely
    return { opened.push .value with cursor := behind, keyAllowed := false }
  | _ =>
    let marked := if isBare then scan.push .flowMapping else scan
    if !scan.inFlow && !scan.keyAllowed then none
    let opened :=
      (if scan.inFlow then marked
        else marked.indentTo scan.cursor.column none .blockMapping).indentLoosely
    return { opened.push .value with cursor := behind, keyAllowed := !scan.inFlow }

/-- Adds a mark between documents, which ends all blocks. Nothing else stands on the line of an end. -/
def addBoundary (scan : Scan) (token : Token) : Option Scan := do
  let cleared ← (scan.unindent (-1)).forgetCandidate
  let added := { cleared.push token with cursor := scan.cursor.skip 3, keyAllowed := false }
  if token = .documentEnd then
    let gap ← added.cursor.skipGap true
    if isBreakOrEnd gap.cursor.next then return { added with cursor := gap.cursor } else none
  else return added

/-- Adds a block of lines. -/
def addBlock (scan : Scan) (literal : Bool) : Option Scan := do
  let noted := scan.noteCandidate.inBlock
  let (text, cursor) ← readBlock literal noted.indent (scan.cursor.skip 1)
  return { noted.push (.scalar text false) with cursor, keyAllowed := true }

/-- Adds quoted text. A colon behind it may touch what follows. -/
def addQuoted (scan : Scan) (single : Bool) : Option Scan := do
  let (text, cursor) ← readQuoted single scan.inFlow scan.indent scan.cursor
  let noted := { scan.noteCandidate with cursor, keyAllowed := false }
  let arrived ← noted.arrive
  return { arrived.push (.scalar text false) with adjacent := arrived.cursor.index }

/-- Adds plain text. -/
def addPlain (scan : Scan) : Option Scan := do
  let noted := scan.noteCandidate.inBlock
  let (text, cursor) ← readPlain scan.inFlow noted.indent scan.cursor
  return { noted.push (.scalar text true) with cursor, keyAllowed := cursor.leading }

/-- Adds a directive. -/
def addDirective (scan : Scan) : Option Scan := do
  let cleared ← (scan.unindent (-1)).forgetCandidate
  let (token, cursor) ← readDirective scan.cursor
  return { cleared.push token with cursor, keyAllowed := false }

/-- Adds the token at the cursor. -/
def addToken (scan : Scan) : Option Scan :=
  let cursor := scan.cursor
  let c := cursor.next
  let after := cursor.peek 1
  let standsAlone := isBlankOrEnd after
  if cursor.column == 0 && c == '%' then scan.addDirective
  else if cursor.isAtMarks '-' then scan.addBoundary .documentStart
  else if cursor.isAtMarks '.' then scan.addBoundary .documentEnd
  else if (cursor.column : Int) < scan.indent then none
  else if c == '[' then scan.openFlow .flowSequence
  else if c == '\x7b' then scan.openFlow .flowMapping
  else if c == ']' then scan.closeFlow .flowSequenceEnd
  else if c == '\x7d' then scan.closeFlow .flowMappingEnd
  else if c == ',' then scan.addComma
  else if c == '-' && standsAlone then scan.addEntry
  else if c == '?' && standsAlone then scan.addKey
  else if c == ':' &&
      (standsAlone || scan.inFlow && (isFlow after || cursor.index == scan.adjacent)) then
    scan.addValue
  else if c == '*' then scan.addName .alias
  else if c == '&' then scan.addName .anchor
  else if c == '!' then do
    let (token, behind) ← readTag scan.inFlow cursor
    return scan.addProperty token behind
  else if (c == '|' || c == '>') && !scan.inFlow then scan.addBlock (c == '|')
  else if c == '\'' then scan.addQuoted true
  else if c == '"' then scan.addQuoted false
  else if ['%', '@', '\x60'].contains c then none
  else scan.addPlain

/-- Ends the text. No key may be missing. -/
def finish (scan : Scan) : Option (List Token) :=
  let isMissing := scan.candidates.any fun candidate =>
    candidate.any fun candidate => candidate.required
  if isMissing then none else some (scan.unindent (-1)).tokens.reverse

/-- Adds the tokens up to the end of the text. -/
def run (fuel : Nat) (scan : Scan) : Option (List Token) :=
  match fuel with
  | 0 => none
  | fuel + 1 => do
    let arrived ← (← scan.arrive).dropStale
    let level := arrived.unindent arrived.cursor.column
    if level.cursor.next == endMark then level.finish
    else run fuel (← level.addToken)

end Scan

/-- The tokens of a text, unless it cannot be cut into tokens. -/
def tokensOf (text : String) : Option (List Token) :=
  let cursor := Cursor.start text.toList
  Scan.run (2 * cursor.rest.length + 2) { cursor }

end Dialogs.StrictYaml
