import Dialogs.Json.Lexeme

/-!
# Drafts

A draft is a document as far as a text spells it: a value in which every part may be faulty, and in
which arrays and objects may break off. Members stand in the order of the text, repeated keys
included. Whoever decodes a draft walks it in the order of the text and meets its faults in that
order, so the first problem of any kind is the one reported.

A value is a draft without faults (`Json.draft`). A text becomes a draft by one pass over its
lexemes with a stack of the arrays and objects that are open.
-/

namespace Dialogs.Json

/-- A document as far as a text spells it. The key of a member may be unreadable. Behind the
elements or members there may be a fault in place of the closing bracket. -/
inductive Draft where
  | null
  | bool (value : Bool)
  | number (value : Number)
  | string (value : String)
  | array (elements : List Draft) (ending : Option Fault)
  | object (members : List (Except SyntaxError String × Draft)) (ending : Option Fault)
  | broken (fault : Fault)

mutual

/-- A value as a draft without faults. -/
def draft : Json → Draft
  | .null => .null
  | .bool value => .bool value
  | .number value => .number value
  | .string value => .string value
  | .array elements => .array (elementsDrafts elements) none
  | .object members => .object (membersDrafts members) none

/-- Elements as drafts without faults. -/
def elementsDrafts : List Json → List Draft
  | [] => []
  | element :: rest => element.draft :: elementsDrafts rest

/-- Members as members without faults. -/
def membersDrafts : List (String × Json) → List (Except SyntaxError String × Draft)
  | [] => []
  | member :: rest => memberDraft member :: membersDrafts rest

/-- A member as a member without faults. -/
def memberDraft : String × Json → Except SyntaxError String × Draft
  | (key, value) => (.ok key, value.draft)

end

namespace Draft

/-- The draft of a scalar that has been scanned. -/
def ofScalar : Except Fault Json → Draft
  | .error fault => .broken fault
  | .ok value => value.draft

/-- The draft of a string that has been scanned. -/
def ofString : Except Fault String → Draft
  | .error fault => .broken fault
  | .ok value => .string value

/-- An array or object that is open. Its parts so far are reversed; an open member has a key and
waits for its value. -/
inductive Frame where
  | array (elements : List Draft)
  | object (members : List (Except SyntaxError String × Draft))
  | member (members : List (Except SyntaxError String × Draft)) (key : Except SyntaxError String)

/-- An open array or object as it stands, with a fault in place of its end. -/
def Frame.breakOff (fault : Fault) : Frame → Draft
  | .array elements => .array elements.reverse (some fault)
  | .object members => .object members.reverse (some fault)
  | .member members key => .object ((key, .broken fault) :: members).reverse none

/-- The document whose innermost open part is `inner`: every frame ends with what has been put into
it. -/
def enclose (inner : Draft) : List Frame → Draft
  | [] => inner
  | .array elements :: outer => enclose (.array (inner :: elements).reverse none) outer
  | .object members :: outer => enclose (.object members.reverse none) outer
  | .member members key :: outer => enclose (.object ((key, inner) :: members).reverse none) outer

/-- The document that breaks off with a fault in its innermost open part. -/
def breakOff (fault : Fault) : List Frame → Draft
  | [] => .broken fault
  | frame :: outer => enclose (frame.breakOff fault) outer

/-- What the next lexeme has to be. -/
inductive Wanted where
  /-- A value. -/
  | value
  /-- A value, or the end of the array that was just opened. -/
  | firstElement
  /-- A key, or the end of the object that was just opened. -/
  | firstKey
  /-- A key behind a comma. -/
  | laterKey
  /-- The colon behind a key. -/
  | colon
  /-- A comma, or the end of the innermost array or object. -/
  | separator
  deriving DecidableEq

/-- Puts a complete value into the innermost open part. Without one the document is complete. -/
def place (value : Draft) : List Frame → Except Draft (List Frame)
  | [] => .error value
  | .array elements :: outer => .ok (.array (value :: elements) :: outer)
  | .member members key :: outer => .ok (.object ((key, value) :: members) :: outer)
  | .object members :: outer => .ok (.object members :: outer)

/-- The fault where a text ends too early. -/
def endFault (wanted : Wanted) (frames : List Frame) : Fault :=
  match wanted, frames with
  | .value, _ => .always .endInValue
  | .firstElement, _ => .always .endInArray
  | .firstKey, _ => .always .endInObject
  | .laterKey, _ => ⟨.endInValue, some .endInObject⟩
  | .colon, _ => .always .endInObject
  | .separator, .array _ :: _ => .always .endInArray
  | .separator, _ => .always .endInObject

/-- The state of the pass over the lexemes: a document, or open parts and what is wanted next. -/
inductive Progress where
  | finished (document : Draft)
  | open (frames : List Frame) (wanted : Wanted)

/-- The state behind a complete value. -/
def Progress.afterValue (value : Draft) (frames : List Frame) : Progress :=
  match place value frames with
  | .error document => .finished document
  | .ok frames => .open frames .separator

/-- A key has been scanned where one was wanted. -/
def Progress.afterKey (found : Except Fault String) (frames : List Frame) : Progress :=
  match found, frames with
  | .ok key, .object members :: outer => .open (.member members (.ok key) :: outer) .colon
  | .error ⟨cause, none⟩, .object members :: outer =>
    .open (.member members (.error cause) :: outer) .colon
  | .error fault, frames => .finished (breakOff fault frames)
  | .ok _, frames => .finished (breakOff (.always .keyMustBeString) frames)

/-- One step of the pass. -/
def Progress.step (frames : List Frame) (wanted : Wanted) (lexeme : Lexeme) : Progress :=
  match wanted, lexeme, frames with
  | .value, .scalar found, frames => .afterValue (ofScalar found) frames
  | .firstElement, .scalar found, frames => .afterValue (ofScalar found) frames
  | .value, .string found, frames => .afterValue (ofString found) frames
  | .firstElement, .string found, frames => .afterValue (ofString found) frames
  | .value, .openArray, frames => .open (.array [] :: frames) .firstElement
  | .firstElement, .openArray, frames => .open (.array [] :: frames) .firstElement
  | .value, .openObject, frames => .open (.object [] :: frames) .firstKey
  | .firstElement, .openObject, frames => .open (.object [] :: frames) .firstKey
  | .firstElement, .closeArray, .array elements :: outer =>
    .afterValue (.array elements.reverse none) outer
  | .value, .closeArray, .array elements :: outer =>
    .finished (breakOff ⟨.trailingComma, some .expectedValue⟩ (.array elements :: outer))
  | .value, _, frames => .finished (enclose (.broken (.always .expectedValue)) frames)
  | .firstElement, _, frames => .finished (enclose (.broken (.always .expectedValue)) frames)
  | .firstKey, .string found, frames => .afterKey found frames
  | .laterKey, .string found, frames => .afterKey found frames
  | .firstKey, .closeObject, .object members :: outer =>
    .afterValue (.object members.reverse none) outer
  | .laterKey, .closeObject, frames =>
    .finished (breakOff ⟨.trailingComma, some .keyMustBeString⟩ frames)
  | .firstKey, _, frames => .finished (breakOff (.always .keyMustBeString) frames)
  | .laterKey, _, frames => .finished (breakOff (.always .keyMustBeString) frames)
  | .colon, .colon, frames => .open frames .value
  | .colon, _, frames => .finished (breakOff (.always .expectedColon) frames)
  | .separator, .comma, .array elements :: outer => .open (.array elements :: outer) .value
  | .separator, .closeArray, .array elements :: outer =>
    .afterValue (.array elements.reverse none) outer
  | .separator, _, .array elements :: outer =>
    .finished (breakOff (.always .expectedArrayCommaOrEnd) (.array elements :: outer))
  | .separator, .comma, frames => .open frames .laterKey
  | .separator, .closeObject, .object members :: outer =>
    .afterValue (.object members.reverse none) outer
  | .separator, _, frames =>
    .finished (breakOff (.always .expectedObjectCommaOrEnd) frames)

/-- Reads one document from lexemes: the document, and the lexemes behind it. -/
def ofLexemes (frames : List Frame) (wanted : Wanted) : List Lexeme → Draft × List Lexeme
  | [] => (breakOff (endFault wanted frames) frames, [])
  | lexeme :: rest =>
    match Progress.step frames wanted lexeme with
    | .finished document => (document, rest)
    | .open frames wanted => ofLexemes frames wanted rest

end Draft

/-- A text read as a document: its draft, and whether something follows it. -/
structure Reading where
  draft : Draft
  trailing : Bool

/-- Reads a text as a document. -/
def read (text : String) : Reading :=
  let (draft, rest) := Draft.ofLexemes [] .value (lexemes text.toList)
  ⟨draft, !rest.isEmpty⟩

end Dialogs.Json
