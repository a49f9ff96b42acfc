/-!
# Faults of JSON text

What can be wrong with a text that should be JSON. Whether a fault is noticed depends on what is
done with the place where it stands: a value that is wanted is read, and one that nobody asked for
is skipped, and skipping is more lenient in some places and blames another cause in others. A
`Fault` therefore holds both findings.
-/

namespace Dialogs.Json

/-- The causes for which a text is not JSON. -/
inductive SyntaxError where
  | endInArray
  | endInObject
  | endInString
  | endInValue
  | expectedColon
  | expectedArrayCommaOrEnd
  | expectedObjectCommaOrEnd
  | expectedIdent
  | expectedValue
  | invalidEscape
  | invalidNumber
  | numberOutOfRange
  | controlCharacter
  | keyMustBeString
  | loneSurrogate
  | trailingComma
  | trailingCharacters
  | endOfHexEscape
  | recursionLimit
  deriving DecidableEq, Repr

/-- The wording of a syntax error. -/
def SyntaxError.message : SyntaxError → String
  | .endInArray => "EOF while parsing a list"
  | .endInObject => "EOF while parsing an object"
  | .endInString => "EOF while parsing a string"
  | .endInValue => "EOF while parsing a value"
  | .expectedColon => "expected `:`"
  | .expectedArrayCommaOrEnd => "expected `,` or `]`"
  | .expectedObjectCommaOrEnd => "expected `,` or `\x7d`"
  | .expectedIdent => "expected ident"
  | .expectedValue => "expected value"
  | .invalidEscape => "invalid escape"
  | .invalidNumber => "invalid number"
  | .numberOutOfRange => "number out of range"
  | .controlCharacter => "control character (\\u0000-\\u001F) found while parsing a string"
  | .keyMustBeString => "key must be a string"
  | .loneSurrogate => "lone leading surrogate in hex escape"
  | .trailingComma => "trailing comma"
  | .trailingCharacters => "trailing characters"
  | .endOfHexEscape => "unexpected end of hex escape"
  | .recursionLimit => "recursion limit exceeded"

/-- Whether the text ended before the document did. -/
def SyntaxError.isEnd : SyntaxError → Bool
  | .endInArray | .endInObject | .endInString | .endInValue => true
  | _ => false

/-- What is found at a place of a text that is not JSON: when the place is read, and when it is
skipped. Without a second finding the place can be skipped. -/
structure Fault where
  whenRead : SyntaxError
  whenSkipped : Option SyntaxError
  deriving DecidableEq, Repr

/-- A fault of the same cause in both ways. -/
def Fault.always (cause : SyntaxError) : Fault := ⟨cause, some cause⟩

/-- A fault that shows only when the place is read. -/
def Fault.reading (cause : SyntaxError) : Fault := ⟨cause, none⟩

end Dialogs.Json
