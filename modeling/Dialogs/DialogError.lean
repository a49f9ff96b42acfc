import Dialogs.Json.Error

/-!
# Errors of dialog descriptions

What can be wrong with a description of a dialog, apart from how it is shown.
-/

namespace Dialogs

/-- Why a list header cannot be read. -/
inductive HeaderError where
  | notAnArray (type : String)
  | entry (cause : Json.Error)
  deriving DecidableEq, Repr

/-- Why a description of a dialog is refused. -/
inductive DialogError where
  | invalidWindowType (type : String)
  | unknownWidget (type : String)
  | notAnObject (type : String)
  | notPrimitive (type : String)
  | invalidFont (description : String)
  | invalidHeader (cause : HeaderError)
  | undecodable (cause : Json.Error)
  deriving DecidableEq, Repr

/-- The wording of a header error, given that of decoding errors. -/
def HeaderError.messageWith (wording : Json.Error → String) : HeaderError → String
  | .notAnArray type => "expected an array, found " ++ type
  | .entry cause => wording cause

/-- The wording of a dialog error, given that of decoding errors. -/
def DialogError.messageWith (wording : Json.Error → String) : DialogError → String
  | .invalidWindowType type => "invalid window type: '" ++ type ++ "'"
  | .unknownWidget type => "unknown widget type: '" ++ type ++ "'"
  | .notAnObject type => "expected a JSON object, found " ++ type
  | .notPrimitive type => "cannot stringify type: '" ++ type ++ "'"
  | .invalidFont description => "invalid font description: '" ++ description ++ "'"
  | .invalidHeader cause => "invalid list header: " ++ cause.messageWith wording
  | .undecodable cause => "failed to decode dialog: " ++ wording cause

/-- The wording of a dialog error. -/
def DialogError.message (error : DialogError) : String := error.messageWith Json.Error.message

end Dialogs
