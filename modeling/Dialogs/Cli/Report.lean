import Dialogs.Failure
import Dialogs.Text.Pieces

/-!
# Reports of failures

A failure is reported with its causes, from the nearest to the deepest. Several causes are numbered; every
further line of a cause is indented as far as its first.
-/

namespace Dialogs

/-- The causes of a dialog error, the nearest first. -/
def DialogError.causes : DialogError → List String
  | .undecodable cause => [cause.message]
  | _ => []

/-- The causes of a failure, the nearest first. -/
def Failure.causes : Failure → List String
  | .spawn _ cause => [cause.message]
  | .pipe cause => [cause.message]
  | .undecodable _ cause => [cause.message]
  | .invalidDialog error => error.message :: error.causes
  | .config error => [error.headline]
  | .exit _ _ | .timeout _ | .missingPipe _ => []

namespace Cli

/-- A failure of the program with its causes, the nearest first. -/
structure Report where
  headline : String
  causes : List String := []
  deriving DecidableEq, Repr

namespace Report

/-- The report of a failure. -/
def ofFailure (failure : Failure) : Report := ⟨failure.message, failure.causes⟩

/-- The report of a dialog error. -/
def ofDialogError (error : DialogError) : Report := ⟨error.message, error.causes⟩

/-- The report of what a failure prevented. -/
def within (report : Report) (headline : String) : Report :=
  ⟨headline, report.headline :: report.causes⟩

/-- A text whose further lines are indented. -/
def indented (indent text : String) : String :=
  ("\n" ++ indent).intercalate (Text.pieces '\n' text)

/-- A text at the end of a field. -/
def padded (width : Nat) (text : String) : String :=
  String.ofList (List.replicate (width - text.length) ' ') ++ text

/-- A cause on lines of its own, with its number. -/
def numbered (index : Nat) (cause : String) : String :=
  "\n" ++ padded 5 (toString index) ++ ": " ++ indented "       " cause

/-- A cause on lines of its own, without a number. -/
def unnumbered (cause : String) : String := "\n    " ++ indented "    " cause

/-- The text of causes. A single one has no number. -/
def causesText (causes : List String) : String :=
  if causes.isEmpty then ""
  else "\n\nCaused by:" ++
    if causes.length = 1 then String.join (causes.map unnumbered)
    else String.join (causes.mapIdx numbered)

/-- The text of a report. -/
def text (report : Report) : String :=
  "Error: " ++ report.headline ++ causesText report.causes ++ "\n"

end Report

end Cli

end Dialogs
