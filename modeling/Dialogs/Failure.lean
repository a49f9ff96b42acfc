import Dialogs.DialogError
import Dialogs.Config
import Dialogs.Path

/-!
# Failures

What can go wrong between a request and the answer of the renderer. A renderer that takes too long is
told from the others by its limit, in the largest of the units second, millisecond, microsecond and
nanosecond of which the limit has at least one.
-/

namespace Dialogs

namespace Text

/-- A fraction of `places` decimal places with its point, without trailing zeros; nothing for
zero. -/
def fractionText (places fraction : Nat) : String :=
  let digits := (Nat.toDigits 10 fraction)
  let padded := List.replicate (places - digits.length) '0' ++ digits
  let kept := (padded.reverse.dropWhile (· == '0')).reverse
  if kept.isEmpty then "" else "." ++ String.ofList kept

/-- The text of a duration given in nanoseconds. -/
def durationText (nanoseconds : Nat) : String :=
  if 1000000000 ≤ nanoseconds then
    toString (nanoseconds / 1000000000) ++ fractionText 9 (nanoseconds % 1000000000) ++ "s"
  else if 1000000 ≤ nanoseconds then
    toString (nanoseconds / 1000000) ++ fractionText 6 (nanoseconds % 1000000) ++ "ms"
  else if 1000 ≤ nanoseconds then
    toString (nanoseconds / 1000) ++ fractionText 3 (nanoseconds % 1000) ++ "µs"
  else toString nanoseconds ++ "ns"

end Text

/-- Why a pipe cannot be read or written. -/
inductive PipeError where
  /-- An error with a text of its own. -/
  | reported (text : String)
  /-- A line in which the bytes from `index` on are not UTF-8; `length` of them are wrong. -/
  | invalidLine (index length : Nat)
  /-- A line that ends within a character which starts at `index`. -/
  | incompleteLine (index : Nat)
  /-- An output that is not UTF-8. -/
  | invalidOutput
  deriving DecidableEq, Repr

/-- The wording of a pipe error. -/
def PipeError.message : PipeError → String
  | .reported text => text
  | .invalidLine index length =>
    "invalid utf-8 sequence of " ++ toString length ++ " bytes from index " ++ toString index
  | .incompleteLine index => "incomplete utf-8 byte sequence from index " ++ toString index
  | .invalidOutput => "stream did not contain valid UTF-8"

/-- Why the renderer gave no answer, or none that can be used. -/
inductive Failure where
  | spawn (executable : String) (cause : SystemError)
  | pipe (cause : PipeError)
  | undecodable (output : String) (cause : Json.Error)
  /-- The renderer failed, with an exit code unless a signal ended it. -/
  | exit (code : Option Int) (message : String)
  /-- The renderer did not finish within a number of nanoseconds. -/
  | timeout (nanoseconds : Nat)
  | missingPipe (name : String)
  | invalidDialog (error : DialogError)
  | config (error : ConfigError)
  deriving DecidableEq, Repr

namespace Failure

/-- The wording of an exit code. -/
def exitLabel : Option Int → String
  | some code => "status " ++ toString code
  | none => "a signal"

/-- The wording of a failure, given that of decoding errors. -/
def messageWith (wording : Json.Error → String) : Failure → String
  | .spawn executable cause =>
    "failed to spawn renderer " ++ executable ++ ": " ++ cause.message
  | .pipe cause => "renderer pipe error: " ++ cause.message
  | .undecodable output cause =>
    "failed to decode renderer output " ++ Text.quoted output ++ ": " ++ wording cause
  | .exit code message => "renderer exited with " ++ exitLabel code ++ ": " ++ message
  | .timeout nanoseconds => "renderer did not finish within " ++ Text.durationText nanoseconds
  | .missingPipe name => "renderer process does not expose " ++ name
  | .invalidDialog error => "invalid dialog: " ++ error.messageWith wording
  | .config error => "invalid configuration: " ++ error.headline

/-- The wording of a failure. -/
def message (failure : Failure) : String := failure.messageWith Json.Error.message

end Failure

end Dialogs
