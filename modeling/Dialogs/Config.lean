import Dialogs.Text.Blank
import Dialogs.Text.Integer
import Dialogs.Json.Record

/-!
# Configuration

Which renderer is run and how: its executable, the arguments in front of its command, its backend,
the time that it may take, and whether it dumps its arguments. A configuration is read from
variables, such as those of the environment, or from JSON.
-/

namespace Dialogs

/-- How the renderer is run. -/
structure Config where
  executable : String
  /-- The arguments in front of the renderer's command, for wrapper scripts. -/
  args : List String
  backend : Option String
  timeoutSecs : Option UInt64
  debug : Bool
  deriving DecidableEq, Repr

/-- Why a configuration cannot be used. -/
inductive ConfigError where
  | invalidTimeout (value : String) (cause : Text.IntegerFault)
  | blankExecutable
  deriving DecidableEq, Repr

/-- The wording of a configuration error without its cause. -/
def ConfigError.headline : ConfigError → String
  | .invalidTimeout value _ => "TANTO_TIMEOUT_SECS is not a number: " ++ value
  | .blankExecutable =>
    "TANTO_EXECUTABLE must not be empty: set it to the renderer binary path"

/-- The wording of a configuration error, its cause included. -/
def ConfigError.message (error : ConfigError) : String :=
  match error with
  | .invalidTimeout _ cause => error.headline ++ ": " ++ cause.message
  | .blankExecutable => error.headline

namespace Config

/-- The executable that is run when none is configured. -/
def defaultExecutable : String := "tanto"

/-- The configuration when nothing is configured. -/
def default : Config :=
  { executable := defaultExecutable, args := [], backend := none, timeoutSecs := none
    debug := false }

/-- The texts that turn debugging on. -/
def affirmatives : List String := ["1", "true", "yes", "on"]

/-- Reads a timeout in whole seconds, of the unsigned 64-bit range. -/
def parseTimeout (text : String) : Except Text.IntegerFault UInt64 :=
  (Text.readNatural Text.largestUnsigned64 text.toList).map UInt64.ofNat

/-- The configuration in variables: a variable that is absent leaves the default. -/
def ofLookup (lookup : String → Option String) : Except ConfigError Config := do
  let timeoutSecs ← match lookup "TANTO_TIMEOUT_SECS" with
    | none => .ok none
    | some value =>
      match parseTimeout (Text.trim value) with
      | .ok seconds => .ok (some seconds)
      | .error cause => .error (.invalidTimeout value cause)
  return {
    executable := (lookup "TANTO_EXECUTABLE").getD defaultExecutable
    args := ((lookup "TANTO_ARGS").map Text.words).getD []
    backend := lookup "TANTO_BACKEND"
    timeoutSecs
    debug := (lookup "TANTO_DEBUG").any fun value => affirmatives.contains (Text.trim value) }

/-- The variables that hold something other than blanks. -/
def nonBlank (lookup : String → Option String) (name : String) : Option String :=
  (lookup name).filter fun value => !Text.isAllBlank value

/-- The configured timeout in nanoseconds. -/
def timeoutNanos (config : Config) : Option Nat :=
  config.timeoutSecs.map fun seconds => seconds.toNat * 1000000000

/-- The executable, if it is one: nothing but blanks is not. -/
def requireExecutable (config : Config) : Except ConfigError String :=
  if Text.isAllBlank config.executable then .error .blankExecutable else .ok config.executable

/-- How a configuration is read from JSON. -/
def record : Json.Record Config :=
  { name := "TantoConfig"
    fields :=
      [.plain "executable" false Json.Draft.toText fun executable config =>
        { config with executable },
       { key := "args", required := false
         decode := fun origin held => do
          let args ← held.toList Json.Draft.toText origin
          return fun config => { config with args } },
       .plain "backend" false (Json.Draft.toOption Json.Draft.toText) fun backend config =>
        { config with backend },
       .plain "timeout_secs" false (Json.Draft.toOption Json.Draft.toUInt64)
        fun timeoutSecs config => { config with timeoutSecs },
       .plain "debug" false Json.Draft.toBool fun debug config => { config with debug }]
    initial := default
    strict := false }

/-- The JSON value of an optional part. -/
def optional {α : Type} (encode : α → Json) : Option α → Json
  | none => .null
  | some value => encode value

/-- The JSON value of a configuration. -/
def toJson (config : Config) : Json :=
  .object
    [("executable", .string config.executable),
     ("args", .array (config.args.map .string)),
     ("backend", optional .string config.backend),
     ("timeout_secs", optional .ofUInt64 config.timeoutSecs),
     ("debug", .bool config.debug)]

end Config

end Dialogs
