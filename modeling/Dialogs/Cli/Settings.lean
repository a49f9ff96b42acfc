import Dialogs.Cli.CommandLine

/-!
# Settings in layers

The configuration of the renderer comes in three layers, field by field: what the command line gives
comes before what the settings file gives, and that before the configuration of the environment. Only
debugging is different, since a flag can turn it on and not off.
-/

namespace Dialogs.Cli

/-- What a settings file says about the renderer. -/
structure RendererSettings where
  executable : Option String
  args : Option (List String)
  backend : Option String
  timeoutSecs : Option UInt64
  debug : Option Bool
  deriving DecidableEq, Repr

/-- What a settings file says about the log. -/
structure LogSettings where
  dir : Option String
  filter : Option String
  deriving DecidableEq, Repr

/-- A settings file. -/
structure Settings where
  renderer : Option RendererSettings
  logging : Option LogSettings
  deriving DecidableEq, Repr

namespace Settings

/-- The settings when there are none. -/
def empty : Settings := ⟨none, none⟩

/-- A field that may be absent or null. -/
def field {σ α : Type} (key : String) (decode : Json.Draft → Except Json.Error α)
    (set : Option α → σ → σ) : Json.Field σ :=
  .plain key false (Json.Draft.toOption decode) set

/-- A field that holds a record, and may be absent or null. -/
def part {σ α : Type} (key : String) (record : Json.Record α) (set : Option α → σ → σ) :
    Json.Field σ :=
  { key, required := false
    decode := fun origin held => do
      let value ← held.toOption (record.decode origin)
      return set value }

/-- How the part on the renderer is read from JSON. -/
def rendererRecord : Json.Record RendererSettings :=
  { name := "RendererConfig"
    fields :=
      [field "executable" Json.Draft.toText fun executable settings => { settings with executable },
       { key := "args", required := false
         decode := fun origin held => do
          let args ← held.toOption fun held => held.toList Json.Draft.toText origin
          return fun settings => { settings with args } },
       field "backend" Json.Draft.toText fun backend settings => { settings with backend },
       field "timeout_secs" Json.Draft.toUInt64 fun timeoutSecs settings =>
        { settings with timeoutSecs },
       field "debug" Json.Draft.toBool fun debug settings => { settings with debug }]
    initial := ⟨none, none, none, none, none⟩
    strict := false }

/-- How the part on the log is read from JSON. -/
def logRecord : Json.Record LogSettings :=
  { name := "LoggingConfig"
    fields :=
      [field "dir" Json.Draft.toText fun dir settings => { settings with dir },
       field "filter" Json.Draft.toText fun filter settings => { settings with filter }]
    initial := ⟨none, none⟩
    strict := false }

/-- How settings are read from JSON. -/
def record : Json.Record Settings :=
  { name := "CliConfig"
    fields :=
      [part "renderer" rendererRecord fun renderer settings => { settings with renderer },
       part "logging" logRecord fun logging settings => { settings with logging }]
    initial := empty
    strict := false }

/-- Lays the settings of a file over a configuration. An executable that is blank counts as none. -/
def apply (settings : Settings) (base : Config) : Config :=
  match settings.renderer with
  | none => base
  | some given =>
    { executable :=
        (given.executable.filter fun executable => !Text.isAllBlank executable).getD base.executable
      args := given.args.getD base.args
      backend := given.backend.or base.backend
      timeoutSecs := given.timeoutSecs.or base.timeoutSecs
      debug := given.debug.getD base.debug }

/-- The directory of the log. -/
def logDir (settings : Settings) : Option String := settings.logging.bind LogSettings.dir

/-- What the log holds. -/
def logFilter (settings : Settings) : Option String := settings.logging.bind LogSettings.filter

end Settings

/-- Lays flags over settings over a configuration. -/
def Flags.resolve (flags : Flags) (settings : Settings) (base : Config) : Config :=
  let config := settings.apply base
  { config with
    executable := flags.executable.getD config.executable
    backend := flags.backend.or config.backend
    timeoutSecs := flags.timeout.or config.timeoutSecs
    debug := config.debug || flags.debug }

end Dialogs.Cli
