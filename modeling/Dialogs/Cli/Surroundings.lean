import Dialogs.Cli.LogFilter
import Dialogs.Cli.Report
import Dialogs.Cli.SettingsFile
import Dialogs.Cli.VariableFile
import Dialogs.Script.Launch
import Dialogs.Source

/-!
# What surrounds a run

A run of the program finds files, variables and a standard input. From these come its settings, its
configuration, and the dialogs that it shows.

Main statement: a variable of the environment is not changed by the file of variables.
-/

namespace Dialogs.Cli

/-- What a run of the program finds. -/
structure Surroundings where
  setting : Script.Setting
  /-- The text of the standard input. -/
  input : String
  /-- What the clock of the machine shows, in nanoseconds since some start of it. A machine that runs
  programs has been running for a second, which is assumed where nobody has looked at the clock: it
  matters only for a limit that is within the time the machine has been running of the last one that
  the clock can hold. -/
  clock : Nat := 1000000000

namespace Surroundings

/-- The value of a variable. -/
def lookup (surroundings : Surroundings) (name : String) : Option String :=
  VariableFile.valueOf? surroundings.setting.environment name

/-- The files and directories that a run finds. -/
def terrain (surroundings : Surroundings) : Terrain := surroundings.setting.terrain

/-- The text of the file that is reached by some names. -/
def textAt? (surroundings : Surroundings) (names : List String) : Option String :=
  (surroundings.setting.files.find? fun (path, _) => Path.way path == names).map Prod.snd

/-- The text of the file on a path. -/
def fileAt? (surroundings : Surroundings) (path : String) : Option String :=
  match Path.resolve surroundings.terrain path with
  | .ok (.file names) => surroundings.textAt? names
  | _ => none

/-- Reads the file on a path, which may be one of the system, or the standard input. -/
def read (surroundings : Surroundings) (path : String) : Except SystemError String := do
  match ← Path.resolve surroundings.terrain path with
  | .directory _ => throw .isADirectory
  | .file names =>
    match (surroundings.textAt? names).or (Path.systemTexts.lookup names) with
    | some text => return text
    | none =>
      if Path.inputFiles.contains names then return surroundings.input else throw .permissionDenied

/-- The file of settings when no variable names another. -/
def defaultSettingsPath : String := "config/tanto.yaml"

/-- A path up to the end of its last name, unless that name leads back. -/
def withoutTail? (path : String) : Option String :=
  let ahead := (Text.pieces '/' path).reverse.dropWhile fun name => name == "" || name == "."
  match ahead with
  | [] | ".." :: _ => none
  | ahead => some ("/".intercalate ahead.reverse)

/-- The paths on which settings are looked for, with the extension that they count as: the path itself with
its own, and then the path with each of the extensions behind it. -/
def settingsPaths (path : String) : List (String × Option String) :=
  (path, Source.extension? path) ::
    match withoutTail? path with
    | none => []
    | some stem => SettingsFile.formats.map fun (extension, _) => (stem ++ "." ++ extension, some extension)

/-- The settings file of a path, by its extension and its text. -/
def settingsFile? (surroundings : Surroundings) (path : String) : Option (String × String) := do
  let (text, extension) ← (settingsPaths path).findSome? fun (path, extension) =>
    (surroundings.fileAt? path).map fun text => (text, extension)
  return (← extension, text)

/-- The layer of the settings file. A file that is missing says nothing, and a byte order mark is not part
of a file. -/
def fileLayer (surroundings : Surroundings) : Except SettingsFault Layer :=
  let path := (surroundings.lookup "TANTO_CLI_CONFIG_PATH").getD defaultSettingsPath
  match surroundings.settingsFile? path with
  | some (extension, text) =>
    SettingsFile.read extension (String.ofList (Text.Utf8.withoutMark text.toList))
  | none => .ok []

/-- The settings: those of the file, and over them those of the environment. -/
def settings (surroundings : Surroundings) : Except SettingsFault Settings := do
  Settings.ofLayers
    [← surroundings.fileLayer, Layer.ofVariables surroundings.setting.environment]

/-- The filter of the log when nothing says what it is. -/
def defaultLogFilter : String := "warn"

/-- Checks the filter of the log. One in the environment counts if it is valid. -/
def checkLogFilter (surroundings : Surroundings) (settings : Settings) :
    Except LogFilter.Fault Unit :=
  match (surroundings.lookup "RUST_LOG").map LogFilter.check with
  | some (.ok ()) => .ok ()
  | some (.error .splitCharacter) => .error .splitCharacter
  | _ => LogFilter.check (settings.logFilter.getD defaultLogFilter)

/-- The name of a log file on some day. Those of all days are equally long. -/
def logFile : String := "tanto-cli.1970-01-01"

/-- Why no log file can be created in a directory that is there. -/
def logObstacle? (terrain : Terrain) (directory : String) : Option SystemError :=
  let isFixed := match Path.resolve terrain directory with
    | .ok (.directory names) => names.any Path.fixedDirectories.contains
    | _ => false
  let separator := if directory.endsWith "/" then "" else "/"
  if isFixed then some .notFound
  else if directory.isEmpty then none
  else Path.obstacle? (directory ++ separator ++ logFile)

/-- Creates the directory of the log and the log in it, if there is to be one. -/
def openLog (surroundings : Surroundings) (directory : Option String) :
    Except Report Surroundings :=
  match directory with
  | none => .ok surroundings
  | some path =>
    let refused (what : String) (cause : SystemError) : Except Report Surroundings :=
      .error ⟨"failed to create log directory " ++ path,
        ["failed to create " ++ what ++ ": " ++ cause.message, cause.message]⟩
    match Path.missing surroundings.terrain path with
    | .error cause => refused "log directory" cause
    | .ok missing =>
      match logObstacle? surroundings.terrain path with
      | some cause => refused "initial log file" cause
      | none =>
        .ok { surroundings with
          setting := { surroundings.setting with
            directories := missing.map Path.ofWay ++ surroundings.setting.directories } }

/-- The file that sets variables. -/
def variableFile : String := ".env"

/-- The surroundings with the variables that the file of variables sets, unless one cannot be set. -/
def withVariableFile? (surroundings : Surroundings) : Option Surroundings :=
  match surroundings.fileAt? variableFile with
  | none => some surroundings
  | some text => (VariableFile.apply surroundings.setting.environment text).map fun environment =>
    { surroundings with setting := { surroundings.setting with environment } }

/-- The configuration in the environment. -/
def config (surroundings : Surroundings) : Except ConfigError Config :=
  Config.ofLookup (Config.nonBlank surroundings.lookup)

/-- Whether a path stands for the standard input: a dash, perhaps with slashes behind it. -/
def isInput (path : String) : Bool :=
  match Text.pieces '/' path with
  | "-" :: rest => rest.all fun name => name == "" || name == "."
  | _ => false

/-- Whether the standard input is what can be read on a path. -/
def isInputFile (path : String) : Bool :=
  isInput path ||
    match Path.resolve ⟨fun _ => false, fun _ => false⟩ path with
    | .ok (.file names) => Path.inputFiles.contains names
    | _ => false

/-- Reads a dialog document from a file, or from the standard input. -/
def document (surroundings : Surroundings) (file : Option String) : Except Report Json.Document := do
  let (contents, source) ← match file.filter fun path => !isInput path with
    | some path =>
      match surroundings.read path with
      | .ok contents => pure (contents, path)
      | .error cause => throw ⟨"failed to read " ++ path, [cause.message]⟩
    | none => pure (surroundings.input, "stdin")
  match Source.read contents file with
  | .ok document => return document
  | .error fault => throw ⟨source ++ " is not a valid dialog document", fault.causes⟩

/-- A variable of the environment is not changed by the file of variables. -/
theorem lookup_withVariableFile? {surroundings complete : Surroundings} {name value : String}
    (completed : surroundings.withVariableFile? = some complete)
    (known : surroundings.lookup name = some value) : complete.lookup name = some value := by
  unfold withVariableFile? at completed
  split at completed
  · cases completed
    exact known
  · obtain ⟨environment, loaded, same⟩ := Option.map_eq_some_iff.mp completed
    subst same
    exact VariableFile.valueOf?_load loaded known

end Surroundings

end Dialogs.Cli
