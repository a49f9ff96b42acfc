import Dialogs.Runner
import Dialogs.Script.Eval

/-!
# Scripts as renderers

Where programs are started there are files and variables, and a number of programs by name: the shell,
and the utilities that scripts call. A program that is started this way is a renderer, whose behaviour
is what its run leaves behind.
-/

namespace Dialogs.Script

/-- Where programs are started. -/
structure Setting where
  files : List (String × String) := []
  directories : List String := []
  environment : List (String × String) := []

/-- The programs that can be started by name. -/
def programs : List String :=
  ["sh", "dash", "env", "echo", "printf", "true", "false", "test", "[", "kill", "cat", "wc", "head",
   "tail", "grep", "fgrep", "egrep", "tr", "sort", "seq", "tee", "sleep", "rev",
   "rm", "mkdir", "touch"]

/-- The directories that hold the programs. -/
def programDirectories : List (List String) := ["/bin", "/usr/bin"].map Path.way

/-- Whether programs are found by their names alone: without a search path they are. -/
def Setting.searches (setting : Setting) : Bool :=
  match setting.environment.find? fun (name, _) => name == "PATH" with
  | none => true
  | some (_, path) =>
    (Text.pieces ':' path).any fun directory => programDirectories.contains (Path.way directory)

/-- What is known where programs are started. -/
def Setting.terrain (setting : Setting) : Terrain :=
  let files := setting.files.map fun (name, _) => Path.way name
  let directories := setting.directories.map Path.way
  { isFile := files.contains
    isDirectory := fun names =>
      directories.contains names ||
        files.any fun file => names.length < file.length && names.isPrefixOf file }

/-- The program at an absolute path. -/
def programAt? (path : String) : Option String := do
  let way := Path.way path
  let name ← way.getLast?
  if programDirectories.contains way.dropLast && programs.contains name && !path.endsWith "/" then
    some name
  else none

/-- Finds the program of a name. A name with a slash in it is a path; what is there but is no program
may not be run. -/
def Setting.find (setting : Setting) (executable : String) : Except SystemError String :=
  if executable.contains '/' then
    match programAt? executable with
    | some name => .ok name
    | none =>
      match Path.resolve setting.terrain executable with
      | .ok _ => .error .permissionDenied
      | .error cause => .error cause
  else if programs.contains executable && setting.searches then .ok executable
  else if executable == "." || executable == ".." then .error .permissionDenied
  else if Path.nameLimit < executable.utf8ByteSize then .error .nameTooLong
  else .error .notFound

/-- The nesting of commands after which a script counts as one that never ends. -/
def depthLimit : Nat := 10000

/-- The state in which a program is started. -/
def Setting.initial (setting : Setting) (feed : Feed) : State :=
  let (input, sources) : Target × Array Source := match feed with
    | .absent => (.nowhere, #[⟨[], some 0⟩])
    | .awaited => (.source 0, #[⟨[], none⟩])
    | .handed time document => (.source 0, #[⟨[⟨time, Text.Utf8.bytes document⟩], some time⟩])
  { world :=
      { sources
        files := setting.files.map fun (path, content) =>
          (Path.ofWay (Path.way path), Text.Utf8.bytes content)
        directories := setting.directories.map fun path => Path.ofWay (Path.way path) }
    shell :=
      { name := ascii "sh"
        bindings := setting.environment.map fun (name, value) => (name, Text.Utf8.bytes value)
        exported := setting.environment.map Prod.fst
        descriptors := [(0, input), (1, .stdout), (2, .stderr)] } }

/-- Runs a program, and then what it has arranged for its end. -/
def main (program : String) (arguments : List (List UInt8)) : Step Unit := do
  let status ← tryCatch
    (do
      if program == "sh" || program == "dash" then Step.runShell depthLimit arguments
      else
        let _ ← Step.runProgram depthLimit program arguments
      return (← Step.shell).status)
    fun interruption =>
      match interruption with
      | .exit status => return status
      | .back | .leave _ | .again _ => return (← Step.shell).status
      | interruption => throw interruption
  Step.setStatus status
  match (← Step.shell).traps.find? fun (signal, _) => signal == "EXIT" with
  | some (_, action) => Step.runText depthLimit (Step.shown action).toList
  | none => return ()
  Step.setStatus status

/-- What arrives on an output, in the order of time. -/
def arrivals (closes : Nat) (printed : List Burst) : List Arrival :=
  let ordered := printed.reverse.mergeSort fun first second => first.time ≤ second.time
  let (read, begun) := ordered.foldl
    (fun state burst => burst.bytes.foldl
      (fun ((read, begun) : List Arrival × Option Text.Begun) byte =>
        let (glyphs, next) := Text.Utf8.step begun byte
        (glyphs.foldl (fun read glyph => ⟨burst.time, glyph⟩ :: read) read, next))
      state)
    (([] : List Arrival), (none : Option Text.Begun))
  ((Text.Utf8.finish begun).foldl (fun read glyph => ⟨closes, glyph⟩ :: read) read).reverse

/-- What becomes of the document of a program whose run has left a world behind, and has ended at a
time, if ever. -/
def uptakeOf (feed : Feed) (world : World) (ended : Option Nat) : Uptake :=
  match feed with
  | .absent | .awaited => .taken 0
  | .handed time document =>
    if document.utf8ByteSize ≤ Step.pipeCapacity then .taken time
    else
      match world.drained, world.released.orElse fun () => ended with
      | some drained, _ => .taken (max time drained)
      | none, some released => .refused (max time released)
      | none, none => .stuck

/-- How a program behaves, given how its run ended and what it has left behind. -/
def behaviourOf (feed : Feed) (state : State) (code : Option (Option Int)) : Behaviour :=
  let world := state.world
  let ended := code.map fun _ => world.clock
  let closes := match ended with
    | some time =>
      if world.busyForever then none else some (max (world.silenced.getD time) world.busyUntil)
    | none => world.silenced
  let last := closes.getD world.clock
  { stdout := arrivals last world.stdout
    stderr := arrivals last world.stderr
    closes
    ending := code.map fun code => ⟨world.clock, code⟩
    uptake := uptakeOf feed world ended }

/-- The renderer that a program and its arguments make up. -/
def Setting.renderer (setting : Setting) (program : String) (arguments : List String) : Renderer :=
  fun feed =>
    match main program (arguments.map Text.Utf8.bytes) (setting.initial feed) with
    | .ok () state => behaviourOf feed state (some (some state.shell.status))
    | .error (.exit status) state => behaviourOf feed state (some (some status))
    | .error .killed state => behaviourOf feed state (some none)
    | .error .endless state => behaviourOf feed state none
    | .error _ state => behaviourOf feed state (some (some state.shell.status))

/-- Starts programs in a setting. -/
def Setting.launcher (setting : Setting) : Launcher := fun executable arguments =>
  if executable.contains '\x00' || arguments.any (·.contains '\x00') then .error .nulByte
  else (setting.find executable).map fun program => setting.renderer program arguments

end Dialogs.Script
