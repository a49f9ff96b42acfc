import Dialogs.Renderer
import Dialogs.Script.Command
import Dialogs.Script.Utility

/-!
# The state of a running script

A script reads from sources and prints to sinks, and time passes while it waits. Everything that
arrives or is printed carries its time. What a subshell may change for itself alone, its variables and
descriptors, is kept apart from what all shells share: the clock, what is left to read, what has been
printed, and the files.
-/

namespace Dialogs.Script

/-- Bytes that arrive together. -/
structure Burst where
  time : Nat
  bytes : List UInt8
  deriving Repr

/-- Something that can be read: what arrives, and when it ends, if ever. -/
structure Source where
  bursts : List Burst
  ends : Option Nat
  deriving Repr

/-- What a descriptor is connected to. -/
inductive Target where
  | nowhere
  /-- A source, by its number. The standard input of the script is number zero. -/
  | source (index : Nat)
  | stdout
  | stderr
  /-- Text that the script collects for itself, by the number of the collection. -/
  | collection (index : Nat)
  | file (name : String)
  deriving DecidableEq, Repr

/-- What all shells of a script share. -/
structure World where
  clock : Nat := 0
  sources : Array Source := #[]
  /-- Collected text, last first. -/
  collections : Array (List Burst) := #[]
  /-- What was printed, last first. -/
  stdout : List Burst := []
  stderr : List Burst := []
  /-- The files and the directories, by their paths without detours. -/
  files : List (String × List UInt8) := []
  directories : List String := []
  /-- When so little of the standard input was left that all of it fits into the pipe. -/
  drained : Option Nat := none
  /-- When the script closed its standard input. -/
  released : Option Nat := none
  /-- When the script closed its standard output. -/
  silenced : Option Nat := none
  /-- When the last background command ends. -/
  busyUntil : Nat := 0
  /-- Whether a background command never ends. -/
  busyForever : Bool := false

/-- The files and directories that a script finds. -/
def World.terrain (world : World) : Terrain :=
  { isFile := fun names =>
      let path := Path.ofWay names
      world.files.any fun (other, _) => other == path
    isDirectory := fun names =>
      let path := Path.ofWay names
      world.directories.contains path ||
        world.files.any fun (other, _) => (path ++ "/").isPrefixOf other }

/-- What belongs to one shell. -/
structure Local where
  /-- How the shell was called. -/
  name : List UInt8 := []
  arguments : List (List UInt8) := []
  bindings : List (String × List UInt8) := []
  exported : List String := []
  functions : List (String × Command) := []
  descriptors : List (Nat × Target) := []
  /-- What is done on a signal or at the end; nothing if the text is empty. -/
  traps : List (String × List UInt8) := []
  status : Nat := 0
  line : Nat := 1
  /-- The number of shells around this one. -/
  depth : Nat := 0
  /-- Whether a command that fails ends the shell. -/
  strict : Bool := false
  /-- Whether the success of the command that runs is asked for by another. -/
  tested : Bool := false
  /-- Whether a missing variable is an error. -/
  pedantic : Bool := false
  /-- The variables that the running function has to itself, and their values outside it. -/
  hidden : List (String × Option (List UInt8)) := []
  /-- Whether the command that runs has used the output of another. -/
  substituted : Bool := false

/-- The state of a running script. -/
structure State where
  world : World
  shell : Local

/-- Why a script does not go on with the next command. -/
inductive Interruption where
  | exit (status : Nat)
  /-- A signal has ended the script. -/
  | killed
  /-- The script waits for something that never comes. -/
  | endless
  /-- Loops are left, or begun anew. -/
  | leave (loops : Nat)
  | again (loops : Nat)
  /-- A function returns. -/
  | back
  deriving DecidableEq, Repr

/-- A step of a running script. -/
abbrev Step := EStateM Interruption State

namespace Step

/-- Changes what all shells share. -/
def onWorld (change : World → World) : Step Unit :=
  modify fun state => { state with world := change state.world }

/-- Changes what belongs to the running shell. -/
def onShell (change : Local → Local) : Step Unit :=
  modify fun state => { state with shell := change state.shell }

/-- The state that all shells share. -/
def world : Step World := return (← get).world

/-- The state of the running shell. -/
def shell : Step Local := return (← get).shell

/-- Sets the status of the last command. -/
def setStatus (status : Nat) : Step Unit := onShell fun shell => { shell with status }

/-- Waits until a time. -/
def waitUntil (time : Nat) : Step Unit :=
  onWorld fun world => { world with clock := max world.clock time }

/-- What a descriptor is connected to. -/
def target? (descriptor : Nat) : Step (Option Target) := do
  return ((← shell).descriptors.find? fun (number, _) => number == descriptor).map Prod.snd

/-- Prints to a descriptor, and tells whether that is possible. -/
def print (descriptor : Nat) (bytes : List UInt8) : Step Bool := do
  match ← target? descriptor with
  | none | some (.source _) => return false
  | some .nowhere => return true
  | some target =>
    if bytes.isEmpty then return true
    let burst : Burst := ⟨(← world).clock, bytes⟩
    onWorld fun world =>
      match target with
      | .stdout => { world with stdout := burst :: world.stdout }
      | .stderr => { world with stderr := burst :: world.stderr }
      | .collection index =>
        { world with collections := world.collections.modify index (burst :: ·) }
      | .file name =>
        { world with files := world.files.map fun (other, content) =>
            (other, if other == name then content ++ bytes else content) }
      | .nowhere | .source _ => world
    return true

/-- Prints a complaint in the name of the script, with the line that it is about. -/
def complain (text : String) : Step Unit := do
  let shell ← shell
  let _ ← print 2
    (shell.name ++ Text.Utf8.bytes (": " ++ toString shell.line ++ ": " ++ text ++ "\n"))

/-- Prints a complaint of a utility. -/
def mutter (text : String) : Step Unit := do
  let _ ← print 2 (Text.Utf8.bytes (text ++ "\n"))

/-- The number of bytes that a pipe holds. -/
def pipeCapacity : Nat := 65536

/-- Leaves a source with what has not been read of it. -/
def leaveSource (index : Nat) (bursts : List Burst) : Step Unit :=
  onWorld fun world =>
    let left := bursts.foldl (fun sum burst => sum + burst.bytes.length) 0
    { world with
      sources := world.sources.modify index fun source => { source with bursts }
      drained := if index == 0 && left ≤ pipeCapacity then
          world.drained.orElse fun () => some world.clock
        else world.drained }

/-- Reads a descriptor to its end, doing something with whatever arrives. A descriptor that cannot be
read is reported as such. -/
def drain (descriptor : Nat) (use : List UInt8 → Step Unit) : Step Bool := do
  match ← target? descriptor with
  | some (.source index) =>
    let some source := (← world).sources[index]? | return false
    source.bursts.forM fun burst => do
      waitUntil burst.time
      use burst.bytes
    leaveSource index []
    match source.ends with
    | some time => waitUntil time
    | none => throw .endless
    return true
  | some .nowhere => return true
  | _ => return false

/-- Everything that can be read from a descriptor. -/
def readAll (descriptor : Nat) : Step (Option (List UInt8)) := do
  modify fun state =>
    { state with world := { state.world with collections := state.world.collections.push [] } }
  let index := (← world).collections.size - 1
  let readable ← drain descriptor fun bytes =>
    onWorld fun world =>
      { world with collections := world.collections.modify index (⟨world.clock, bytes⟩ :: ·) }
  let bursts := (← world).collections.getD index []
  return if readable then some (bursts.reverse.map Burst.bytes).flatten else none

/-- A line at the start of what arrives, without its newline; whether it has one; the time when it is
complete; and what is left. -/
def lineOf (read : List (List UInt8)) (time : Nat) :
    List Burst → List UInt8 × Bool × Nat × List Burst
  | [] => (read.reverse.flatten, false, time, [])
  | burst :: rest =>
    let line := burst.bytes.takeWhile (· != 10)
    match burst.bytes.drop line.length with
    | [] => lineOf (line :: read) burst.time rest
    | _ :: behind =>
      ((line :: read).reverse.flatten, true, burst.time, ⟨burst.time, behind⟩ :: rest)

/-- Reads a line, and tells whether it ended with a newline. -/
def readLine (descriptor : Nat) : Step (Option (List UInt8 × Bool)) := do
  match ← target? descriptor with
  | some (.source index) =>
    let some source := (← world).sources[index]? | return none
    let (line, complete, time, rest) := lineOf [] 0 source.bursts
    waitUntil time
    leaveSource index rest
    if !complete then
      match source.ends with
      | some time => waitUntil time
      | none => throw .endless
    return some (line, complete)
  | some .nowhere => return some ([], false)
  | _ => return none

/-- Opens a source for what is there already. -/
def openText (bytes : List UInt8) : Step Target := do
  let clock := (← world).clock
  let index := (← world).sources.size
  onWorld fun world =>
    { world with sources := world.sources.push ⟨[⟨clock, bytes⟩], some clock⟩ }
  return .source index

/-- Where a path leads. -/
def place (path : String) : Step (Except SystemError Place) := do
  return Path.resolve (← world).terrain path

/-- The content of the file on a path. -/
def file? (path : String) : Step (Option (List UInt8)) := do
  match ← place path with
  | .ok (.file names) =>
    return ((← world).files.find? fun (other, _) => other == Path.ofWay names).map Prod.snd
  | _ => return none

/-- Whether a path leads to a directory. -/
def isDirectory (path : String) : Step Bool := do
  return Path.isDirectory (← world).terrain path

/-- The path by which the file on a path is kept, whether it is there or could be created there. -/
def site (path : String) : Step (Except SystemError String) := do
  return (Path.site (← world).terrain path).map Path.ofWay

/-- Creates an empty file, or empties one, by the path by which it is kept. -/
def truncate (name : String) : Step Unit :=
  onWorld fun world =>
    { world with files := (name, []) :: world.files.filter fun (other, _) => other != name }

/-- Connects a descriptor. -/
def connect (descriptor : Nat) (target : Option Target) : Step Unit :=
  onShell fun shell =>
    { shell with descriptors :=
        let others := shell.descriptors.filter fun (number, _) => number != descriptor
        match target with
        | some target => (descriptor, target) :: others
        | none => others }

/-- Notes that the script itself has let go of its standard input or output. -/
def noteClosed : Step Unit := do
  let state ← get
  if state.shell.depth == 0 then
    let holds (target : Target) : Bool := state.shell.descriptors.any fun (_, other) => other == target
    onWorld fun world =>
      { world with
        released := if holds (.source 0) then world.released
          else world.released.orElse fun () => some world.clock
        silenced := if holds .stdout then world.silenced
          else world.silenced.orElse fun () => some world.clock }

/-- The value of a variable. -/
def valueOf? (name : String) : Step (Option (List UInt8)) := do
  return ((← shell).bindings.find? fun (other, _) => other == name).map Prod.snd

/-- Sets a variable. -/
def assign (name : String) (value : List UInt8) : Step Unit :=
  onShell fun shell =>
    { shell with
      bindings := (name, value) :: shell.bindings.filter fun (other, _) => other != name }

/-- Runs something in a shell of its own: what it changes for itself is forgotten, and its end is not
the end of the script. -/
def inSubshell (body : Step Unit) : Step Unit := do
  let before ← shell
  onShell fun shell => { shell with depth := shell.depth + 1, traps := [] }
  let status ← tryCatch (do body; return (← shell).status) fun stop =>
    match stop with
    | .exit status => return status
    | .back | .leave _ | .again _ => return (← shell).status
    | stop => throw stop
  onShell fun _ => { before with status }

end Step

end Dialogs.Script
