import Dialogs.Script.Arithmetic
import Dialogs.Script.Builtin

/-!
# Running a script

Commands run on the state of a script. Running is bounded by a fuel, which is spent by commands within
commands and by the rounds of loops; a script that uses it up is one that never ends.
-/

namespace Dialogs.Script

namespace Step

/-- The number of rounds after which a loop counts as endless. -/
def roundLimit : Nat := 50000

/-- Repeats something with a state of its own until it says that it is done. -/
def iterate {α : Type} (rounds : Nat) (once : α → Step (Option α)) (state : α) : Step α :=
  match rounds with
  | 0 => throw .endless
  | rounds + 1 => do
    match ← once state with
    | some next => iterate rounds once next
    | none => return state

/-- One round of a loop: the status after it, unless the loop is left. -/
def roundOf (body : Step Unit) : Step (Option Nat) :=
  tryCatch (do body; return some (← shell).status) fun interruption =>
    match interruption with
    | .leave loops => if loops ≤ 1 then return none else throw (.leave (loops - 1))
    | .again loops => do
      if loops ≤ 1 then return some (← shell).status else throw (.again (loops - 1))
    | interruption => throw interruption

/-- Runs something whose success is asked for. -/
def asked (body : Step Unit) : Step Unit := do
  let before := (← shell).tested
  onShell fun shell => { shell with tested := true }
  try body finally onShell fun shell => { shell with tested := before }

/-- Ends a strict shell after a failure that nobody asks for. -/
def insist : Step Unit := do
  let shell ← shell
  if shell.strict && !shell.tested && shell.status != 0 then throw (.exit shell.status)

/-- The value of a parameter. -/
def parameter? (name : String) : Step (Option (List UInt8)) := do
  let shell ← shell
  match name with
  | "?" => return some (ascii (toString shell.status))
  | "#" => return some (ascii (toString shell.arguments.length))
  | "$" => return some (ascii processNumber)
  | "!" => return some (if (← world).busyUntil == 0 then [] else ascii backgroundNumber)
  | "-" => return some (if shell.strict then ascii "e" else [])
  | "0" => return some shell.name
  | "@" | "*" =>
    return if shell.arguments.isEmpty then none
      else some ((shell.arguments.intersperse [32]).flatten)
  | name =>
    match name.toNat? with
    | some index => return shell.arguments[index - 1]?
    | none => valueOf? name

/-- The separators of fields. -/
def separators : Step (List UInt8) := return (← valueOf? "IFS").getD standardSeparators

/-- A value without the shortest or longest part at its start that a pattern describes. -/
def withoutStart (pattern : List Wildcard) (longest : Bool) (value : List UInt8) : List UInt8 :=
  let lengths := List.range (value.length + 1)
  let lengths := if longest then lengths.reverse else lengths
  match lengths.find? fun length => accepts pattern (value.take length) with
  | some length => value.drop length
  | none => value

/-- A value without the shortest or longest part at its end that a pattern describes. -/
def withoutEnd (pattern : List Wildcard) (longest : Bool) (value : List UInt8) : List UInt8 :=
  let lengths := List.range (value.length + 1)
  let lengths := if longest then lengths else lengths.reverse
  match lengths.find? fun length => accepts pattern (value.drop length) with
  | some length => value.take length
  | none => value

/-- The pattern that a word expands to. -/
def patternOf (bits : List Bit) : List Wildcard :=
  let marked := Bit.marked bits
  wildcardsOf (marked.length + 1) marked

/-- The arguments, each as a field. -/
def argumentBits (quoted : Bool) : Step (List Bit) := do
  return (((← shell).arguments.map fun argument => Bit.ofValue quoted argument).intersperse
    [.border]).flatten

/-- Collects what a body prints, as bytes. -/
def collect (body : Step Unit) : Step (List UInt8) := do
  let index := (← world).collections.size
  onWorld fun world => { world with collections := world.collections.push [] }
  inSubshell do
    connect 1 (some (.collection index))
    body
  return (((← world).collections.getD index []).reverse.map Burst.bytes).flatten

/-- Runs the body of a function, with its own arguments and variables. -/
def withArguments (arguments : List (List UInt8)) (body : Step Unit) : Step Unit := do
  let before ← shell
  onShell fun shell => { shell with arguments, hidden := [] }
  try body
  finally
    (← shell).hidden.forM fun (name, value) =>
      onShell fun shell =>
        let others := shell.bindings.filter fun (other, _) => other != name
        { shell with bindings := match value with
            | some value => (name, value) :: others
            | none => others }
    onShell fun shell => { shell with arguments := before.arguments, hidden := before.hidden }

/-- Runs a body with descriptors that it may change. -/
def withDescriptors (body : Step Unit) : Step Unit := do
  let before := (← shell).descriptors
  try body
  finally onShell fun shell => { shell with descriptors := before }

/-- A number that an argument of a command denotes. -/
def numberArgument (name : String) (text : List UInt8) : Step Nat := do
  match natural? text with
  | some number => return number
  | none =>
    complain (name ++ ": Illegal number: " ++ shown text)
    throw (.exit 2)

/-- The signals and processes that `kill` is given. -/
def killArguments : List (List UInt8) → List UInt8 × List (List UInt8)
  | [45, 115] :: signal :: processes => (signal, processes)
  | (45 :: byte :: signal) :: processes => (byte :: signal, processes)
  | processes => (ascii "TERM", processes)

/-- The commands that belong to the shell, whose failure with redirections ends it. -/
def isSpecial (name : String) : Bool :=
  [":", ".", "eval", "exec", "exit", "export", "readonly", "return", "set", "shift", "trap", "unset",
   "break", "continue", "times"].contains name

/-- The directories in which programs are found. -/
def programDirectories : List String := ["/bin/", "/usr/bin/", "/usr/local/bin/"]

/-- The name of the program that is meant by a command: its place is dropped if programs are found
there. -/
def programName (name : String) : String :=
  match programDirectories.find? fun directory => directory.isPrefixOf name with
  | some directory => String.ofList (name.toList.drop directory.length)
  | none => name

/-- Reports a command that there is none of. -/
def reportMissing (name : String) : Step Unit := do
  if name.contains '/' && ((← file? name).isSome || (← isDirectory name)) then
    complain (name ++ ": Permission denied")
    setStatus 126
  else
    complain (name ++ ": not found")
    setStatus 127

mutual

/-- What a word expands to. -/
def expand (fuel : Nat) (word : Word) : Step (List Bit) :=
  match fuel with
  | 0 => throw .endless
  | fuel + 1 => do
    let bits ← word.mapM fun part => expandPart fuel part
    return bits.flatten

/-- What a part of a word expands to. -/
def expandPart (fuel : Nat) (part : Part) : Step (List Bit) :=
  match fuel with
  | 0 => throw .endless
  | fuel + 1 => do
    match part with
    | .text characters quoted =>
      if characters.isEmpty then return if quoted then [.present] else []
      return Bit.ofText quoted false (Text.Utf8.bytes (String.ofList characters))
    | .command script quoted =>
      let output ← collect (runText fuel script)
      onShell fun shell => { shell with substituted := true }
      let trimmed := (output.reverse.dropWhile (· == 10)).reverse.filter (· != 0)
      return Bit.ofValue quoted trimmed
    | .arithmetic expression quoted =>
      let text := shown (Bit.text (← expand fuel expression))
      let bindings := (← shell).bindings
      let lookup (name : String) : Int64 :=
        match bindings.find? fun (other, _) => other == name with
        | some (_, value) => Int64.ofInt (integerOf value).1
        | none => 0
      match evaluate lookup text.toList with
      | .ok (value, target) =>
        let digits := ascii (toString value)
        target.forM fun name => assign name digits
        return Bit.ofValue quoted digits
      | .error error =>
        complain ("arithmetic expression: " ++ error.message ++ ": \"" ++ text ++ "\"")
        throw (.exit 2)
    | .parameter name use word quoted =>
      let value ← parameter? name
      let given (colon : Bool) : Bool :=
        match value with
        | some value => !(colon && value.isEmpty)
        | none => false
      let plain : Step (List Bit) := do
        if name == "@" || name == "*" && !quoted then argumentBits quoted
        else if name == "*" then
          let mark := ((← separators).take 1)
          return Bit.ofValue true ((((← shell).arguments).intersperse mark).flatten)
        else return Bit.ofValue quoted (value.getD [])
      let other : Step (List Bit) := do
        let bits ← expand fuel word
        return if quoted then Bit.ofValue true (Bit.text bits) else Bit.splitting bits
      match use with
      | .value =>
        if value.isNone && (← shell).pedantic && name != "@" && name != "*" then
          complain (name ++ ": parameter not set")
          throw (.exit 2)
        plain
      | .length => return Bit.ofValue quoted (ascii (toString (value.getD []).length))
      | .orElse colon => if given colon then plain else other
      | .orAssign colon =>
        if given colon then plain
        else
          let bits ← expand fuel word
          assign name (Bit.text bits)
          return Bit.ofValue quoted (Bit.text bits)
      | .orFail colon =>
        if given colon then plain
        else
          let text := shown (Bit.text (← expand fuel word))
          let text := if !text.isEmpty then text
            else if colon then "parameter not set or null" else "parameter not set"
          complain (name ++ ": " ++ text)
          throw (.exit 2)
      | .instead colon => if given colon then other else return if quoted then [.present] else []
      | .dropStart longest =>
        let pattern := patternOf (← expand fuel word)
        return Bit.ofValue quoted (withoutStart pattern longest (value.getD []))
      | .dropEnd longest =>
        let pattern := patternOf (← expand fuel word)
        return Bit.ofValue quoted (withoutEnd pattern longest (value.getD []))

/-- Carries out redirections, as long as they are possible. -/
def redirectAll (fuel : Nat) (redirections : List Redirection) : Step Bool :=
  match fuel with
  | 0 => throw .endless
  | fuel + 1 => do
    match redirections with
    | [] => return true
    | .document descriptor content :: rest =>
      let text := Bit.text (← expand fuel content)
      connect descriptor (some (← openText text))
      redirectAll fuel rest
    | .arrow descriptor arrow target :: rest =>
      let operand := Bit.text (← expand fuel target)
      if ← redirect descriptor arrow operand then redirectAll fuel rest else return false

/-- Runs the lines of a script. A mistake ends the shell once the lines in front of it have run. -/
def runText (fuel : Nat) (script : List Char) : Step Unit :=
  match fuel with
  | 0 => throw .endless
  | fuel + 1 => do
    let (commands, mistake) := commandsOf script
    commands.forM fun command => run fuel command
    match mistake with
    | some mistake =>
      onShell fun shell => { shell with line := mistake.line }
      complain mistake.message
      throw (.exit 2)
    | none => return ()

/-- Runs a program, and tells whether there is one of that name. -/
def runProgram (fuel : Nat) (name : String) (arguments : List (List UInt8)) : Step Bool :=
  match fuel with
  | 0 => throw .endless
  | fuel + 1 => do
    let program := programName name
    match program with
    | "sh" | "dash" =>
      inSubshell do
        onShell fun shell =>
          { shell with
            functions := []
            bindings := shell.bindings.filter fun (name, _) => shell.exported.contains name }
        runShell fuel arguments
      return true
    | "env" =>
      let assignments := arguments.takeWhile fun argument => argument.contains 61
      match arguments.drop assignments.length with
      | [] =>
        let shell ← shell
        let bindings := shell.bindings.filter fun (name, _) => shell.exported.contains name
        say program (bindings.flatMap fun (name, value) =>
          Text.Utf8.bytes name ++ [61] ++ value ++ [10])
        return true
      | command :: arguments =>
        inSubshell do
          assignments.forM fun assignment => do
            let name := assignment.takeWhile (· != 61)
            assign (shown name) (assignment.drop (name.length + 1))
            onShell fun shell => { shell with exported := shown name :: shell.exported }
          if !(← runProgram fuel (shown command) arguments) then
            mutter ("env: '" ++ shown command ++ "': No such file or directory")
            setStatus 127
        return true
    | "echo" =>
      say program (echoedPlainly arguments)
      return true
    | "printf" | "true" | "false" | "test" | "[" | "kill" => runBuiltin fuel program arguments
    | program => utility program arguments

/-- Runs a shell with its own arguments: a script that is given, that is in a file, or that is read
from the standard input. -/
def runShell (fuel : Nat) (arguments : List (List UInt8)) : Step Unit :=
  match fuel with
  | 0 => throw .endless
  | fuel + 1 => do
    match arguments with
    | (45 :: letters) :: rest =>
      if letters == ascii "-" then runShell fuel rest
      else
        if letters.contains (code 'e') then onShell fun shell => { shell with strict := true }
        if letters.contains (code 'u') then onShell fun shell => { shell with pedantic := true }
        if letters.contains (code 'c') then
          match rest with
          | [] =>
            let _ ← print 2 (Text.Utf8.bytes "sh: 0: -c requires an argument\n")
            throw (.exit 2)
          | script :: names =>
            onShell fun shell =>
              { shell with name := names.headD (ascii "sh"), arguments := names.tail, line := 1 }
            runText fuel (shown script).toList
        else runShell fuel rest
    | file :: rest =>
      match ← file? (shown file) with
      | some content =>
        onShell fun shell => { shell with name := file, arguments := rest, line := 1 }
        runText fuel (shown content).toList
      | none =>
        let reason := if ← isDirectory (shown file) then "Is a directory"
          else "No such file"
        let _ ← print 2
          (Text.Utf8.bytes ("sh: 0: cannot open " ++ shown file ++ ": " ++ reason ++ "\n"))
        throw (.exit 2)
    | [] =>
      onShell fun shell => { shell with name := ascii "sh", line := 1 }
      match ← readAll 0 with
      | some script => runText fuel (shown script).toList
      | none => throw (.exit 2)

/-- Runs a command that belongs to the shell, and tells whether there is one of that name. -/
def runBuiltin (fuel : Nat) (name : String) (arguments : List (List UInt8)) : Step Bool :=
  match fuel with
  | 0 => throw .endless
  | fuel + 1 => do
    match name with
    | ":" | "true" => setStatus 0
    | "false" => setStatus 1
    | "echo" => say name (echoed arguments)
    | "printf" =>
      match if arguments.head? == some (ascii "--") then arguments.tail else arguments with
      | [] =>
        complain "printf: usage: printf format [arg ...]"
        setStatus 2
      | format :: arguments =>
        let (output, complaints, status) := printf format arguments
        say name output
        complaints.forM fun complaint => complain ("printf: " ++ complaint)
        if status != 0 then setStatus status
    | "test" | "[" => testCommand name arguments
    | "read" =>
      let raw := arguments.any (· == ascii "-r")
      let names := arguments.filter fun argument => argument.head? != some 45
      if names.isEmpty then
        complain "read: arg count"
        setStatus 2
      else readInto raw (names.map shown)
    | "exit" =>
      match arguments with
      | [] => throw (.exit (← shell).status)
      | number :: _ => throw (.exit ((← numberArgument name number) % 256))
    | "return" =>
      match arguments with
      | [] => throw .back
      | number :: _ =>
        setStatus ((← numberArgument name number) % 256)
        throw .back
    | "break" | "continue" =>
      let loops ← match arguments with
        | [] => pure 1
        | number :: _ => numberArgument name number
      setStatus 0
      throw (if name == "break" then .leave loops else .again loops)
    | "shift" =>
      let count ← match arguments with
        | [] => pure 1
        | number :: _ => numberArgument name number
      if count > (← shell).arguments.length then
        complain "shift: can't shift that many"
        throw (.exit 2)
      onShell fun shell => { shell with arguments := shell.arguments.drop count, status := 0 }
    | "set" =>
      match ← setOptions arguments with
      | some arguments => onShell fun shell => { shell with arguments, status := 0 }
      | none => setStatus 0
    | "export" | "readonly" | "local" =>
      arguments.forM fun argument => do
        let target := argument.takeWhile (· != 61)
        if name == "local" then
          let value ← valueOf? (shown target)
          onShell fun shell => { shell with hidden := (shown target, value) :: shell.hidden }
        if target.length < argument.length then
          assign (shown target) (argument.drop (target.length + 1))
        if name == "export" then
          onShell fun shell => { shell with exported := shown target :: shell.exported }
      setStatus 0
    | "unset" =>
      let names := arguments.map shown
      onShell fun shell =>
        { shell with
          bindings := shell.bindings.filter fun (name, _) => !names.contains name
          functions := shell.functions.filter fun (name, _) => !names.contains name
          status := 0 }
    | "eval" =>
      setStatus 0
      runText fuel (shown ((arguments.intersperse [32]).flatten)).toList
    | "." =>
      match arguments with
      | [] => setStatus 0
      | file :: _ =>
        match ← file? (shown file) with
        | some content => runText fuel (shown content).toList
        | none =>
          complain (".: cannot open " ++ shown file ++ ": No such file")
          throw (.exit 2)
    | "trap" =>
      match arguments with
      | [] => setStatus 0
      | action :: names =>
        let signals := names.filterMap signalOf
        onShell fun shell =>
          let others := shell.traps.filter fun (signal, _) => !signals.contains signal
          { shell with
            status := 0
            traps := if action == ascii "-" then others
              else signals.map (fun signal => (signal, action)) ++ others }
    | "kill" =>
      let (signal, processes) := killArguments arguments
      match signalOf signal with
      | none =>
        complain "kill: Illegal option"
        setStatus 2
      | some signal =>
        processes.forM fun process => do
          if process == ascii processNumber || process == ascii "0" then
            setStatus 0
            match (← shell).traps.find? fun (other, _) => other == signal && other != "KILL" with
            | some (_, action) => if !action.isEmpty then runText fuel (shown action).toList
            | none =>
              match effectOf signal with
              | .nothing => return ()
              | .ends => throw .killed
              | .stops => throw .endless
          else if process == ascii backgroundNumber then
            onWorld fun world => { world with busyUntil := 0, busyForever := false }
            setStatus 0
          else
            complain "kill: No such process"
            setStatus 1
    | "wait" =>
      let world ← world
      if world.busyForever then throw .endless
      waitUntil world.busyUntil
      setStatus 0
    | "cd" | "umask" | "ulimit" | "times" | "hash" => setStatus 0
    | "command" =>
      match arguments with
      | [] => setStatus 0
      | option :: rest =>
        if option == ascii "-v" then
          let known := rest.map shown
          say name (Text.Utf8.bytes (String.join (known.map (· ++ "\n"))))
        else runNamed fuel (shown option) rest
    | "exec" =>
      match arguments with
      | [] => setStatus 0
      | program :: arguments =>
        if !(← runProgram fuel (shown program) arguments) then
          let path := shown program
          let blocked := (shown program).contains '/' &&
            ((← file? path).isSome || (← isDirectory path))
          complain ("exec: " ++ shown program ++
            (if blocked then ": Permission denied" else ": not found"))
          throw (.exit (if blocked then 126 else 127))
        throw (.exit (← shell).status)
    | _ => return false
    return true

/-- Runs a command by its name: of the shell, or else a program. -/
def runNamed (fuel : Nat) (name : String) (arguments : List (List UInt8)) : Step Unit :=
  match fuel with
  | 0 => throw .endless
  | fuel + 1 => do
    if !(← runBuiltin fuel name arguments) then
      if !(← runProgram fuel name arguments) then reportMissing name

/-- Runs the words of a simple command. -/
def runWords (fuel : Nat) (words : List (List UInt8)) : Step Unit :=
  match fuel with
  | 0 => throw .endless
  | fuel + 1 => do
    match words with
    | [] => return ()
    | word :: arguments =>
      let name := shown word
      match (← shell).functions.find? fun (other, _) => other == name with
      | some (_, body) =>
        withArguments arguments do
          tryCatch (run fuel body) fun interruption =>
            match interruption with
            | .back => return ()
            | interruption => throw interruption
      | none => runNamed fuel name arguments

/-- Runs a command. -/
def run (fuel : Nat) (command : Command) : Step Unit :=
  match fuel with
  | 0 => throw .endless
  | fuel + 1 => do
    match command with
    | .nothing => return ()
    | .sequence first second =>
      run fuel first
      run fuel second
    | .both first second =>
      asked (run fuel first)
      if (← shell).status == 0 then run fuel second
    | .either first second =>
      asked (run fuel first)
      if (← shell).status != 0 then run fuel second
    | .negated command =>
      asked (run fuel command)
      setStatus (if (← shell).status == 0 then 1 else 0)
    | .pipe first second =>
      let start := (← world).clock
      let index := (← world).collections.size
      onWorld fun world => { world with collections := world.collections.push [] }
      let ended ← tryCatch
        (do
          inSubshell do
            connect 1 (some (.collection index))
            run fuel first
          return some (← world).clock)
        fun interruption =>
          match interruption with
          | .endless => return none
          | interruption => throw interruption
      let bursts := ((← world).collections.getD index []).reverse
      let source := (← world).sources.size
      onWorld fun world =>
        { world with sources := world.sources.push ⟨bursts, ended⟩, clock := start }
      inSubshell do
        connect 0 (some (.source source))
        run fuel second
      match ended with
      | some time => waitUntil time
      | none => throw .endless
      insist
    | .background command =>
      let start := (← world).clock
      tryCatch
        (inSubshell do
          connect 0 (some .nowhere)
          run fuel command)
        fun interruption =>
          match interruption with
          | .endless => onWorld fun world => { world with busyForever := true }
          | interruption => throw interruption
      onWorld fun world =>
        { world with busyUntil := max world.busyUntil world.clock, clock := start }
      setStatus 0
    | .choice condition positive negative =>
      asked (run fuel condition)
      if (← shell).status == 0 then
        run fuel positive
      else
        setStatus 0
        run fuel negative
    | .loop untilDone condition body =>
      let status ← iterate roundLimit
        (fun _ => do
          asked (run fuel condition)
          if ((← shell).status == 0) == untilDone then return none
          roundOf (run fuel body))
        0
      setStatus status
    | .each name words body =>
      let values ← match words with
        | some words => do
          let separators ← separators
          let bits ← words.mapM fun word => expand fuel word
          pure (bits.flatMap (Fields.ofBits separators))
        | none => do pure (← shell).arguments
      let _ ← iterate (values.length + 1)
        (fun left =>
          match left with
          | [] => return none
          | value :: rest => do
            assign name value
            match ← roundOf (run fuel body) with
            | some _ => return some rest
            | none => return none)
        values
    | .select subject arms =>
      let text := Bit.text (← expand fuel subject)
      setStatus 0
      runArms fuel text arms
    | .definition name body =>
      onShell fun shell => { shell with functions := (name, body) :: shell.functions, status := 0 }
    | .subshell body =>
      inSubshell (run fuel body)
      insist
    | .redirected line body redirections =>
      onShell fun shell => { shell with line }
      withDescriptors do
        if ← redirectAll fuel redirections then run fuel body
        else setStatus 2
      insist
    | .simple line assignments words redirections =>
      onShell fun shell => { shell with line, substituted := false }
      let separators ← separators
      let bits ← words.mapM fun word => expand fuel word
      let fields := bits.flatMap (Fields.ofBits separators)
      let name := shown (fields.headD [])
      let values ← assignments.mapM fun (name, word) => do
        return (name, Bit.text (← expand fuel word))
      if fields.isEmpty then
        values.forM fun (name, value) => assign name value
        if !(← shell).substituted then setStatus 0
        withDescriptors do
          if !(← redirectAll fuel redirections) then setStatus 2
      else if name == "exec" then
        if ← redirectAll fuel redirections then
          noteClosed
          runWords fuel fields
        else throw (.exit 2)
      else
        let before := (← shell).bindings
        let exported := (← shell).exported
        values.forM fun (name, value) => do
          assign name value
          onShell fun shell => { shell with exported := name :: shell.exported }
        withDescriptors do
          if ← redirectAll fuel redirections then runWords fuel fields
          else if isSpecial name then throw (.exit 2)
          else setStatus 2
        if !values.isEmpty && !isSpecial name then
          let kept := ["read", "export", "unset"].contains name
          onShell fun shell =>
            { shell with bindings := if kept then shell.bindings else before, exported }
      insist

/-- Runs the first arm whose pattern a text fits. -/
def runArms (fuel : Nat) (text : List UInt8) (arms : List (List Word × Command)) : Step Unit :=
  match fuel with
  | 0 => throw .endless
  | fuel + 1 => do
    match arms with
    | [] => return ()
    | (patterns, body) :: rest =>
      let fits ← patterns.anyM fun pattern => do
        return accepts (patternOf (← expand fuel pattern)) text
      if fits then run fuel body else runArms fuel text rest

end

end Step

end Dialogs.Script
