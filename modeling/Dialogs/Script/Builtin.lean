import Dialogs.Script.Field
import Dialogs.Script.State

/-!
# Commands that a shell carries out without running others

Each of these takes its arguments, changes the state of the script, and leaves a status. A script may
also send signals to itself: they have names, and do something to a script that has not arranged for
anything else.
-/

namespace Dialogs.Script

/-- What a signal does. -/
inductive Effect where
  | nothing
  | ends
  | stops
  deriving DecidableEq, Repr

/-- The numbers and names of signals. -/
def signals : List (Nat × String) :=
  [(0, "EXIT"), (1, "HUP"), (2, "INT"), (3, "QUIT"), (4, "ILL"), (5, "TRAP"), (6, "ABRT"), (7, "BUS"),
   (8, "FPE"), (9, "KILL"), (10, "USR1"), (11, "SEGV"), (12, "USR2"), (13, "PIPE"), (14, "ALRM"),
   (15, "TERM"), (17, "CHLD"), (18, "CONT"), (19, "STOP"), (20, "TSTP"), (21, "TTIN"), (22, "TTOU"),
   (23, "URG"), (24, "XCPU"), (25, "XFSZ"), (26, "VTALRM"), (27, "PROF"), (28, "WINCH"), (29, "IO"),
   (31, "SYS")]

/-- The name of the signal that a number or a name denotes. -/
def signalOf (text : List UInt8) : Option String :=
  let name := String.ofList (text.map fun byte => Char.ofNat byte.toNat)
  let named := signals.find? fun (number, other) =>
    other == name || "SIG" ++ other == name || toString number == name
  named.map Prod.snd

/-- What a signal does by itself. -/
def effectOf (signal : String) : Effect :=
  if ["EXIT", "CHLD", "CONT", "URG", "WINCH"].contains signal then .nothing
  else if ["STOP", "TSTP", "TTIN", "TTOU"].contains signal then .stops
  else .ends

namespace Step

/-- The number that decimal digits denote. -/
def natural? (text : List UInt8) : Option Nat :=
  if text.isEmpty || !text.all isDigit then none else some (numeral 10 text)

/-- The text of bytes, for names and complaints. -/
def shown (bytes : List UInt8) : String := Text.Utf8.lenient bytes

/-- Prints to the standard output, as a command does. -/
def say (name : String) (bytes : List UInt8) : Step Unit := do
  if ← print 1 bytes then setStatus 0
  else
    complain (name ++ ": " ++ name ++ ": I/O error")
    setStatus 1

/-- The directory of a name. -/
def parentOf (name : String) : String :=
  let reversed := (name.toList.reverse.dropWhile (· != '/')).drop 1
  String.ofList reversed.reverse

/-- Connects a descriptor to a file or another descriptor, and tells whether that is possible. -/
def redirect (descriptor : Nat) (arrow : Arrow) (operand : List UInt8) : Step Bool := do
  let name := shown operand
  match arrow with
  | .inputFrom | .outputTo =>
    if operand == [45] then
      connect descriptor none
      return true
    match natural? operand with
    | none =>
      complain "Syntax error: Bad fd number"
      return false
    | some other =>
      match ← target? other with
      | some target =>
        connect descriptor (some target)
        return true
      | none =>
        complain (toString other ++ ": Bad file descriptor")
        return false
  | _ =>
    if name == "/dev/null" then
      connect descriptor (some .nowhere)
      return true
    let standard := [("/dev/stdin", 0), ("/dev/stdout", 1), ("/dev/stderr", 2)]
    match standard.find? fun (other, _) => other == name with
    | some (_, number) =>
      match ← target? number with
      | some target =>
        connect descriptor (some target)
        return true
      | none =>
        complain ("cannot open " ++ shown operand ++ ": No such device or address")
        return false
    | none =>
      match arrow with
      | .input =>
        match ← file? name with
        | some content =>
          connect descriptor (some (← openText content))
          return true
        | none =>
          if ← isDirectory name then
            connect descriptor (some .nowhere)
            return true
          complain ("cannot open " ++ shown operand ++ ": No such file")
          return false
      | _ =>
        let parent := parentOf name
        if ← isDirectory name then
          complain ("cannot create " ++ shown operand ++ ": Is a directory")
          return false
        else if !parent.isEmpty && !(← isDirectory parent) then
          complain ("cannot create " ++ shown operand ++ ": Directory nonexistent")
          return false
        else
          match ← site name with
          | .ok kept =>
            if arrow == .output || (← file? name).isNone then truncate kept
            connect descriptor (some (.file kept))
            return true
          | .error cause =>
            complain ("cannot create " ++ shown operand ++ ": " ++ cause.reason)
            return false

/-- Why words are no condition. -/
inductive ConditionFault where
  | unexpectedOperator (text : String)
  | illegalNumber (text : String)
  deriving DecidableEq, Repr

/-- The wording of a fault. -/
def ConditionFault.message : ConditionFault → String
  | .unexpectedOperator text => text ++ ": unexpected operator"
  | .illegalNumber text => "Illegal number: " ++ text

/-- Whether a condition on one operand holds. -/
def unaryTest (operator operand : List UInt8) : Step (Except ConditionFault Bool) := do
  let name := shown operand
  let special := name == "/dev/null"
  match shown operator with
  | "-n" => return .ok !operand.isEmpty
  | "-z" => return .ok operand.isEmpty
  | "-t" => return .ok false
  | "-f" => return .ok (← file? name).isSome
  | "-d" => return .ok (← isDirectory name)
  | "-e" | "-r" | "-w" => return .ok ((← file? name).isSome || (← isDirectory name) || special)
  | "-x" => return .ok (← isDirectory name)
  | "-s" => return .ok ((← file? name).any fun content => !content.isEmpty)
  | "-p" => return .ok (natural? operand == some 0)
  | "-h" | "-L" | "-b" | "-c" | "-S" | "-u" | "-g" | "-k" => return .ok false
  | text => return .error (.unexpectedOperator text)

/-- Whether a condition on two operands holds, if the operator stands between two. -/
def binaryTest (first operator second : List UInt8) : Option (Except ConditionFault Bool) :=
  let compare (holds : Int → Int → Bool) : Except ConditionFault Bool :=
    match integerOf first, integerOf second with
    | (first, none), (second, none) => .ok (holds first second)
    | (_, none), (_, some _) => .error (.illegalNumber (shown second))
    | _, _ => .error (.illegalNumber (shown first))
  match shown operator with
  | "=" => some (.ok (first == second))
  | "!=" => some (.ok (first != second))
  | "<" => some (.ok (decide (first < second)))
  | ">" => some (.ok (decide (second < first)))
  | "-eq" => some (compare (· == ·))
  | "-ne" => some (compare (· != ·))
  | "-lt" => some (compare fun first second => first < second)
  | "-le" => some (compare fun first second => first ≤ second)
  | "-gt" => some (compare fun first second => first > second)
  | "-ge" => some (compare fun first second => first ≥ second)
  | _ => none

/-- The words in front of an operator and those behind it, if it is among them. -/
def splitAt (operator : List UInt8) (words : List (List UInt8)) :
    Option (List (List UInt8) × List (List UInt8)) :=
  let before := words.takeWhile (· != operator)
  match words.drop before.length with
  | _ :: after => some (before, after)
  | [] => none

/-- Whether a condition holds. "Or" joins conditions, and "and" those within them. -/
def test (fuel : Nat) (words : List (List UInt8)) : Step (Except ConditionFault Bool) :=
  match fuel with
  | 0 => return .ok false
  | fuel + 1 => do
    let joined (words : List (List UInt8)) : Step (Except ConditionFault Bool) := do
      match splitAt (ascii "-o") words with
      | some (before, after) =>
        let first ← test fuel before
        let second ← test fuel after
        return do return (← first) || (← second)
      | none =>
        match splitAt (ascii "-a") words with
        | some (before, after) =>
          let first ← test fuel before
          let second ← test fuel after
          return do return (← first) && (← second)
        | none => return .error (.unexpectedOperator (shown (words.headD [])))
    match words with
    | [] => return .ok false
    | [word] => return .ok !word.isEmpty
    | [first, second] =>
      if first == ascii "!" then return .ok second.isEmpty else unaryTest first second
    | [first, second, third] =>
      match binaryTest first second third with
      | some verdict => return verdict
      | none =>
        if first == ascii "!" then return (← test fuel [second, third]).map not
        else if first == ascii "(" && third == ascii ")" then test fuel [second]
        else joined words
    | first :: second :: third :: fourth :: rest =>
      let words := first :: second :: third :: fourth :: rest
      if first == ascii "!" && rest.isEmpty then
        return (← test fuel [second, third, fourth]).map not
      else joined words

/-- Carries out a condition as a command. -/
def testCommand (name : String) (words : List (List UInt8)) : Step Unit := do
  let condition := if name == "[" then
      if words.getLast? == some (ascii "]") then some words.dropLast else none
    else some words
  match condition with
  | none =>
    complain "[: missing ]"
    setStatus 2
  | some words =>
    match ← test (words.length + 2) words with
    | .ok holds => setStatus (if holds then 0 else 1)
    | .error fault =>
      complain (name ++ ": " ++ fault.message)
      setStatus 2

/-- The number by which the process of the script is known to it. -/
def processNumber : String := "4242"

/-- The number of the last background process. -/
def backgroundNumber : String := "4243"

/-- Reads a line into variables. -/
def readInto (raw : Bool) (names : List String) : Step Unit := do
  let rec gather (fuel : Nat) (read : List (UInt8 × Bool)) :
      Step (Option (List (UInt8 × Bool) × Bool)) :=
    match fuel with
    | 0 => return some (read, false)
    | fuel + 1 => do
      match ← readLine 0 with
      | none => return none
      | some (line, complete) =>
        let line := line.filter (· != 0)
        if raw then return some (read ++ line.map fun byte => (byte, false), complete)
        else
          let (bytes, joined) := unslash [] line
          if joined && complete then gather fuel (read ++ bytes)
          else return some (read ++ bytes, complete)
  match ← gather 100000 [] with
  | none =>
    names.forM fun name => assign name []
    setStatus 1
  | some (line, complete) =>
    let separators := (← valueOf? "IFS").getD standardSeparators
    let values := shareOut separators names.length line
    (names.zip values).forM fun (name, value) => assign name value
    setStatus (if complete then 0 else 1)

/-- The nanoseconds that a duration denotes, if it is one. -/
def durationOf (text : List UInt8) : Option (Option Nat) :=
  if text == ascii "infinity" || text == ascii "inf" then some none
  else
    let whole := text.takeWhile isDigit
    let rest := text.drop whole.length
    let (places, rest) := match rest with
      | 46 :: rest =>
        let places := rest.takeWhile isDigit
        (places, rest.drop places.length)
      | rest => ([], rest)
    let factor := match rest with
      | [] | [115] => some 1
      | [109] => some 60
      | [104] => some 3600
      | [100] => some 86400
      | _ => none
    if whole.isEmpty && places.isEmpty then none
    else
      factor.map fun factor =>
        let exact := numeral 10 (whole ++ places) * factor * 1000000000
        some (exact / Nat.pow 10 places.length)

/-- Lets time pass. -/
def sleep (durations : List (List UInt8)) : Step Unit := do
  if durations.isEmpty then
    mutter "sleep: missing operand"
    setStatus 1
  else
    match durations.find? fun text => (durationOf text).isNone with
    | some text =>
      mutter ("sleep: invalid time interval '" ++ shown text ++ "'")
      mutter "Try 'sleep --help' for more information."
      setStatus 1
    | none =>
      durations.forM fun text => do
        match durationOf text with
        | some (some nanoseconds) => waitUntil ((← world).clock + nanoseconds)
        | _ => throw .endless
      setStatus 0

/-- Sets and clears the options of a shell, and returns what is left of the arguments. -/
def setOptions (arguments : List (List UInt8)) : Step (Option (List (List UInt8))) :=
  match arguments with
  | [] => return none
  | argument :: rest => do
    match argument with
    | [45, 45] => return some rest
    | sign :: letters =>
      if (sign == code '-' || sign == code '+') && !letters.isEmpty then
        let value := sign == code '-'
        letters.forM fun letter =>
          onShell fun shell =>
            if letter == code 'e' then { shell with strict := value }
            else if letter == code 'u' then { shell with pedantic := value }
            else shell
        if letters == [code 'o'] then setOptions (rest.drop 1) else setOptions rest
      else return some arguments
    | [] => return some arguments
termination_by arguments.length
decreasing_by all_goals simp +arith

/-- Prints what utilities that read to the end make of their input. -/
def whole (name : String) (make : List UInt8 → List UInt8) : Step Unit := do
  match ← readAll 0 with
  | some input => say name (make input)
  | none =>
    mutter (name ++ ": -: Bad file descriptor")
    setStatus 1

/-- The texts of files, or of the standard input if none are named, with their names. Files that are
missing are complained about. -/
def texts (name : String) (operands : List (List UInt8)) :
    Step (List (Option (List UInt8) × List UInt8) × Bool) := do
  let operands := if operands.isEmpty then [none] else operands.map some
  operands.foldlM
    (fun (found, complete) operand => do
      match operand with
      | none | some [45] =>
        match ← readAll 0 with
        | some input => return (found ++ [(operand, input)], complete)
        | none =>
          mutter (name ++ ": -: Bad file descriptor")
          return (found, false)
      | some file =>
        let path := shown file
        if path == "/dev/null" then return (found ++ [(operand, [])], complete)
        match ← file? path with
        | some content => return (found ++ [(operand, content)], complete)
        | none =>
          let cause := match ← place path with
            | .ok _ => SystemError.isADirectory
            | .error cause => cause
          mutter (name ++ ": " ++ shown file ++ ": " ++ cause.reason)
          return (found, false))
    ([], true)

/-- Runs a utility that turns texts into a text. -/
def throughTexts (name : String) (operands : List (List UInt8))
    (make : List (Option (List UInt8) × List UInt8) → List UInt8) : Step Unit := do
  let (found, complete) ← texts name operands
  say name (make found)
  if !complete then setStatus 1

/-- Copies files, or the standard input as it arrives. -/
def copy (operands : List (List UInt8)) : Step Unit := do
  let operands := if operands.isEmpty then [[45]] else operands
  let complete ← operands.foldlM
    (fun complete operand => do
      if operand == [45] then
        if ← drain 0 fun bytes => do let _ ← print 1 bytes then return complete
        else
          mutter "cat: -: Bad file descriptor"
          mutter "cat: closing standard input: Bad file descriptor"
          return false
      else
        let (found, present) ← texts "cat" [operand]
        found.forM fun (_, content) => do let _ ← print 1 content
        return complete && present)
    true
  setStatus (if complete then 0 else 1)

/-- Copies the standard input to the standard output and to files. -/
def tee (usage : Usage) : Step Unit := do
  let (chosen, complete) ← usage.operands.foldlM
    (fun (chosen, complete) operand => do
      match ← site (shown operand) with
      | .ok kept => return (kept :: chosen, complete)
      | .error cause =>
        mutter ("tee: " ++ shown operand ++ ": " ++ cause.reason)
        return (chosen, false))
    (([] : List String), true)
  chosen.forM fun kept => do
    if !usage.has 'a' || (← file? kept).isNone then truncate kept
  let _ ← drain 0 fun bytes => do
    let _ ← print 1 bytes
    onWorld fun world =>
      { world with files := world.files.map fun (name, content) =>
          (name, if chosen.contains name then content ++ bytes else content) }
  setStatus (if complete then 0 else 1)

/-- The first lines of the standard input, without waiting for more of it than that. What arrives
together with them is read too, and lost. -/
def firstLines (count : Nat) : Step Unit :=
  match count with
  | 0 => do
    match ← target? 0 with
    | some (.source index) =>
      let bursts := ((← world).sources[index]?.map Source.bursts).getD []
      let clock := (← world).clock
      leaveSource index (bursts.dropWhile fun burst => burst.time ≤ clock)
    | _ => return ()
    setStatus 0
  | count + 1 => do
    match ← readLine 0 with
    | none =>
      mutter "head: -: Bad file descriptor"
      setStatus 1
    | some (line, complete) =>
      say "head" (if complete then line ++ [10] else line)
      if complete then firstLines count

/-- Removes files. -/
def remove (usage : Usage) : Step Unit := do
  setStatus 0
  usage.operands.forM fun operand => do
    let refuse (cause : SystemError) : Step Unit := do
      mutter ("rm: cannot remove '" ++ shown operand ++ "': " ++ cause.reason)
      setStatus 1
    match ← place (shown operand) with
    | .ok (.file names) =>
      let kept := Path.ofWay names
      onWorld fun world =>
        { world with files := world.files.filter fun (other, _) => other != kept }
    | .ok (.directory _) => refuse .isADirectory
    | .error cause => if usage.has 'f' && cause = .notFound then return () else refuse cause

/-- Makes directories, with those on the way to them if that is wanted. -/
def makeDirectories (usage : Usage) : Step Unit := do
  setStatus 0
  usage.operands.forM fun operand => do
    let path := shown operand
    let terrain := (← world).terrain
    let present := (Path.resolve terrain path).isOk
    let parent := parentOf path
    let missing := if present && !usage.has 'p' then .error .alreadyExists
      else Path.missing terrain path
    let rootless := !usage.has 'p' && !parent.isEmpty && !(← isDirectory parent)
    match missing with
    | .error cause =>
      mutter ("mkdir: cannot create directory '" ++ path ++ "': " ++ cause.reason)
      setStatus 1
    | .ok missing =>
      if rootless then
        mutter ("mkdir: cannot create directory '" ++ path ++ "': " ++
          SystemError.notFound.reason)
        setStatus 1
      else
        onWorld fun world =>
          { world with directories := missing.map Path.ofWay ++ world.directories }

/-- Creates files that are not there. -/
def touch (operands : List (List UInt8)) : Step Unit := do
  setStatus 0
  operands.forM fun operand => do
    match ← place (shown operand), ← site (shown operand) with
    | .ok _, _ => return ()
    | .error _, .ok kept => truncate kept
    | .error _, .error cause =>
      mutter ("touch: cannot touch '" ++ shown operand ++ "': " ++ cause.reason)
      setStatus 1

/-- The first lines or bytes of texts. -/
def head (usage : Usage) : Step Unit := do
  if usage.operands.isEmpty && (usage.value? 'c').isNone then
    let count := ((usage.value? 'n').map fun amount => numeral 10 (amount.filter isDigit)).getD 10
    firstLines count
  else throughTexts "head" usage.operands fun texts => texts.flatMap fun (_, text) => headOf usage text

/-- Searches lines. -/
def searchCommand (usage : Usage) : Step Unit := do
  let (searches, operands) := searchesOf usage
  let (found, complete) ← texts "grep" operands
  let results := found.map fun (name, text) => (name, grep usage searches text)
  let several := found.length > 1 && !usage.has 'h'
  results.forM fun (name, output, _) => do
    let output := if several then
        (linesOfBytes output).flatMap fun line => (name.getD []) ++ [58] ++ line
      else output
    let _ ← print 1 output
  setStatus (if !complete then 2 else if results.any fun (_, _, any) => any then 0 else 1)

/-- Carries out a utility, and tells whether there is one of that name. -/
def utility (name : String) (arguments : List (List UInt8)) : Step Bool := do
  match name with
  | "cat" => copy ((Usage.of [] arguments).operands)
  | "wc" =>
    let usage := Usage.of [] arguments
    throughTexts name usage.operands (wordCount usage)
  | "head" => head (Usage.of ['n', 'c'] arguments)
  | "tail" =>
    let usage := Usage.of ['n', 'c'] arguments
    let (operands, plus) := usage.operands.partition fun operand => operand.head? != some (code '+')
    let usage := { usage with values := usage.values ++ plus.map fun amount => ('n', amount) }
    throughTexts name operands fun texts => texts.flatMap fun (_, text) => tailOf usage text
  | "grep" => searchCommand (Usage.of ['e'] arguments)
  | "fgrep" => searchCommand (Usage.of ['e'] (ascii "-F" :: arguments))
  | "egrep" => searchCommand (Usage.of ['e'] (ascii "-E" :: arguments))
  | "tr" => whole name (replaceBytes (Usage.of [] arguments))
  | "sort" =>
    let usage := Usage.of ['k', 't'] arguments
    throughTexts name usage.operands fun texts =>
      sortedLines usage (texts.flatMap fun (_, text) => text)
  | "seq" => say name (sequenceText (Usage.of [] arguments).operands)
  | "tee" => tee (Usage.of [] arguments)
  | "sleep" => sleep arguments
  | "rm" => remove (Usage.of [] arguments)
  | "mkdir" => makeDirectories (Usage.of ['m'] arguments)
  | "touch" => touch (Usage.of [] arguments).operands
  | "rev" =>
    throughTexts name arguments fun texts =>
      (texts.flatMap fun (_, text) => linesOfBytes text).flatMap fun line =>
        (withoutNewline line).reverse ++ [10]
  | _ => return false
  return true

end Step

end Dialogs.Script
