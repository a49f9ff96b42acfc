import Dialogs.Script.Printf

/-!
# Utilities that a script may call

Programs that turn texts into a text: they count, choose, search, sort and replace. Each is a function
of its options and of the texts that it was given, so it can say nothing before those have ended.
-/

namespace Dialogs.Script

/-- The arguments of a utility. -/
structure Usage where
  flags : List Char := []
  values : List (Char × List UInt8) := []
  operands : List (List UInt8) := []
  deriving Repr

namespace Usage

/-- Whether a flag is set. -/
def has (usage : Usage) (flag : Char) : Bool := usage.flags.contains flag

/-- The last value of an option. -/
def value? (usage : Usage) (option : Char) : Option (List UInt8) :=
  (usage.values.reverse.find? fun (name, _) => name == option).map Prod.snd

/-- All values of an option. -/
def valuesOf (usage : Usage) (option : Char) : List (List UInt8) :=
  usage.values.filterMap fun (name, value) => if name == option then some value else none

/-- The letters of one argument with options: the flags, and the option that takes what follows as
its value. -/
def letters (takesValue : Char → Bool) :
    List UInt8 → List Char × Option (Char × List UInt8)
  | [] => ([], none)
  | byte :: rest =>
    let letter := Char.ofNat byte.toNat
    if takesValue letter then ([], some (letter, rest))
    else
      let (flags, value) := letters takesValue rest
      (letter :: flags, value)

/-- Reads the arguments of a utility. A number behind a dash is the value of `n`. -/
def read (takesValue : Char → Bool) (fuel : Nat) (usage : Usage) (arguments : List (List UInt8)) :
    Usage :=
  match fuel, arguments with
  | 0, _ | _, [] => usage
  | fuel + 1, argument :: rest =>
    match argument with
    | [45, 45] => { usage with operands := usage.operands ++ rest }
    | 45 :: byte :: more =>
      if isDigit byte then
        read takesValue fuel { usage with values := usage.values ++ [('n', byte :: more)] } rest
      else
        match letters takesValue (byte :: more) with
        | (flags, none) => read takesValue fuel { usage with flags := usage.flags ++ flags } rest
        | (flags, some (option, value)) =>
          let (value, rest) := if value.isEmpty then (rest.headD [], rest.tail) else (value, rest)
          read takesValue fuel
            { usage with flags := usage.flags ++ flags
                         values := usage.values ++ [(option, value)] } rest
    | argument =>
      read takesValue fuel { usage with operands := usage.operands ++ [argument] } rest

/-- The usage of a utility whose options with values have the given letters. -/
def of (withValues : List Char) (arguments : List (List UInt8)) : Usage :=
  read withValues.contains (arguments.length + 1) {} arguments

end Usage

/-- Cuts a text into its lines, each with its newline if it has one. The state is the lines read
and the line begun, both in reverse. -/
def linesOfBytes (text : List UInt8) : List (List UInt8) :=
  let (lines, begun) := text.foldl
    (fun (lines, begun) byte =>
      if byte == 10 then ((byte :: begun).reverse :: lines, [])
      else (lines, byte :: begun))
    (([] : List (List UInt8)), ([] : List UInt8))
  (if begun.isEmpty then lines else begun.reverse :: lines).reverse

/-- A line without its newline. -/
def withoutNewline (line : List UInt8) : List UInt8 :=
  if line.getLast? == some 10 then line.dropLast else line

/-- Whether a byte separates words. -/
def isBlankByte (byte : UInt8) : Bool := byte == 32 || (9 ≤ byte && byte ≤ 13)

/-- The number of words. -/
def countWords (text : List UInt8) : Nat :=
  (text.foldl
    (fun (count, within) byte =>
      if isBlankByte byte then (count, false) else (if within then count else count + 1, true))
    (0, false)).1

/-- A number, filled up with blanks. -/
def padded (width value : Nat) : List UInt8 :=
  let digits := digitsOf 10 false value
  List.replicate (width - digits.length) 32 ++ digits

/-- The counts of one text: lines, words, characters and bytes, as far as they are asked for. -/
def counts (usage : Usage) (text : List UInt8) : List Nat :=
  let standard := !(['l', 'w', 'c', 'm'].any usage.has)
  (if standard || usage.has 'l' then [text.count 10] else []) ++
  (if standard || usage.has 'w' then [countWords text] else []) ++
  (if usage.has 'm' then [(text.filter fun byte => byte &&& 0xC0 != 0x80).length] else []) ++
  (if standard || usage.has 'c' then [text.length] else [])

/-- What `wc` prints about texts with their names. -/
def wordCount (usage : Usage) (texts : List (Option (List UInt8) × List UInt8)) : List UInt8 :=
  let rows := texts.map fun (name, text) => (name, counts usage text)
  let total := rows.foldl
    (fun sums (_, row) => if sums.isEmpty then row else List.zipWith (· + ·) sums row) []
  let rows := if rows.length > 1 then rows ++ [(some (ascii "total"), total)] else rows
  let single := rows.length == 1 && rows.all fun (_, row) => row.length == 1
  let width := if single then 1
    else if texts.any fun (name, _) => name.isNone then 7
    else (digitsOf 10 false (texts.foldl (fun sum (_, text) => sum + text.length) 0)).length
  (rows.map fun (name, row) =>
    ((row.map (padded width)).intersperse [32]).flatten ++
      (match name with
        | some name => 32 :: name
        | none => []) ++ [10]).flatten

/-- The first lines or bytes of a text. -/
def headOf (usage : Usage) (text : List UInt8) : List UInt8 :=
  match usage.value? 'c' with
  | some amount => text.take (numeral 10 (amount.filter isDigit))
  | none =>
    let amount := ((usage.value? 'n').map fun amount => numeral 10 (amount.filter isDigit)).getD 10
    ((linesOfBytes text).take amount).flatten

/-- The last lines or bytes of a text, or those from a number on. -/
def tailOf (usage : Usage) (text : List UInt8) : List UInt8 :=
  let part {α : Type} (amount : List UInt8) (items : List α) : List α :=
    let number := numeral 10 (amount.filter isDigit)
    if amount.head? == some (code '+') then items.drop (number - 1)
    else items.drop (items.length - number)
  match usage.value? 'c' with
  | some amount => part amount text
  | none => (part ((usage.value? 'n').getD (ascii "10")) (linesOfBytes text)).flatten

/-- The lines in which a search finds something. -/
def searchLines (usage : Usage) (searches : List Search) (text : List UInt8) :
    List (List UInt8) :=
  let lower (byte : UInt8) : UInt8 :=
    if code 'A' ≤ byte && byte ≤ code 'Z' then byte + 32 else byte
  (linesOfBytes text).filter fun line =>
    let plain := withoutNewline line
    let plain := if usage.has 'i' then plain.map lower else plain
    (searches.any fun search => search.finds plain) != usage.has 'v'

/-- The patterns of a line search, from its options or else its first operand, and the operands that
are left. -/
def searchesOf (usage : Usage) : List Search × List (List UInt8) :=
  let lower (byte : UInt8) : UInt8 :=
    if code 'A' ≤ byte && byte ≤ code 'Z' then byte + 32 else byte
  let (patterns, operands) := match usage.valuesOf 'e' with
    | [] => (usage.operands.take 1, usage.operands.drop 1)
    | patterns => (patterns, usage.operands)
  let search (pattern : List UInt8) : Search :=
    let pattern := if usage.has 'i' then pattern.map lower else pattern
    let search := if usage.has 'F' then literalSearch pattern else searchOf (usage.has 'E') pattern
    if usage.has 'x' then { search with atStart := true, atEnd := true } else search
  (patterns.map search, operands)

/-- What `grep` prints of a text, and whether it has found something. -/
def grep (usage : Usage) (searches : List Search) (text : List UInt8) : List UInt8 × Bool :=
  let found := searchLines usage searches text
  let output := if usage.has 'q' then []
    else if usage.has 'c' then digitsOf 10 false found.length ++ [10]
    else (found.map fun line => withoutNewline line ++ [10]).flatten
  (output, !found.isEmpty)

/-- A set of bytes for replacement: single bytes, ranges, classes and escapes. -/
def byteSet (fuel : Nat) (text : List UInt8) : List UInt8 :=
  let run (first last : UInt8) : List UInt8 :=
    (List.range (last.toNat + 1 - first.toNat)).map fun offset =>
      UInt8.ofNat (first.toNat + offset)
  match fuel, text with
  | 0, _ | _, [] => []
  | fuel + 1, byte :: rest =>
    match byte, rest with
    | 91, 58 :: more =>
      match classAt more with
      | some (ranges, rest) => ranges.flatMap (fun (first, last) => run first last) ++ byteSet fuel rest
      | none => byte :: byteSet fuel rest
    | 92, _ :: _ =>
      let (meant, behind) := escapeAt rest
      meant :: byteSet fuel behind
    | _, 45 :: last :: more => run byte last ++ byteSet fuel more
    | _, _ => byte :: byteSet fuel rest

/-- Keeps one byte of each run of a byte that is in a set. -/
def squeeze (set : List UInt8) (text : List UInt8) : List UInt8 :=
  (text.foldl
    (fun kept byte => if kept.head? == some byte && set.contains byte then kept else byte :: kept)
    []).reverse

/-- What `tr` makes of a text. -/
def replaceBytes (usage : Usage) (text : List UInt8) : List UInt8 :=
  let setOf (operand : List UInt8) : List UInt8 := byteSet (operand.length + 1) operand
  let first := setOf (usage.operands.headD [])
  let second := setOf (usage.operands.tail.headD [])
  let among (byte : UInt8) : Bool := first.contains byte != (usage.has 'c' || usage.has 'C')
  let changed :=
    if usage.has 'd' then text.filter fun byte => !among byte
    else if usage.operands.length < 2 then text
    else if usage.has 'c' || usage.has 'C' then
      text.map fun byte => if among byte then second.getLastD byte else byte
    else
      text.map fun byte =>
        match first.idxOf? byte with
        | some index => (second[index]?).getD (second.getLastD byte)
        | none => byte
  if usage.has 's' then squeeze (if usage.operands.length < 2 then first else second) changed
  else changed

/-- The lines of a text in order. -/
def sortedLines (usage : Usage) (text : List UInt8) : List UInt8 :=
  let lines := (linesOfBytes text).map withoutNewline
  let number (line : List UInt8) : Int := (integerOf (line.takeWhile fun byte => !isBlankByte byte)).1
  let before (first second : List UInt8) : Bool :=
    if usage.has 'n' && number first != number second then number first < number second
    else decide (first ≤ second)
  let ordered := lines.mergeSort before
  let ordered := if usage.has 'u' then
      ordered.foldr (fun line kept => if kept.head? == some line then kept else line :: kept) []
    else ordered
  let ordered := if usage.has 'r' then ordered.reverse else ordered
  (ordered.map (· ++ [10])).flatten

/-- The numbers from one to another in steps. -/
def sequence (fuel : Nat) (first step last : Int) : List Int :=
  match fuel with
  | 0 => []
  | fuel + 1 =>
    if (step > 0 && first > last) || (step < 0 && first < last) || step == 0 then []
    else first :: sequence fuel (first + step) step last

/-- What `seq` prints. -/
def sequenceText (operands : List (List UInt8)) : List UInt8 :=
  let integer (operand : List UInt8) : Int := (integerOf operand).1
  let numbers := match operands with
    | [last] => sequence 1000000 1 1 (integer last)
    | [first, last] => sequence 1000000 (integer first) 1 (integer last)
    | [first, step, last] => sequence 1000000 (integer first) (integer step) (integer last)
    | _ => []
  (numbers.map fun number => ascii (toString number) ++ [10]).flatten

end Dialogs.Script
