import Dialogs.Script.Pattern

/-!
# Formatted output of a script

The escapes that a script may use in what it prints, and the directives of a format. A format is used
again as long as there are arguments that it has not used.
-/

namespace Dialogs.Script

/-- Whether a byte is an octal digit. -/
def isOctal (byte : UInt8) : Bool := code '0' ≤ byte && byte ≤ code '7'

/-- Whether a byte is a decimal digit. -/
def isDigit (byte : UInt8) : Bool := code '0' ≤ byte && byte ≤ code '9'

/-- The number that digits of a base denote. -/
def numeral (base : Nat) (digits : List UInt8) : Nat :=
  digits.foldl
    (fun value byte =>
      let digit := if isDigit byte then byte.toNat - 48
        else if byte ≥ code 'a' then byte.toNat - 87 else byte.toNat - 55
      value * base + digit)
    0

/-- The byte that a letter behind a backslash stands for. -/
def escapeLetter (byte : UInt8) : Option UInt8 :=
  if byte == code 'a' then some 7
  else if byte == code 'b' then some 8
  else if byte == code 'e' then some 27
  else if byte == code 'f' then some 12
  else if byte == code 'n' then some 10
  else if byte == code 'r' then some 13
  else if byte == code 't' then some 9
  else if byte == code 'v' then some 11
  else if byte == code '\\' then some 92
  else none

/-- The escape behind a backslash: a letter or up to three octal digits. Before anything else the
backslash stands for itself. -/
def escapeAt (text : List UInt8) : UInt8 × List UInt8 :=
  match text with
  | [] => (92, [])
  | byte :: rest =>
    if isOctal byte then
      let digits := (text.take 3).takeWhile isOctal
      (UInt8.ofNat (numeral 8 digits), text.drop digits.length)
    else
      match escapeLetter byte with
      | some meant => (meant, rest)
      | none => (92, text)

/-- A text whose escapes are replaced, and whether it goes on to the end; an escaped `c` cuts it
short. An octal escape may have one more zero in front. -/
def unescape (fuel : Nat) (read : List UInt8) (text : List UInt8) : List UInt8 × Bool :=
  match fuel, text with
  | 0, _ | _, [] => (read.reverse, true)
  | fuel + 1, byte :: rest =>
    if byte == 92 then
      match rest with
      | 99 :: _ => (read.reverse, false)
      | 48 :: digit :: more =>
        let (meant, rest) := escapeAt (if isOctal digit then digit :: more else rest)
        unescape fuel (meant :: read) rest
      | _ =>
        let (meant, rest) := escapeAt rest
        unescape fuel (meant :: read) rest
    else unescape fuel (byte :: read) rest

/-- What `echo` prints. -/
def echoed (arguments : List (List UInt8)) : List UInt8 :=
  let (arguments, newline) := match arguments with
    | [45, 110] :: rest => (rest, false)
    | arguments => (arguments, true)
  let text := (arguments.intersperse [32]).flatten
  let (text, whole) := unescape (text.length + 1) [] text
  if newline && whole then text ++ [10] else text

/-- What `echo` prints when escapes are left alone. -/
def echoedPlainly (arguments : List (List UInt8)) : List UInt8 :=
  match arguments with
  | [45, 110] :: rest => (rest.intersperse [32]).flatten
  | arguments => (arguments.intersperse [32]).flatten ++ [10]

/-- How a directive lays its value out. -/
structure Layout where
  left : Bool := false
  plus : Bool := false
  space : Bool := false
  alternate : Bool := false
  zero : Bool := false
  width : Nat := 0
  precision : Option Nat := none

namespace Layout

/-- Fills a text up to the width. -/
def fill (layout : Layout) (text : List UInt8) : List UInt8 :=
  let missing := List.replicate (layout.width - text.length) 32
  if layout.left then text ++ missing else missing ++ text

/-- A text, cut to the precision. -/
def text (layout : Layout) (value : List UInt8) : List UInt8 :=
  layout.fill (match layout.precision with
    | some precision => value.take precision
    | none => value)

/-- A number from its sign and digits. -/
def number (layout : Layout) (sign digits : List UInt8) : List UInt8 :=
  let digits := match layout.precision with
    | some precision => List.replicate (precision - digits.length) 48 ++ digits
    | none => digits
  if layout.zero && !layout.left && layout.precision.isNone then
    sign ++ List.replicate (layout.width - sign.length - digits.length) 48 ++ digits
  else layout.fill (sign ++ digits)

end Layout

/-- The digits of a number in a base. -/
def digitsOf (base : Nat) (upper : Bool) (value : Nat) : List UInt8 :=
  (Nat.toDigits base value).map fun c => code (if upper then c.toUpper else c)

/-- What formatting has come to. -/
structure Formatted where
  output : List UInt8 := []
  complaints : List String := []
  /-- The arguments that have not been used. -/
  arguments : List (List UInt8) := []
  /-- Whether formatting has been cut short. -/
  stopped : Bool := false

/-- A text of ASCII bytes. -/
def asciiText (bytes : List UInt8) : String := String.ofList (bytes.map fun byte => Char.ofNat byte.toNat)

/-- The integer that an argument denotes, and the complaint about one that is none. -/
def integerOf (argument : List UInt8) : Int × Option String :=
  let text := argument.dropWhile fun byte => byte == 32 || (9 ≤ byte && byte ≤ 13)
  match text with
  | 39 :: byte :: _ | 34 :: byte :: _ => (byte.toNat, none)
  | _ =>
    let (negative, body) := match text with
      | 45 :: rest => (true, rest)
      | 43 :: rest => (false, rest)
      | _ => (false, text)
    let isHex (byte : UInt8) : Bool :=
      isDigit byte || (code 'a' ≤ byte && byte ≤ code 'f') || (code 'A' ≤ byte && byte ≤ code 'F')
    let (base, digits, rest) := match body with
      | 48 :: 120 :: rest | 48 :: 88 :: rest =>
        let digits := rest.takeWhile isHex
        (16, digits, rest.drop digits.length)
      | 48 :: rest =>
        let digits := rest.takeWhile isOctal
        (8, 48 :: digits, rest.drop digits.length)
      | _ =>
        let digits := body.takeWhile isDigit
        (10, digits, body.drop digits.length)
    let magnitude : Int := numeral base digits
    let value := if negative then -magnitude else magnitude
    if digits.isEmpty && !argument.isEmpty then
      (0, some (asciiText argument ++ ": expected numeric value"))
    else if !rest.isEmpty then (value, some (asciiText argument ++ ": not completely converted"))
    else (value, none)

namespace Formatted

/-- Adds to the output. -/
def print (formatted : Formatted) (bytes : List UInt8) : Formatted :=
  { formatted with output := formatted.output ++ bytes }

/-- The next argument, empty if there is none. -/
def nextArgument (formatted : Formatted) : List UInt8 × Formatted :=
  (formatted.arguments.headD [], { formatted with arguments := formatted.arguments.tail })

/-- The next argument as an integer. -/
def nextInteger (formatted : Formatted) : Int × Formatted :=
  let (argument, formatted) := formatted.nextArgument
  let (value, complaint) := integerOf argument
  (value, { formatted with complaints := formatted.complaints ++ complaint.toList })

/-- Carries out a directive, if there is one of that letter. -/
def directive (formatted : Formatted) (layout : Layout) (letter : UInt8) : Option Formatted :=
  if letter == code 's' then
    let (argument, formatted) := formatted.nextArgument
    some (formatted.print (layout.text argument))
  else if letter == code 'b' then
    let (argument, formatted) := formatted.nextArgument
    let (text, whole) := unescape (argument.length + 1) [] argument
    some { formatted.print (layout.text text) with stopped := !whole }
  else if letter == code 'c' then
    let (argument, formatted) := formatted.nextArgument
    some (formatted.print (layout.fill [argument.headD 0]))
  else if letter == code 'd' || letter == code 'i' then
    let (value, formatted) := formatted.nextInteger
    let sign := if value < 0 then ascii "-" else if layout.plus then ascii "+"
      else if layout.space then ascii " " else []
    some (formatted.print (layout.number sign (digitsOf 10 false value.natAbs)))
  else
    let unsigned (base : Nat) (upper : Bool) (mark : List UInt8) : Option Formatted :=
      let (value, formatted) := formatted.nextInteger
      let value := (value % (18446744073709551616 : Int)).toNat
      let mark := if layout.alternate && value != 0 then mark else []
      some (formatted.print (layout.number mark (digitsOf base upper value)))
    if letter == code 'u' then unsigned 10 false []
    else if letter == code 'o' then unsigned 8 false (ascii "0")
    else if letter == code 'x' then unsigned 16 false (ascii "0x")
    else if letter == code 'X' then unsigned 16 true (ascii "0X")
    else none

end Formatted

/-- The flags of a directive, and the format behind them. -/
def flagsOf (layout : Layout) : List UInt8 → Layout × List UInt8
  | byte :: rest =>
    if byte == code '-' then flagsOf { layout with left := true } rest
    else if byte == code '+' then flagsOf { layout with plus := true } rest
    else if byte == code ' ' then flagsOf { layout with space := true } rest
    else if byte == code '#' then flagsOf { layout with alternate := true } rest
    else if byte == code '0' then flagsOf { layout with zero := true } rest
    else (layout, byte :: rest)
  | [] => (layout, [])

/-- A width or precision: digits, or an asterisk for the next argument. -/
def amountOf (formatted : Formatted) (format : List UInt8) : Int × Formatted × List UInt8 :=
  match format with
  | 42 :: rest =>
    let (value, formatted) := formatted.nextInteger
    (value, formatted, rest)
  | _ =>
    let digits := format.takeWhile isDigit
    (numeral 10 digits, formatted, format.drop digits.length)

/-- Uses a format once. -/
def formatOnce (fuel : Nat) (formatted : Formatted) (format : List UInt8) : Formatted :=
  match fuel, format with
  | 0, _ | _, [] => formatted
  | fuel + 1, byte :: rest =>
    if formatted.stopped then formatted
    else if byte == 92 then
      let (meant, rest) := escapeAt rest
      formatOnce fuel (formatted.print [meant]) rest
    else if byte != 37 then
      let plain := format.takeWhile fun byte => byte != 92 && byte != 37
      formatOnce fuel (formatted.print plain) (format.drop plain.length)
    else
      match rest with
      | 37 :: rest => formatOnce fuel (formatted.print [37]) rest
      | _ =>
        let (layout, behind) := flagsOf {} rest
        let (width, formatted, behind) := amountOf formatted behind
        let layout := { layout with left := layout.left || width < 0, width := width.natAbs }
        let (layout, formatted, behind) := match behind with
          | 46 :: behind =>
            let (precision, formatted, behind) := amountOf formatted behind
            ({ layout with precision := if precision < 0 then none else some precision.toNat },
              formatted, behind)
          | _ => (layout, formatted, behind)
        match behind with
        | [] =>
          { formatted with stopped := true
                           complaints := formatted.complaints ++ ["missing format character"] }
        | letter :: behind =>
          match formatted.directive layout letter with
          | some formatted => formatOnce fuel formatted behind
          | none =>
            let shown := asciiText (37 :: rest.take (rest.length - behind.length))
            { formatted with
              stopped := true
              complaints := formatted.complaints ++ [shown ++ ": invalid directive"] }

/-- Uses a format until it has used all arguments. A format that uses none is used once. -/
def formatAll (fuel : Nat) (formatted : Formatted) (format : List UInt8) : Formatted :=
  match fuel with
  | 0 => formatted
  | fuel + 1 =>
    let next := formatOnce (format.length + 1) formatted format
    if next.stopped || next.arguments.isEmpty ||
        next.arguments.length == formatted.arguments.length then next
    else formatAll fuel next format

/-- What `printf` prints, its complaints, and its status: two for a format that cannot be used, and one
for arguments that are no numbers. -/
def printf (format : List UInt8) (arguments : List (List UInt8)) :
    List UInt8 × List String × Nat :=
  let formatted := formatAll (arguments.length + 1) { arguments } format
  (formatted.output, formatted.complaints,
    if formatted.complaints.isEmpty then 0 else if formatted.stopped then 2 else 1)

end Dialogs.Script
