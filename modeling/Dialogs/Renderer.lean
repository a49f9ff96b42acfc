import Dialogs.Failure
import Dialogs.Text.Utf8

/-!
# Renderers at work

A renderer is a program of which only the outside is seen: what it prints on which line and when,
when it closes its output, when and how it ends, and what becomes of the document that is handed to
it. All this depends on the document alone, so a renderer is a function from what it is fed to how
it behaves. Times are nanoseconds since it was started.
-/

namespace Dialogs

/-- What a renderer finds on its standard input. -/
inductive Feed where
  /-- Nothing: the input has ended before the start. -/
  | absent
  /-- An open pipe into which nothing has been written yet. -/
  | awaited
  /-- A document that is written at some time, after which the pipe is closed. -/
  | handed (time : Nat) (document : String)
  deriving DecidableEq, Repr

/-- What becomes of a document that is written to a renderer. -/
inductive Uptake where
  /-- All of it is in the pipe or read, from a time on. -/
  | taken (time : Nat)
  /-- The renderer has closed its input at a time, and does not want the rest. -/
  | refused (time : Nat)
  /-- Writing fails at a time. -/
  | failed (time : Nat) (cause : PipeError)
  /-- The pipe stays full and open. -/
  | stuck
  deriving DecidableEq, Repr

/-- When the writer is done with the document. -/
def Uptake.time? : Uptake → Option Nat
  | .taken time | .refused time | .failed time _ => some time
  | .stuck => none

/-- The result of writing: a renderer that does not want its document says why when it ends. -/
def Uptake.result : Uptake → Except Failure Unit
  | .failed _ cause => .error (.pipe cause)
  | _ => .ok ()

/-- A glyph on an output, and when it arrives. -/
structure Arrival where
  time : Nat
  glyph : Text.Glyph
  deriving DecidableEq, Repr

/-- The end of a renderer: its exit code, unless a signal ended it. -/
structure Ending where
  time : Nat
  code : Option Int
  deriving DecidableEq, Repr

/-- All that is seen of a renderer. -/
structure Behaviour where
  stdout : List Arrival
  stderr : List Arrival
  /-- When the standard output is closed, if ever. -/
  closes : Option Nat
  ending : Option Ending
  uptake : Uptake
  deriving DecidableEq, Repr

/-- A program that shows dialogs. -/
abbrev Renderer := Feed → Behaviour

/-- A line of output without its newline: when it is complete, and what it holds. -/
structure Line where
  time : Nat
  glyphs : List Text.Glyph
  deriving DecidableEq, Repr

namespace Line

/-- The text of a line. The first fault in it is reported with the number of bytes in front. -/
def text (line : Line) : Except PipeError String :=
  let index := (line.glyphs.takeWhile Text.Glyph.isChar).foldl (fun sum glyph => sum + glyph.size) 0
  match line.glyphs.dropWhile Text.Glyph.isChar with
  | .invalid length :: _ => .error (.invalidLine index length)
  | .incomplete _ :: _ => .error (.incompleteLine index)
  | _ => .ok (String.ofList (line.glyphs.map Text.Glyph.toChar))

/-- Cuts an output into lines. Every newline ends a line, and so does the end of the output, unless
nothing stands in front of it; an output that does not end keeps its last line back. -/
def split (closes : Option Nat) (arrivals : List Arrival) : List Line :=
  let (lines, begun) := arrivals.foldl
    (fun (lines, begun) arrival =>
      if arrival.glyph = .char '\n' then (⟨arrival.time, begun.reverse⟩ :: lines, [])
      else (lines, arrival.glyph :: begun))
    (([] : List Line), ([] : List Text.Glyph))
  match begun, closes with
  | _ :: _, some time => (⟨time, begun.reverse⟩ :: lines).reverse
  | _, _ => lines.reverse

end Line

namespace Behaviour

/-- The lines of the standard output. -/
def lines (behaviour : Behaviour) : List Line := Line.split behaviour.closes behaviour.stdout

/-- The text of an output, with replacements for what is not UTF-8. -/
def textOf (arrivals : List Arrival) : String :=
  String.ofList (arrivals.map fun arrival => arrival.glyph.toChar)

/-- The prefix that the renderer gives to its error messages. -/
def errorMark : List Char := ['E', 'R', 'R', 'O', 'R', ':', ' ']

/-- The message in a text: the text without the blanks around it, and then without one error mark
in front. -/
def messageOf (text : String) : String :=
  let characters := Text.trimChars text.toList
  String.ofList
    (if errorMark.isPrefixOf characters then characters.drop errorMark.length else characters)

/-- The verdict on a renderer that ended with a code: any but zero is a failure, whose message is
the first of the texts that holds more than blanks. -/
def verdict (code : Option Int) (texts : List String) : Except Failure Unit :=
  if code = some 0 then .ok ()
  else .error (.exit code (messageOf ((texts.find? fun text => !Text.isAllBlank text).getD "")))

end Behaviour

end Dialogs
