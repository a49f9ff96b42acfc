import Dialogs.Client
import Dialogs.Proofs.JsonText
import Dialogs.Proofs.RecordFields
import Dialogs.Proofs.Trimming

/-!
# Events through a transcript

What a renderer prints line by line comes back: the events of a transcript are those that were
printed on its lines, in order, whatever noise stands between them, however the lines are indented,
and whichever way they are broken. An event comes back if its kind is not a known one under another
guise and if its detail survives the text: a null is read as no detail, doubles are left aside here,
and the nesting of a text is limited.
-/

namespace Dialogs

/-! ## Printed lines -/

/-- An event that its printed form gives back. -/
structure Event.Legible (event : Event) : Prop where
  kind : ∀ name ∈ ["clicked", "selected", "changed", "doubleclicked"], event.kind ≠ .other name
  detail : ∀ detail, event.detail = some detail →
    detail.json ≠ .null ∧ detail.json.Integral ∧ detail.json.depth ≤ 126

/-- What is printed on a line. -/
inductive Print where
  | event (event : Event)
  | noise (text : String)

namespace Print

/-- The text of what is printed. -/
def text : Print → String
  | .event reported => reported.toJson.compact
  | .noise text => text

/-- The event that is printed, if it is one. -/
def event? : Print → Option Event
  | .event reported => some reported
  | .noise _ => none

/-- An event is printed so that it can be read, and noise is on one line and does not look like an
event. -/
def Fair : Print → Prop
  | .event reported => reported.Legible
  | .noise text => '\n' ∉ text.toList ∧ (Text.trim text).toList.head? ≠ some '\x7b'

end Print

/-- A line of output: what is printed on it, and what stands around that. -/
structure PrintedLine where
  before : String
  print : Print
  after : String

/-- How a line is broken. -/
inductive LineBreak where
  | newline
  | carriageReturn

/-- The characters of a line break. -/
def LineBreak.text : LineBreak → String
  | .newline => "\n"
  | .carriageReturn => "\r\n"

namespace PrintedLine

/-- The text of a line. -/
def text (line : PrintedLine) : String := line.before ++ line.print.text ++ line.after

/-- Whether a text has nothing but blanks in it, and no newline among them. -/
def isMargin (text : String) : Bool := text.toList.all fun c => Text.isBlank c && c != '\n'

/-- A line on which only blanks stand around what is printed. -/
structure Fair (line : PrintedLine) : Prop where
  before : isMargin line.before = true
  print : line.print.Fair
  after : isMargin line.after = true

end PrintedLine

/-- The text of broken lines, and possibly of a last line without a break. -/
def transcriptOf : List (PrintedLine × LineBreak) → Option PrintedLine → String
  | [], none => ""
  | [], some last => last.text
  | (line, lineBreak) :: rest, last => line.text ++ lineBreak.text ++ transcriptOf rest last

/-- The events that are printed on lines. -/
def printedEvents (lines : List PrintedLine) : List Event := lines.filterMap (·.print.event?)

/-! ## One event -/

namespace Event

variable {event : Event}

/-- A kind that is not known under another guise is the kind with its name. -/
theorem Legible.ofName_name (legible : event.Legible) :
    EventKind.ofName event.kind.name = event.kind := by
  have unknown := legible.kind
  cases kind : event.kind with
  | other name =>
    simp only [kind, List.forall_mem_cons, ne_eq, EventKind.other.injEq] at unknown
    simp [EventKind.name, EventKind.ofName, unknown]
  | _ => rfl

/-- A legible event has no doubles in its document. -/
theorem Legible.integral (legible : event.Legible) : event.toJson.Integral := by
  cases held : event.detail with
  | none => simp [toJson, held, Json.Integral, Json.MembersIntegral, Json.MemberIntegral]
  | some detail =>
    obtain ⟨-, integral, -⟩ := legible.detail detail held
    simp [toJson, held, Json.Integral, Json.MembersIntegral, Json.MemberIntegral, integral]

/-- The detail of a legible event is read within the room that the event leaves. -/
theorem Legible.read_detail (legible : event.Legible) {detail : Json.Document}
    (held : event.detail = some detail) :
    detail.json.draft.toOption (Json.Draft.toDocument (.text 127)) = .ok (some detail) := by
  obtain ⟨present, -, shallow⟩ := legible.detail detail held
  have read : detail.json.draft.toDocument (.text 127) = .ok detail := by
    have fits : (Json.Origin.text 127).Fits detail.json.depth := Nat.lt_succ_of_le shallow
    rw [Json.Draft.toDocument, Json.Draft.toJson_draft_of_fits detail.json fits, Except.map,
      Json.document_json]
  have presentDraft : detail.json.draft ≠ .null := by
    cases shape : detail.json with
    | null => exact absurd shape present
    | _ => exact nofun
  rw [Json.Draft.toOption_of_ne_null presentDraft, read, Except.map]

/-- A legible event is read back from the draft of its document. -/
theorem Legible.decode_draft (legible : event.Legible) :
    record.decode (.text Json.nestingLimit) event.toJson.draft = .ok event := by
  have heads (rest : List (Except Json.SyntaxError String × Json.Draft)) :
      record.ofMembers (.text 127) none [] record.initial
          ((.ok "type", .string event.kind.name) :: (.ok "from", .string event.source) :: rest) =
        record.ofMembers (.text 127) none ["from", "type"] ⟨event.kind, event.source, none⟩ rest := by
    rw [Json.Record.ofMembers_field rfl (by decide) rfl,
      Json.Record.ofMembers_field rfl (by decide) rfl]
    simp only [legible.ofName_name]
    rfl
  cases held : event.detail with
  | none =>
    have whole : event = ⟨event.kind, event.source, none⟩ := by rw [← held]
    rw [toJson, held, whole]
    exact heads []
  | some detail =>
    have whole : event = ⟨event.kind, event.source, some detail⟩ := by rw [← held]
    rw [toJson, held, whole]
    refine (heads [(.ok "detail", detail.json.draft)]).trans ?_
    rw [Json.Record.ofMembers_field rfl (by decide) (by simp only [legible.read_detail held]; rfl)]
    rfl

/-- A legible event is read back from its text. -/
theorem Legible.decodeText_compact (legible : event.Legible) :
    Json.decodeText record.decode event.toJson.compact = .ok event := by
  rw [Json.decodeText, Json.read_compact legible.integral]
  simp only [legible.decode_draft]
  rfl

end Event

/-! ## One line -/

/-- The text of an event is one object. -/
theorem Event.compact_toList (event : Event) :
    ∃ inner, event.toJson.compact.toList = '\x7b' :: (inner ++ ['\x7d']) := by
  rw [Json.compact, String.toList_ofList, Event.toJson, Json.chars]
  exact ⟨_, rfl⟩

namespace PrintedLine

variable {line : PrintedLine}

/-- The characters of a margin are blanks other than newlines. -/
theorem margin_mem {text : String} (margin : isMargin text = true) :
    ∀ c ∈ text.toList, Text.isBlank c = true ∧ c ≠ '\n' := by
  simpa [isMargin] using margin

/-- Trimming a line leaves what is printed on it. -/
theorem Fair.trim_text (fair : line.Fair) : Text.trim line.text = Text.trim line.print.text := by
  rw [Text.trim, text, String.toList_append, String.toList_append,
    Text.trimChars_surrounded (fun c inside => (margin_mem fair.before c inside).1)
      (fun c inside => (margin_mem fair.after c inside).1), Text.trim]

/-- No line is broken by itself. -/
theorem Fair.newline_not_mem (fair : line.Fair) : '\n' ∉ line.text.toList := by
  have unbroken : '\n' ∉ line.print.text.toList := by
    have fairPrint := fair.print
    cases shown : line.print with
    | event event =>
      rw [shown] at fairPrint
      rw [Print.text, Json.compact, String.toList_ofList]
      exact Json.newline_not_mem_chars _ (Event.Legible.integral fairPrint)
    | noise text =>
      rw [shown] at fairPrint
      exact fairPrint.1
  rw [text, String.toList_append, String.toList_append]
  simp only [List.mem_append, not_or]
  exact ⟨⟨fun inside => (margin_mem fair.before _ inside).2 rfl, unbroken⟩,
    fun inside => (margin_mem fair.after _ inside).2 rfl⟩

/-- What is printed on a line is what the line is read as, also if the blanks around it differ. -/
theorem Fair.ofLine? (fair : line.Fair) {shown : String}
    (same : Text.trim shown = Text.trim line.text) :
    Event.ofLine? shown = line.print.event?.map .ok := by
  have fairPrint := fair.print
  rw [fair.trim_text] at same
  rw [Event.ofLine?, Event.isEventLine, same]
  cases printed : line.print with
  | event event =>
    rw [printed] at fairPrint
    obtain ⟨inner, shape⟩ := event.compact_toList
    have trimmed : Text.trim event.toJson.compact = event.toJson.compact := by
      rw [Text.trim, shape, Text.trimChars_of_solid rfl rfl, ← shape, String.ofList_toList]
    have opens : (event.toJson.compact.toList.head? == some '\x7b') = true := by rw [shape]; rfl
    rw [Print.text, trimmed, if_pos opens, Event.Legible.decodeText_compact fairPrint]
    rfl
  | noise text =>
    rw [printed] at fairPrint
    rw [Print.text, if_neg (by simpa using fairPrint.2)]
    rfl

end PrintedLine

/-! ## All lines -/

namespace Text

/-- Characters without a newline all belong to the current line. -/
theorem linesFrom_unbroken {characters : List Char} (unbroken : '\n' ∉ characters)
    (line rest : List Char) :
    linesFrom line (characters ++ rest) = linesFrom (characters.reverse ++ line) rest := by
  induction characters generalizing line with
  | nil => rfl
  | cons c characters inductionHypothesis =>
    obtain ⟨here, later⟩ := not_or.mp (mt List.mem_cons.mpr unbroken)
    rw [List.cons_append, linesFrom, inductionHypothesis later, List.reverse_cons,
      List.append_assoc, List.singleton_append]
    exact Ne.symm here

/-- A newline ends a line. All that is lost of the line is a blank. -/
theorem linesFrom_broken {characters : List Char} (unbroken : '\n' ∉ characters)
    (rest : List Char) :
    ∃ shown, linesFrom [] (characters ++ '\n' :: rest) = shown :: linesFrom [] rest ∧
      trimChars shown = trimChars characters := by
  rw [linesFrom_unbroken unbroken, List.append_nil]
  generalize backwards : characters.reverse = line
  have forwards : characters = line.reverse := by rw [← backwards, List.reverse_reverse]
  rw [forwards, linesFrom.eq_def]
  refine ⟨_, rfl, ?_⟩
  split
  next body => rw [List.reverse_cons, trimChars_concat rfl]
  next => rfl

/-- A last line without a break is a line, unless there is nothing in it. -/
theorem linesFrom_last {characters : List Char} (unbroken : '\n' ∉ characters) :
    linesFrom [] characters = if characters = [] then [] else [characters] := by
  have whole := linesFrom_unbroken unbroken [] []
  rw [List.append_nil, List.append_nil] at whole
  simp [whole, linesFrom]

/-- A text in front of a line break is a line, and trimmed it is what it was. -/
theorem lines_broken {text : String} (unbroken : '\n' ∉ text.toList) (lineBreak : LineBreak)
    (rest : String) :
    ∃ shown, lines (text ++ lineBreak.text ++ rest) = shown :: lines rest ∧
      trim shown = trim text := by
  simp only [lines, trim, String.toList_append, List.append_assoc]
  cases lineBreak with
  | newline =>
    obtain ⟨shown, cut, same⟩ := linesFrom_broken unbroken rest.toList
    refine ⟨String.ofList shown, ?_, by rw [String.toList_ofList, same]⟩
    exact congrArg (List.map String.ofList) cut
  | carriageReturn =>
    have returned : '\n' ∉ text.toList ++ ['\r'] := by simp [unbroken]
    obtain ⟨shown, cut, same⟩ := linesFrom_broken returned rest.toList
    rw [trimChars_concat rfl] at same
    refine ⟨String.ofList shown, ?_, by rw [String.toList_ofList, same]⟩
    rw [List.append_assoc] at cut
    exact congrArg (List.map String.ofList) cut

end Text

/-- A line is read as what is printed on it, in front of the lines behind it. -/
theorem eventsOfLines_cons {line : PrintedLine} (fair : line.Fair) {shown : String}
    (same : Text.trim shown = Text.trim line.text) {rest : List String} {events : List Event}
    (later : eventsOfLines rest = .ok events) :
    eventsOfLines (shown :: rest) = .ok (line.print.event?.toList ++ events) := by
  rw [eventsOfLines, fair.ofLine? same]
  cases line.print.event? with
  | none => exact later
  | some event =>
    simp only [Option.map_some, later]
    rfl

/-- A line adds to the printed events what is printed on it. -/
theorem printedEvents_cons (line : PrintedLine) (rest : List PrintedLine) :
    printedEvents (line :: rest) = line.print.event?.toList ++ printedEvents rest := by
  rw [printedEvents, List.filterMap_cons]
  cases line.print.event? <;> rfl

/-- The events of a text without a newline are those of its only line. -/
theorem eventsOf_unbroken {text : String} (unbroken : '\n' ∉ text.toList) :
    eventsOf text = eventsOfLines [text] := by
  rw [eventsOf, Text.lines, Text.linesFrom_last unbroken]
  split
  next empty =>
    obtain rfl : text = "" := String.toList_eq_nil_iff.mp empty
    rfl
  next => rw [List.map_singleton, String.ofList_toList]

/-- The events of a transcript are those that were printed on its lines.

Proof: by induction over the lines. A line with its break is one line of the transcript, up to a
blank, and is read as what is printed on it; only an empty last line is none. -/
theorem eventsOf_printed (lines : List (PrintedLine × LineBreak)) (last : Option PrintedLine)
    (fair : ∀ line ∈ lines.map Prod.fst ++ last.toList, line.Fair) :
    eventsOf (transcriptOf lines last) =
      .ok (printedEvents (lines.map Prod.fst ++ last.toList)) := by
  induction lines with
  | nil =>
    cases last with
    | none => rfl
    | some last =>
      have fairLast : last.Fair := fair last (List.mem_singleton.mpr rfl)
      have nothing : eventsOfLines [] = .ok [] := rfl
      rw [transcriptOf, eventsOf_unbroken fairLast.newline_not_mem,
        eventsOfLines_cons fairLast rfl nothing, List.map_nil, List.nil_append, Option.toList_some,
        printedEvents_cons]
      rfl
  | cons head rest inductionHypothesis =>
    obtain ⟨line, lineBreak⟩ := head
    have fairLine : line.Fair := fair line List.mem_cons_self
    have later := inductionHypothesis fun other inside => fair other (List.mem_cons_of_mem _ inside)
    obtain ⟨shown, cut, same⟩ :=
      Text.lines_broken fairLine.newline_not_mem lineBreak (transcriptOf rest last)
    rw [eventsOf, transcriptOf, cut, eventsOfLines_cons fairLine same later, List.map_cons,
      List.cons_append, printedEvents_cons]

/-- The events of a transcript are exactly those that were printed on its lines, in order, and the
client results in all of them or in the last, as it is asked. -/
theorem printed_events_return (lines : List (PrintedLine × LineBreak)) (last : Option PrintedLine)
    (fair : ∀ line ∈ lines.map Prod.fst ++ last.toList, line.Fair) :
    eventsOf (transcriptOf lines last) =
        .ok (printedEvents (lines.map Prod.fst ++ last.toList)) ∧
      ∀ (options : GlobalOptions) (window : Window) (stderr : String),
        window.validate = .ok () →
          (options.showDialogEvents window).run (fun _ => .ok ⟨transcriptOf lines last, stderr⟩) =
              .ok (printedEvents (lines.map Prod.fst ++ last.toList)) ∧
            (options.showDialog window).run (fun _ => .ok ⟨transcriptOf lines last, stderr⟩) =
              .ok (printedEvents (lines.map Prod.fst ++ last.toList)).getLast? := by
  have events := eventsOf_printed lines last fair
  refine ⟨events, fun options window stderr valid => ⟨?_, ?_⟩⟩
  · rw [GlobalOptions.showDialogEvents, valid]
    exact events
  · rw [GlobalOptions.showDialog, valid]
    exact congrArg (Except.map List.getLast?) events

/-- An indented event with escapes in it, an empty line, noise and an event with a detail, the last
line without a break. -/
theorem printed_events_return_mixed :
    let quoted : Event := ⟨.clicked, "say \"go\"\n", none⟩
    let detail : Json.Document :=
      ⟨.array [.number (.integer (-1) (by decide) (by decide)), .string "\x01"],
        ⟨trivial, trivial, trivial⟩⟩
    let moved : Event := ⟨.other "moved", "slider", some detail⟩
    let transcript := transcriptOf
      [(⟨"\t ", .event quoted, " "⟩, .carriageReturn), (⟨"", .noise "", ""⟩, .newline),
        (⟨"", .noise "debug \x7b\x7d", ""⟩, .newline)]
      (some ⟨"", .event moved, "\r"⟩)
    eventsOf transcript = .ok [quoted, moved] ∧
      ((⟨none, false⟩ : GlobalOptions).showDialog .empty).run (fun _ => .ok ⟨transcript, ""⟩) =
        .ok (some moved) := by
  intro quoted detail moved transcript
  have legibleQuoted : quoted.Legible := ⟨by simp [quoted], by simp [quoted]⟩
  have legibleMoved : moved.Legible := by
    refine ⟨by simp [moved], ?_⟩
    rintro _ ⟨⟩
    exact ⟨nofun, ⟨trivial, trivial, trivial⟩, by decide⟩
  obtain ⟨events, shown⟩ := printed_events_return
    [(⟨"\t ", .event quoted, " "⟩, .carriageReturn), (⟨"", .noise "", ""⟩, .newline),
      (⟨"", .noise "debug \x7b\x7d", ""⟩, .newline)]
    (some ⟨"", .event moved, "\r"⟩) (by
      intro line inside
      simp only [List.map_cons, List.map_nil, Option.toList_some, List.cons_append,
        List.nil_append, List.mem_cons, List.not_mem_nil, or_false] at inside
      rcases inside with rfl | rfl | rfl | rfl
      · exact ⟨by decide, legibleQuoted, by decide⟩
      · exact ⟨by decide, ⟨by decide, by decide⟩, by decide⟩
      · exact ⟨by decide, ⟨by decide, by decide⟩, by decide⟩
      · exact ⟨by decide, legibleMoved, by decide⟩)
  exact ⟨events, (shown ⟨none, false⟩ .empty "" rfl).2⟩

end Dialogs
