import Dialogs.Proofs.EventLines
import Dialogs.Proofs.PrintedEvents

/-!
# What an output says

A client reads one output in two ways. Where it asks for an answer, the last event is the answer,
and without events the text is, unless there is none. Where it shows a dialog, only the last event
counts. Both look at the event lines alone, and both fail at the first of these that cannot be
decoded.

What the output says is written down here without the loop that reads it, and both ways give exactly
that. The answer that is a text is trimmed as a whole and not line by line. This brings forth no
event line: a line of the trimmed text is a line of the output, up to the blanks around it.
-/

namespace Dialogs

namespace Text

/-! ## The lines of a trimmed text -/

/-- A blank in front of a text makes no difference to its trimmed pieces, except that one more may
come first. -/
theorem trimmed_pieces_cons {separator c : Char} (blank : isBlank c = true) (rest : List Char) :
    (piecesChars separator rest).map trimChars ⊆
      (piecesChars separator (c :: rest)).map trimChars := by
  have skipped (piece : List Char) : trimChars (c :: piece) = trimChars piece := by
    simp [trimChars, trimStartChars, blank]
  rw [piecesChars]
  split
  · exact List.subset_cons_self _ _
  · cases shape : piecesChars separator rest with
    | nil => exact absurd shape (piecesChars_ne_nil separator rest)
    | cons piece pieces => simp [skipped]

/-- A character behind a text that is no separator belongs to the last piece. -/
theorem piecesChars_concat {separator c : Char} (other : c ≠ separator) (text : List Char) :
    ∃ before last, piecesChars separator text = before ++ [last] ∧
      piecesChars separator (text ++ [c]) = before ++ [last ++ [c]] := by
  induction text with
  | nil => exact ⟨[], [], by simp [piecesChars, other]⟩
  | cons d rest inductionHypothesis =>
    obtain ⟨before, last, same, longer⟩ := inductionHypothesis
    rw [List.cons_append, piecesChars, piecesChars, same, longer]
    by_cases broken : d = separator
    · exact ⟨[] :: before, last, by simp [broken]⟩
    · cases before with
      | nil => exact ⟨[], d :: last, by simp [broken]⟩
      | cons piece before => exact ⟨(d :: piece) :: before, last, by simp [broken]⟩

/-- Nor does a blank behind the text, except that one more piece may come last. -/
theorem trimmed_pieces_concat {separator c : Char} (blank : isBlank c = true) (text : List Char) :
    (piecesChars separator text).map trimChars ⊆
      (piecesChars separator (text ++ [c])).map trimChars := by
  by_cases broken : c = separator
  · subst broken
    rw [piecesChars_append, List.map_append]
    exact List.subset_append_left _ _
  · obtain ⟨before, last, same, longer⟩ := piecesChars_concat broken text
    rw [same, longer]
    simp [trimChars_concat blank]

/-- The trimmed pieces of a trimmed text are among those of the text. -/
theorem trimmed_pieces_trim (separator : Char) (text : List Char) :
    (piecesChars separator (trimChars text)).map trimChars ⊆
      (piecesChars separator text).map trimChars := by
  have ended (text : List Char) : (piecesChars separator (trimEndChars text)).map trimChars ⊆
      (piecesChars separator text).map trimChars := by
    induction text using List.reverseRecOn with
    | nil => exact List.Subset.refl _
    | append_singleton text c inductionHypothesis =>
      by_cases blank : isBlank c = true
      · rw [trimEndChars_concat blank]
        exact List.Subset.trans inductionHypothesis (trimmed_pieces_concat blank text)
      · rw [trimEndChars_eq, List.rdropWhile_concat_neg _ _ _ blank]
        exact List.Subset.refl _
  have started (text : List Char) : (piecesChars separator (trimStartChars text)).map trimChars ⊆
      (piecesChars separator text).map trimChars := by
    induction text with
    | nil => exact List.Subset.refl _
    | cons c rest inductionHypothesis =>
      by_cases blank : isBlank c = true
      · have skipped : trimStartChars (c :: rest) = trimStartChars rest := by
          simp [trimStartChars, blank]
        rw [skipped]
        exact List.Subset.trans inductionHypothesis (trimmed_pieces_cons blank rest)
      · rw [trimStartChars_of_head (by simpa using blank)]
        exact List.Subset.refl _
  exact List.Subset.trans (ended _) (started text)

/-- The trimmed lines of a text are its trimmed pieces between newlines, where a last one that is
empty may be missing.

Proof: by induction on the length, at the first newline. -/
theorem trimmed_lines (text : List Char) :
    ∃ ending, (∀ piece ∈ ending, piece = []) ∧
      (piecesChars '\n' text).map trimChars = (linesFrom [] text).map trimChars ++ ending := by
  by_cases broken : '\n' ∈ text
  · obtain ⟨line, rest, shape, unbroken⟩ := List.eq_append_cons_of_mem broken
    have shorter : rest.length < text.length := by
      rw [shape, List.length_append, List.length_cons]
      omega
    obtain ⟨shown, cut, same⟩ := linesFrom_broken unbroken rest
    obtain ⟨ending, empty, later⟩ := trimmed_lines rest
    refine ⟨ending, empty, ?_⟩
    rw [shape, piecesChars_append, piecesChars_of_not_mem unbroken, cut, List.map_append, later,
      List.map_cons, List.map_cons, same]
    rfl
  · rw [piecesChars_of_not_mem broken, linesFrom_last broken]
    by_cases nothing : text = []
    · exact ⟨[[]], by simp, by subst nothing; rfl⟩
    · exact ⟨[], by simp, by simp [nothing]⟩
termination_by text.length

/-- What stands on the lines of a text, up to the blanks around it, stands between its newlines. -/
theorem trimmed_line_iff {text solid : List Char} (filled : solid ≠ []) :
    solid ∈ (linesFrom [] text).map trimChars ↔ solid ∈ (piecesChars '\n' text).map trimChars := by
  obtain ⟨ending, empty, same⟩ := trimmed_lines text
  rw [same, List.mem_append]
  exact ⟨.inl, fun inside => inside.resolve_right fun last => filled (empty solid last)⟩

/-- Nothing is left of a text by trimming exactly if nothing is left of its characters. -/
theorem trim_eq_empty_iff {text : String} : trim text = "" ↔ trimChars text.toList = [] := by
  rw [trim, ← String.toList_eq_nil_iff, String.toList_ofList]

/-- A line of a trimmed text is a line of the text, up to the blanks around it, unless it is
blank. -/
theorem mem_lines_of_trim {text line : String} (inside : line ∈ lines (trim text))
    (filled : trim line ≠ "") : ∃ other ∈ lines text, trim other = trim line := by
  obtain ⟨characters, cut, rfl⟩ := List.mem_map.mp inside
  rw [trim, String.toList_ofList] at cut
  have solid : trimChars characters ≠ [] := by
    rwa [ne_eq, trim_eq_empty_iff, String.toList_ofList] at filled
  have within := trimmed_pieces_trim '\n' text.toList
    ((trimmed_line_iff solid).mp (List.mem_map_of_mem cut))
  obtain ⟨other, found, same⟩ := List.mem_map.mp ((trimmed_line_iff solid).mpr within)
  refine ⟨String.ofList other, List.mem_map_of_mem found, ?_⟩
  rw [trim, trim, String.toList_ofList, String.toList_ofList, same]

/-- Every line of a blank text is blank. -/
theorem trim_eq_empty_of_blank {text line : String} (blank : isAllBlank text = true)
    (inside : line ∈ lines text) : trim line = "" := by
  obtain ⟨characters, cut, rfl⟩ := List.mem_map.mp inside
  rw [trim_eq_empty_iff, String.toList_ofList]
  by_contra solid
  obtain ⟨piece, found, same⟩ :=
    List.mem_map.mp ((trimmed_line_iff solid).mp (List.mem_map_of_mem cut))
  have blankPiece : isAllBlank (String.ofList piece) = true := by
    simp only [isAllBlank, String.toList_ofList, List.all_eq_true] at blank ⊢
    exact fun c inside => blank c (mem_of_mem_piecesChars found inside)
  rw [isAllBlank_iff, String.toList_ofList, same] at blankPiece
  exact solid blankPiece

end Text

/-! ## What is read from an output -/

/-- The answer in an output. The first event line that cannot be decoded spoils it. Otherwise the
last event line is the answer, and without event lines the trimmed text is, unless there are only
blanks. -/
inductive Reading (stdout : String) : Except Failure Reply → Prop where
  | spoilt {before after : List String} {line : String} {cause : Json.Error}
    (lines : eventLines stdout = before ++ line :: after)
    (decoded : ∀ earlier ∈ before, Event.Decodes earlier)
    (undecodable : Event.spelled line = .error cause) :
    Reading stdout (.error (.undecodable (Text.trim line) cause))
  | event {before : List String} {line : String} {event : Event}
    (lines : eventLines stdout = before ++ [line])
    (decoded : ∀ earlier ∈ before, Event.Decodes earlier)
    (last : Event.spelled line = .ok event) : Reading stdout (.ok (.event event))
  | closed (blank : Text.isAllBlank stdout = true) : Reading stdout (.ok .closed)
  | text (silent : eventLines stdout = []) (printed : Text.isAllBlank stdout = false) :
    Reading stdout (.ok (.text (Text.trim stdout)))

variable {stdout : String}

/-- There is no event line in a blank output. -/
theorem eventLines_of_blank (blank : Text.isAllBlank stdout = true) : eventLines stdout = [] := by
  rw [eventLines, List.filter_eq_nil_iff]
  intro line inside
  rw [Event.opensObject_of_blank (Text.trim_eq_empty_of_blank blank inside)]
  decide

/-- Nothing is left of an output by trimming exactly if it is blank. -/
theorem isEmpty_trim (stdout : String) : (Text.trim stdout).isEmpty = Text.isAllBlank stdout := by
  rw [Bool.eq_iff_iff, String.isEmpty_iff, Text.trim_eq_empty_iff, Text.isAllBlank_iff]

/-- The answer is the last event, and otherwise what the text says. -/
theorem ofTranscript_eq (stdout : String) :
    Reply.ofTranscript stdout = (lastEventOf stdout).map fun last =>
      match last with
      | some event => .event event
      | none => if Text.isAllBlank stdout then .closed else .text (Text.trim stdout) := by
  rw [Reply.ofTranscript, ← isEmpty_trim]
  cases lastEventOf stdout with
  | error failure => rfl
  | ok last => cases last <;> rfl

/-- An output without event lines has no last event. -/
theorem lastEventOf_of_silent (silent : eventLines stdout = []) :
    lastEventOf stdout = .ok none := by
  rw [lastEventOf, eventsOf_eq, silent]
  rfl

/-- What is said to be the answer in an output is the answer that is read. -/
theorem Reading.ofTranscript_eq {outcome : Except Failure Reply}
    (reading : Reading stdout outcome) : Reply.ofTranscript stdout = outcome := by
  rw [Dialogs.ofTranscript_eq]
  cases reading with
  | spoilt lines decoded undecodable =>
    obtain ⟨events, read, found⟩ := eventsOf_split lines decoded
    rw [lastEventOf, read, eventsOfLines, found, undecodable]
    rfl
  | event lines decoded last =>
    obtain ⟨events, read, found⟩ := eventsOf_split lines decoded
    rw [lastEventOf, read, eventsOfLines, found, last]
    simp [eventsOfLines, Except.map, bind, Except.bind, pure, Except.pure]
  | closed blank =>
    rw [lastEventOf_of_silent (eventLines_of_blank blank), blank]
    rfl
  | text silent printed =>
    rw [lastEventOf_of_silent silent, printed]
    rfl

/-- Every output has an answer. -/
theorem exists_reading (stdout : String) : ∃ outcome, Reading stdout outcome := by
  rcases decodes_or_first_not (eventLines stdout) with
    all | ⟨before, line, after, shape, decoded, broken⟩
  · rcases List.eq_nil_or_concat' (eventLines stdout) with silent | ⟨before, line, shape⟩
    · cases blank : Text.isAllBlank stdout with
      | true => exact ⟨_, .closed blank⟩
      | false => exact ⟨_, .text silent blank⟩
    · rw [shape, List.forall_mem_append, List.forall_mem_singleton] at all
      obtain ⟨decoded, event, last⟩ := all
      exact ⟨_, .event shape decoded last⟩
  · cases result : Event.spelled line with
    | ok event => exact absurd ⟨event, result⟩ broken
    | error cause => exact ⟨_, .spoilt shape decoded result⟩

/-- The answer that is read from an output is the answer in it. -/
theorem ofTranscript_eq_iff {outcome : Except Failure Reply} :
    Reply.ofTranscript stdout = outcome ↔ Reading stdout outcome := by
  constructor
  · rintro rfl
    obtain ⟨outcome, reading⟩ := exists_reading stdout
    rwa [reading.ofTranscript_eq]
  · exact Reading.ofTranscript_eq

/-- An answer that is a text is not empty, and none of its lines is an event line. -/
theorem Reading.text_lines {text : String} (reading : Reading stdout (.ok (.text text))) :
    text ≠ "" ∧ ∀ line ∈ Text.lines text, Event.opensObject line = false := by
  cases reading with
  | text silent printed =>
    rw [← isEmpty_trim, String.isEmpty_eq_false_iff] at printed
    refine ⟨printed, fun line inside => ?_⟩
    by_cases filled : Text.trim line = ""
    · exact Event.opensObject_of_blank filled
    · obtain ⟨other, found, same⟩ := Text.mem_lines_of_trim inside filled
      rw [← Event.opensObject_congr same]
      simpa using List.filter_eq_nil_iff.mp silent other found

/-- The answer is closed exactly if there are only blanks in the output. -/
theorem reading_closed_iff : Reading stdout (.ok .closed) ↔ Text.isAllBlank stdout = true :=
  ⟨fun reading => by cases reading with | closed blank => exact blank, .closed⟩

/-! ## Answers and events -/

/-- A last event agrees with an answer: both fail alike, the event is the answer, and there is no
event where the answer is a text or that the window was closed. -/
structure Agrees (shown : Except Failure (Option Event)) (reply : Except Failure Reply) : Prop where
  failure : ∀ failure, shown = .error failure ↔ reply = .error failure
  event : ∀ event, shown = .ok (some event) ↔ reply = .ok (.event event)
  nothing : shown = .ok none ↔ reply = .ok .closed ∨ ∃ text, reply = .ok (.text text)

/-- The last event of an output agrees with the answer in it. -/
theorem agrees_ofTranscript (stdout : String) :
    Agrees (lastEventOf stdout) (Reply.ofTranscript stdout) := by
  rw [ofTranscript_eq]
  cases lastEventOf stdout with
  | error failure => constructor <;> simp [Except.map]
  | ok last =>
    cases last with
    | some event => constructor <;> simp [Except.map]
    | none => cases Text.isAllBlank stdout <;> constructor <;> simp [Except.map]

/-- A client that asks for an answer gets the one in the output, and gets that the window was closed
exactly if there are only blanks. A text is not empty and has no event line. Where the client shows
a file, a document or a window instead, its last event agrees with this answer.

Proof: both ways read the events from the event lines, where the first that cannot be decoded
decides. A line of the trimmed text that is not blank stands in the output up to the blanks around
it, so it is an event line there as well. -/
theorem answer_and_last_event (options : GlobalOptions) (command : Command) (output : Output) :
    (∀ outcome, (options.ask command).run (fun _ => .ok output) = outcome ↔
        Reading output.stdout outcome) ∧
      ((options.ask command).run (fun _ => .ok output) = .ok .closed ↔
        Text.isAllBlank output.stdout = true) ∧
      (∀ text, (options.ask command).run (fun _ => .ok output) = .ok (.text text) →
        text ≠ "" ∧ ∀ line ∈ Text.lines text, Event.opensObject line = false) ∧
      (∀ path, Agrees ((options.showFile path).run fun _ => .ok output)
        ((options.ask command).run fun _ => .ok output)) ∧
      (∀ document : Json, document.isObject = true →
        Agrees ((options.showJson document).run fun _ => .ok output)
          ((options.ask command).run fun _ => .ok output)) ∧
      ∀ window : Window, window.validate = .ok () →
        Agrees ((options.showDialog window).run fun _ => .ok output)
          ((options.ask command).run fun _ => .ok output) := by
  have answer : (options.ask command).run (fun _ => .ok output) =
      Reply.ofTranscript output.stdout := rfl
  have agrees := agrees_ofTranscript output.stdout
  simp only [answer, ofTranscript_eq_iff]
  refine ⟨fun _ => trivial, reading_closed_iff, fun _ => Reading.text_lines, fun _ => agrees,
    fun document object => ?_, fun window valid => ?_⟩
  · rw [GlobalOptions.showJson, if_pos object]
    exact agrees
  · rw [GlobalOptions.showDialog, valid]
    exact agrees

/-- A line that shows a legible event between blanks spells it. -/
theorem Event.Legible.spelled {event : Event} {line : String} (legible : event.Legible)
    (shown : Text.trim line = event.toJson.compact) : Event.spelled line = .ok event := by
  rw [Event.spelled, shown]
  exact legible.decodeText_compact

/-- A remark and an indented path between blank lines. -/
def saved : String := "\n  saved as\r\n\n  /tmp/\x7ba\x7d \n"

/-- An event, a remark, and one more event in front of a last remark. -/
def pressed : String :=
  "\t\x7b\"type\":\"changed\",\"from\":\"name\"\x7d\r\nchecking\n" ++
    " \x7b\"type\":\"clicked\",\"from\":\"ok\"\x7d \nbye"

/-- A line between two events that opens an object and is none. -/
def torn : String :=
  "\x7b\"type\":\"changed\",\"from\":\"name\"\x7d\n  \x7bnot json \n" ++
    "\x7b\"type\":\"clicked\",\"from\":\"ok\"\x7d\n"

theorem reading_saved : Reading saved (.ok (.text "saved as\r\n\n  /tmp/\x7ba\x7d")) := by
  have trimmed : Text.trim saved = "saved as\r\n\n  /tmp/\x7ba\x7d" := by decide +kernel
  rw [← trimmed]
  exact .text (by decide +kernel) (by decide +kernel)

theorem reading_pressed : Reading pressed (.ok (.event ⟨.clicked, "ok", none⟩)) := by
  have changed : Event.Legible ⟨.changed, "name", none⟩ := ⟨by simp, by simp⟩
  have clicked : Event.Legible ⟨.clicked, "ok", none⟩ := ⟨by simp, by simp⟩
  have lines : eventLines pressed =
      ["\t\x7b\"type\":\"changed\",\"from\":\"name\"\x7d"] ++
        [" \x7b\"type\":\"clicked\",\"from\":\"ok\"\x7d "] := by
    decide +kernel
  exact .event lines
    (List.forall_mem_singleton.mpr ⟨_, changed.spelled (by decide +kernel)⟩)
    (clicked.spelled (by decide +kernel))

theorem reading_torn : ∃ cause, Reading torn (.error (.undecodable "\x7bnot json" cause)) := by
  have changed : Event.Legible ⟨.changed, "name", none⟩ := ⟨by simp, by simp⟩
  have lines : eventLines torn =
      ["\x7b\"type\":\"changed\",\"from\":\"name\"\x7d"] ++
        "  \x7bnot json " :: ["\x7b\"type\":\"clicked\",\"from\":\"ok\"\x7d"] := by
    decide +kernel
  have trimmed : Text.trim "  \x7bnot json " = "\x7bnot json" := by decide +kernel
  have broken : (Event.spelled "  \x7bnot json ").isOk = false := by decide +kernel
  cases undecodable : Event.spelled "  \x7bnot json " with
  | ok event => simp [undecodable, Except.isOk, Except.toBool] at broken
  | error cause =>
    rw [← trimmed]
    exact ⟨cause, .spoilt lines
      (List.forall_mem_singleton.mpr ⟨_, changed.spelled (by decide +kernel)⟩) undecodable⟩

/-- Three outputs of one client. The text is trimmed with its inner lines kept, and is no event
where a file, a document or a window is shown. Of two events the last is the answer, and the last
event, whatever stands around them. A line that opens an object and is none spoils the events on
both sides of it. -/
theorem answer_and_last_event_saved :
    let options : GlobalOptions := ⟨none, false⟩
    let ask (stdout : String) := (options.ask (.selectDir none none)).run fun _ => .ok ⟨stdout, ""⟩
    let showFile (stdout : String) := (options.showFile "form.json").run fun _ => .ok ⟨stdout, ""⟩
    let showJson (stdout : String) := (options.showJson (.object [])).run fun _ => .ok ⟨stdout, ""⟩
    let showDialog (stdout : String) := (options.showDialog .empty).run fun _ => .ok ⟨stdout, ""⟩
    (ask saved = .ok (.text "saved as\r\n\n  /tmp/\x7ba\x7d") ∧
      (∀ line ∈ Text.lines "saved as\r\n\n  /tmp/\x7ba\x7d", Event.opensObject line = false) ∧
      showFile saved = .ok none ∧ showJson saved = .ok none ∧ showDialog saved = .ok none) ∧
    (ask pressed = .ok (.event ⟨.clicked, "ok", none⟩) ∧
      showFile pressed = .ok (some ⟨.clicked, "ok", none⟩) ∧
      showJson pressed = .ok (some ⟨.clicked, "ok", none⟩) ∧
      showDialog pressed = .ok (some ⟨.clicked, "ok", none⟩)) ∧
    ∃ cause, ask torn = .error (.undecodable "\x7bnot json" cause) ∧
      showFile torn = .error (.undecodable "\x7bnot json" cause) ∧
      showJson torn = .error (.undecodable "\x7bnot json" cause) ∧
      showDialog torn = .error (.undecodable "\x7bnot json" cause) := by
  intro options ask showFile showJson showDialog
  refine ⟨?_, ?_, ?_⟩
  · obtain ⟨answers, -, texts, files, documents, windows⟩ :=
      answer_and_last_event options (.selectDir none none) ⟨saved, ""⟩
    have answer := (answers _).mpr reading_saved
    exact ⟨answer, (texts _ answer).2, (files _).nothing.mpr (.inr ⟨_, answer⟩),
      (documents _ rfl).nothing.mpr (.inr ⟨_, answer⟩),
      (windows .empty rfl).nothing.mpr (.inr ⟨_, answer⟩)⟩
  · obtain ⟨answers, -, -, files, documents, windows⟩ :=
      answer_and_last_event options (.selectDir none none) ⟨pressed, ""⟩
    have answer := (answers _).mpr reading_pressed
    exact ⟨answer, ((files _).event _).mpr answer, ((documents _ rfl).event _).mpr answer,
      ((windows .empty rfl).event _).mpr answer⟩
  · obtain ⟨answers, -, -, files, documents, windows⟩ :=
      answer_and_last_event options (.selectDir none none) ⟨torn, ""⟩
    obtain ⟨cause, reading⟩ := reading_torn
    have answer := (answers _).mpr reading
    exact ⟨cause, answer, ((files _).failure _).mpr answer,
      ((documents _ rfl).failure _).mpr answer, ((windows .empty rfl).failure _).mpr answer⟩

end Dialogs
