import Mathlib.Data.List.Forall2
import Dialogs.Proofs.EventLines
import Dialogs.Proofs.OutputLines
import Dialogs.Session

/-!
# What a session has read

A session reads the lines of the output in order, each once. A line either answers a request for an
event or is a remark: the event that it holds, or the reason why it holds none, is handed out, and
of the remarks the last is kept in mind. Blank lines are neither.

Handing over the document changes how the renderer goes on, but not the lines that have been read.
So at any time they are the first lines of the output, and the note is the last remark among them.
-/

namespace Dialogs

namespace Session

/-- What a request for an event can be answered with. -/
abbrev Answer := Except Failure (Option Event)

/-- The answer on a line, if it is an event line. -/
def answer? (line : String) : Option Answer :=
  if Event.opensObject line then
    match Event.spelled line with
    | .ok event => some (.ok (some event))
    | .error cause => some (.error (.undecodable (Text.trimEnd line) cause))
  else none

/-- The remark on a line, if it is neither blank nor an event line. -/
def remark? (line : String) : Option String :=
  if Event.opensObject line || Text.isAllBlank line then none else some (Text.trim line)

/-- The answer on a line hands out what is read from it. -/
theorem answer?_eq (line : String) :
    answer? line =
      match Event.ofLine? line with
      | none => none
      | some (.ok event) => some (.ok (some event))
      | some (.error cause) => some (.error (.undecodable (Text.trimEnd line) cause)) := by
  rw [answer?, Event.ofLine?_eq]
  cases Event.opensObject line with
  | false => rfl
  | true => cases Event.spelled line <;> rfl

end Session

namespace Line

/-- The answer on a line of output. A line that cannot be read is one as well. -/
def answer? (line : Line) : Option Session.Answer :=
  match line.text with
  | .ok text => Session.answer? text
  | .error cause => some (.error (.pipe cause))

/-- The remark on a line of output. -/
def remark? (line : Line) : Option String :=
  match line.text with
  | .ok text => Session.remark? text
  | .error _ => none

/-- A line has the text that it shows, except for blanks at the end. -/
theorem Shows.read {line : Line} {characters : List Char} (shows : line.Shows characters) :
    ∃ text, line.text = .ok text ∧ Text.trim text = Text.trim (String.ofList characters) ∧
      Text.trimEnd text = Text.trimEnd (String.ofList characters) := by
  obtain ⟨shown, read, same⟩ := shows
  have blank : Text.isBlank '\r' = true := by decide
  refine ⟨String.ofList shown, read, ?_⟩
  rcases same with rfl | rfl
  · exact ⟨rfl, rfl⟩
  · simp only [Text.trim, Text.trimEnd, String.toList_ofList, Text.trimChars_concat blank,
      Text.trimEndChars_concat blank, and_self]

/-- A line answers what the line of the text answers that it shows. -/
theorem Shows.answer? {line : Line} {characters : List Char} (shows : line.Shows characters) :
    line.answer? = Session.answer? (String.ofList characters) := by
  obtain ⟨text, read, trimmed, cut⟩ := shows.read
  rw [Line.answer?, read]
  simp only [Session.answer?, Event.opensObject_congr trimmed, Event.spelled_congr trimmed, cut]

/-- A line remarks what the line of the text remarks that it shows. -/
theorem Shows.remark? {line : Line} {characters : List Char} (shows : line.Shows characters) :
    line.remark? = Session.remark? (String.ofList characters) := by
  obtain ⟨text, read, trimmed, -⟩ := shows.read
  have blank : Text.isAllBlank text = Text.isAllBlank (String.ofList characters) := by
    rw [← Text.isAllBlank_trim, trimmed, Text.isAllBlank_trim]
  rw [Line.remark?, read]
  simp only [Session.remark?, Event.opensObject_congr trimmed, trimmed, blank]

/-- Lists whose elements give the same in pairs give the same. -/
theorem filterMap_eq_of_forall₂ {α β γ : Type} {first : α → Option γ} {second : β → Option γ}
    {left : List α} {right : List β}
    (same : List.Forall₂ (fun a b => first a = second b) left right) :
    left.filterMap first = right.filterMap second := by
  induction same with
  | nil => rfl
  | cons head _ inductionHypothesis =>
    simp only [List.filterMap_cons, head, inductionHypothesis]

end Line

namespace Session

/-- The answers in a text: one for each of its event lines. -/
def answersOf (text : String) : List Answer := (Text.lines text).filterMap answer?

/-- The remarks in a text: one for each of its lines that is neither blank nor an event line. -/
def remarksOf (text : String) : List String := (Text.lines text).filterMap remark?

end Session

namespace Behaviour

variable {behaviour : Behaviour} {text : String} {closing : Nat}

/-- The answers on the lines of an output are those in its text. -/
theorem Prints.answers (prints : behaviour.Prints text closing) :
    behaviour.lines.filterMap Line.answer? = Session.answersOf text := by
  have same : List.Forall₂
      (fun line characters => line.answer? = Session.answer? (String.ofList characters))
      behaviour.lines (Text.linesFrom [] text.toList) :=
    .imp (fun _ _ shows => shows.answer?) prints.lines_show
  rw [Line.filterMap_eq_of_forall₂ same, Session.answersOf, Text.lines, List.filterMap_map,
    Function.comp_def]

/-- The remarks on the lines of an output are those in its text. -/
theorem Prints.remarks (prints : behaviour.Prints text closing) :
    behaviour.lines.filterMap Line.remark? = Session.remarksOf text := by
  have same : List.Forall₂
      (fun line characters => line.remark? = Session.remark? (String.ofList characters))
      behaviour.lines (Text.linesFrom [] text.toList) :=
    .imp (fun _ _ shows => shows.remark?) prints.lines_show
  rw [Line.filterMap_eq_of_forall₂ same, Session.remarksOf, Text.lines, List.filterMap_map,
    Function.comp_def]

end Behaviour

namespace Session

/-- A line on which something is read is no remark. -/
theorem remark?_of_ofLine {line : String} {found : Except Json.Error Event}
    (meant : Event.ofLine? line = some found) : remark? line = none := by
  have opens : Event.opensObject line = true := by
    by_contra other
    simp [Event.ofLine?_eq, other] at meant
  simp [remark?, opens]

/-- Waiting is over when what was waited for has happened. -/
theorem happened_of_await {session : Session} {moment : Option Nat} {time : Nat}
    (waited : session.await moment = .until time) :
    ∃ happened, moment = some happened ∧ happened ≤ time := by
  cases moment with
  | none =>
    simp only [await] at waited
    split at waited <;> simp at waited
  | some happened =>
    have latest : time = max session.clock happened := by
      simp only [await] at waited
      split at waited
      · exact (Wait.until.inj waited).symm
      · split at waited
        · exact (Wait.until.inj waited).symm
        · cases waited
    subst latest
    exact ⟨happened, rfl, Nat.le_max_right _ _⟩

/-- What happens in time is not waited for in vain. -/
theorem await_of_inTime {session : Session} {happens : Nat}
    (inTime : ∀ limit, session.limit = some limit → happens < limit) :
    session.await (some happens) = .until (max session.clock happens) := by
  simp only [await]
  split
  · rfl
  · rename_i limit limited
    rw [if_pos (inTime limit limited)]

/-- One session comes from another by reading lines. -/
structure Reads (session : Session) (lines : List Line) (after : Session) : Prop where
  renderer : after.renderer = session.renderer
  limit : after.limit = session.limit
  feed : after.feed = session.feed
  consumed : after.consumed = session.consumed + lines.length
  clock : session.clock ≤ after.clock
  complete : ∀ line ∈ lines, line.time ≤ after.clock
  note : after.note = (lines.filterMap Line.remark?).getLast?.or session.note

/-- Waiting reads nothing. -/
theorem reads_advance (session : Session) (time : Nat) :
    session.Reads [] (session.advance time) where
  renderer := rfl
  limit := rfl
  feed := rfl
  consumed := rfl
  clock := Nat.le_max_left _ _
  complete := by simp
  note := rfl

/-- Lines are read one after the other. -/
theorem Reads.trans {first second third : Session} {front back : List Line}
    (early : first.Reads front second) (late : second.Reads back third) :
    first.Reads (front ++ back) third where
  renderer := late.renderer.trans early.renderer
  limit := late.limit.trans early.limit
  feed := late.feed.trans early.feed
  consumed := by
    rw [late.consumed, early.consumed, List.length_append, Nat.add_assoc]
  clock := Nat.le_trans early.clock late.clock
  complete := by
    intro line inside
    rcases List.mem_append.mp inside with before | behind
    · exact Nat.le_trans (early.complete line before) late.clock
    · exact late.complete line behind
  note := by
    rw [late.note, early.note, List.filterMap_append, List.getLast?_append, Option.or_assoc]

/-- Reading does not change how the renderer behaves. -/
theorem Reads.behaviour {session after : Session} {lines : List Line}
    (reads : session.Reads lines after) : after.behaviour = session.behaviour := by
  rw [after.behaviour_eq, session.behaviour_eq, reads.renderer, reads.feed]

/-- Reading a line takes it into account, and keeps its remark in mind if there is one. -/
theorem reads_line {session : Session} {line : Line} {time : Nat} {note : Option String}
    (passed : line.time ≤ time) (noted : note = line.remark?.or session.note) :
    session.Reads [line]
      { session.advance time with consumed := session.consumed + 1, note } where
  renderer := rfl
  limit := rfl
  feed := rfl
  consumed := rfl
  clock := Nat.le_max_left _ _
  complete := by
    intro found inside
    obtain rfl := List.mem_singleton.mp inside
    exact Nat.le_trans passed (Nat.le_max_right _ _)
  note := by
    rw [noted]
    cases remarked : line.remark? <;> simp [remarked]

/-- Reading a line that is no event takes its remark. -/
theorem reads_take {session : Session} {line : Line} {time : Nat} {text : String}
    (passed : line.time ≤ time) (read : line.text = .ok text)
    (other : Event.ofLine? text = none) :
    session.Reads [line]
      (take { session.advance time with consumed := session.consumed + 1 } text) := by
  have plain : Event.opensObject text = false := by
    simpa [Event.ofLine?_eq] using other
  unfold take
  split
  · rename_i blank
    refine reads_line passed ?_
    simp [Line.remark?, read, remark?, blank, advance]
  · rename_i solid
    refine reads_line passed ?_
    simp [Line.remark?, read, remark?, plain, solid]

/-- What an answer has to do with the lines that were read for it and those that are left: it is the
only one on the lines that were read, or there is none on them because the output is at its end or
the limit has expired. -/
inductive Accounts (behaviour : Behaviour) (clock : Nat) (read rest : List Line) :
    Answer → Prop where
  | line {answer : Answer} (answered : read.filterMap Line.answer? = [answer]) :
    Accounts behaviour clock read rest answer
  | ended {closing : Nat} (silent : read.filterMap Line.answer? = []) (finished : rest = [])
    (closed : behaviour.closes = some closing) (passed : closing ≤ clock) :
    Accounts behaviour clock read rest (.ok none)
  | expired {limit : Nat} (silent : read.filterMap Line.answer? = []) :
    Accounts behaviour clock read rest (.error (.timeout limit))

/-- A line without an answer that is read in front makes no difference. -/
theorem Accounts.behind {behaviour : Behaviour} {clock : Nat} {read rest : List Line} {line : Line}
    {answer : Answer} (accounts : Accounts behaviour clock read rest answer)
    (silent : line.answer? = none) : Accounts behaviour clock (line :: read) rest answer := by
  have skipped : (line :: read).filterMap Line.answer? = read.filterMap Line.answer? := by
    rw [List.filterMap_cons, silent]
  cases accounts with
  | line answered => exact .line (skipped.trans answered)
  | ended quiet finished closed passed => exact .ended (skipped.trans quiet) finished closed passed
  | expired quiet => exact .expired (skipped.trans quiet)

/-- A request for an event reads lines up to the first that answers it.

Proof: by induction on the lines that are left. A line that is no event is read, and the request
goes on behind it; every other line, the end of the output and the limit answer the request. -/
theorem reads_of_readFrom {lines : List Line} {session after : Session} {answer : Answer}
    (answered : readFrom lines session = some (answer, after)) :
    ∃ front rest, lines = front ++ rest ∧ session.Reads front after ∧
      Accounts session.behaviour after.clock front rest answer := by
  induction lines generalizing session with
  | nil =>
    rw [readFrom] at answered
    refine ⟨[], [], rfl, ?_⟩
    split at answered
    · rename_i time waited
      obtain ⟨rfl, rfl⟩ := Prod.mk.inj (Option.some.inj answered)
      obtain ⟨closing, closed, passed⟩ := happened_of_await waited
      exact ⟨reads_advance session time, .ended rfl rfl closed
        (Nat.le_trans passed (Nat.le_max_right _ _))⟩
    · obtain ⟨rfl, rfl⟩ := Prod.mk.inj (Option.some.inj answered)
      exact ⟨reads_advance session _, .expired rfl⟩
    · cases answered
  | cons line rest inductionHypothesis =>
    rw [readFrom] at answered
    split at answered
    · obtain ⟨rfl, rfl⟩ := Prod.mk.inj (Option.some.inj answered)
      exact ⟨[], line :: rest, rfl, reads_advance session _, .expired rfl⟩
    · cases answered
    · rename_i time waited
      obtain ⟨happened, same, passed⟩ := happened_of_await waited
      obtain rfl := Option.some.inj same
      simp only at answered
      split at answered
      · rename_i cause faulty
        obtain ⟨rfl, rfl⟩ := Prod.mk.inj (Option.some.inj answered)
        refine ⟨[line], rest, rfl, reads_line passed ?_, .line ?_⟩
        · simp [Line.remark?, faulty, advance]
        · simp [Line.answer?, faulty]
      · rename_i text read
        split at answered
        · rename_i other
          obtain ⟨front, left, rfl, reads, accounts⟩ := inductionHypothesis answered
          have first : session.Reads [line]
              (take { session.advance time with consumed := session.consumed + 1 } text) :=
            reads_take passed read other
          have silent : line.answer? = none := by
            simp [Line.answer?, read, answer?_eq, other]
          rw [first.behaviour] at accounts
          exact ⟨line :: front, left, rfl, first.trans reads, accounts.behind silent⟩
        · rename_i event found
          obtain ⟨rfl, rfl⟩ := Prod.mk.inj (Option.some.inj answered)
          refine ⟨[line], rest, rfl, reads_line passed ?_, .line ?_⟩
          · simp [Line.remark?, read, remark?_of_ofLine found, advance]
          · simp [Line.answer?, read, answer?_eq, found]
        · rename_i cause found
          obtain ⟨rfl, rfl⟩ := Prod.mk.inj (Option.some.inj answered)
          refine ⟨[line], rest, rfl, reads_line passed ?_, .line ?_⟩
          · simp [Line.remark?, read, remark?_of_ofLine found, advance]
          · simp [Line.answer?, read, answer?_eq, found]

end Session

end Dialogs
