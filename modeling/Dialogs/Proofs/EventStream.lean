import Dialogs.Proofs.SessionCourse
import Dialogs.Transcript

/-!
# Events as a stream and as a transcript

A client can ask for events while the renderer prints them, or read them from everything that has
been printed. Both are ways to the same events: a session hands out the answers in the text of the
output, one for each request and in their order, and then only that there are no more. A transcript
has the events of these answers, up to the first that is an error.

The two report the same error about the same line; the session keeps the blanks in front of it.
-/

namespace Dialogs

namespace Session

/-- The answer to a request in the course of a whole text, the first request being the zeroth. -/
def answerAt (text : String) (index : Nat) : Answer := ((answersOf text)[index]?).getD (.ok none)

/-- The answers that hand out events. -/
def handingOut (events : List Event) : List Answer := events.map fun event => .ok (some event)

/-- The answers to a number of further requests. -/
def nexts : Nat → Session → Option (List Answer × Session)
  | 0, session => some ([], session)
  | count + 1, session => do
    let (answer, after) ← session.next
    let (others, final) ← nexts count after
    return (answer :: others, final)

variable {renderer : Renderer} {limit : Option Nat} {readsStdin : Bool} {session : Session}
  {answers : List Answer} {text : String} {closing : Nat}

/-- The answers that have been given are the first in the text of the output. -/
theorem Answered.eq_answerAt (answered : Answered answers session)
    (prints : session.behaviour.Prints text closing) :
    answers = (List.range answers.length).map (answerAt text) := by
  obtain ⟨ended, rfl, finished⟩ := answered
  have whole : answersOf text =
      session.read.filterMap Line.answer? ++ session.unread.filterMap Line.answer? := by
    rw [← prints.answers, ← session.read_append_unread, List.filterMap_append]
  generalize session.read.filterMap Line.answer? = given at whole ⊢
  apply List.ext_getElem
  · simp
  · intro index inside _
    rw [List.getElem_map, List.getElem_range, answerAt, whole]
    by_cases early : index < given.length
    · simp [early, List.getElem?_append_left early]
    · have late : given.length ≤ index := Nat.le_of_not_lt early
      have positive : 0 < ended := by
        rw [List.length_append, List.length_replicate] at inside
        omega
      obtain ⟨nothing, -⟩ := finished positive
      simp [nothing, List.getElem_append_right late, List.getElem?_eq_none late]

/-- While the output is in time, a request for an event has an answer.

Proof: by induction on the lines that are left. None of them is waited for in vain, and neither is
the end of the output. -/
theorem readFrom_inTime {lines : List Line} {session : Session}
    (inTime : ∀ expiry, session.limit = some expiry → closing < expiry)
    (closed : session.behaviour.closes = some closing)
    (early : ∀ line ∈ lines, line.time ≤ closing) :
    ∃ answer after, readFrom lines session = some (answer, after) ∧
      ∀ expired, answer ≠ .error (.timeout expired) := by
  induction lines generalizing session with
  | nil =>
    rw [readFrom, closed, await_of_inTime inTime]
    exact ⟨_, _, rfl, by simp⟩
  | cons line rest inductionHypothesis =>
    have passed : line.time ≤ closing := early line List.mem_cons_self
    have lineInTime : ∀ expiry, session.limit = some expiry → line.time < expiry :=
      fun expiry limited => Nat.lt_of_le_of_lt passed (inTime expiry limited)
    rw [readFrom, await_of_inTime lineInTime]
    simp only
    split
    · exact ⟨_, _, rfl, by simp⟩
    · rename_i text read
      split
      · rename_i other
        have reads : session.Reads [line] (take { session.advance (max session.clock line.time) with
            consumed := session.consumed + 1 } text) :=
          reads_take (Nat.le_max_right _ _) read other
        refine inductionHypothesis ?_ ?_ fun found inside =>
          early found (List.mem_cons_of_mem _ inside)
        · rwa [reads.limit]
        · rw [reads.behaviour, closed]
      · exact ⟨_, _, rfl, by simp⟩
      · exact ⟨_, _, rfl, by simp⟩

/-- While the output is in time, a session that has kept what it has read, and has answered by it,
gives one more answer by it. -/
theorem next_inTime (kept : session.Kept renderer limit) (answered : Answered answers session)
    (prints : session.behaviour.Prints text closing) (order : session.behaviour.Chronological)
    (inTime : ∀ expiry, limit = some expiry → closing < expiry) :
    ∃ answer after, session.next = some (answer, after) ∧ after.behaviour = session.behaviour ∧
      after.Kept renderer limit ∧ Answered (answers ++ [answer]) after := by
  have early : ∀ line ∈ session.unread, line.time ≤ closing :=
    fun line inside => prints.time_le order (List.mem_of_mem_drop inside)
  rw [← kept.limit] at inTime
  obtain ⟨answer, after, found, punctual⟩ := readFrom_inTime inTime prints.closed early
  obtain ⟨front, rest, unread, reads, accounts⟩ := reads_of_readFrom found
  exact ⟨answer, after, found, reads.behaviour, kept.reads unread reads,
    answered.reads kept unread reads accounts punctual⟩

/-- While the output is in time, every number of further requests is answered by it. -/
theorem nexts_inTime (count : Nat) (kept : session.Kept renderer limit)
    (answered : Answered answers session) (prints : session.behaviour.Prints text closing)
    (order : session.behaviour.Chronological)
    (inTime : ∀ expiry, limit = some expiry → closing < expiry) :
    ∃ more final, session.nexts count = some (more, final) ∧ more.length = count ∧
      answers ++ more = (List.range (answers.length + count)).map (answerAt text) := by
  induction count generalizing session answers with
  | zero =>
    refine ⟨[], session, rfl, rfl, ?_⟩
    rw [List.append_nil, Nat.add_zero]
    exact answered.eq_answerAt prints
  | succ count inductionHypothesis =>
    obtain ⟨answer, after, found, same, keptAfter, answeredAfter⟩ :=
      next_inTime kept answered prints order inTime
    rw [← same] at prints order
    obtain ⟨more, final, others, length, total⟩ :=
      inductionHypothesis keptAfter answeredAfter prints order
    refine ⟨answer :: more, final, ?_, by rw [List.length_cons, length], ?_⟩
    · simp [nexts, found, others]
    · rw [List.append_cons, total, List.length_append, List.length_singleton, Nat.add_assoc,
        Nat.add_comm 1 count]

/-- Lines that are read as a transcript give the events that they give as answers, if all of these
are events. Otherwise the first that is none decides. -/
theorem eventsOfLines_eq (lines : List String) :
    (∃ events, lines.filterMap answer? = handingOut events ∧
      eventsOfLines lines = .ok events) ∨
    ∃ events output cause later,
      lines.filterMap answer? =
        handingOut events ++ .error (.undecodable output cause) :: later ∧
      eventsOfLines lines = .error (.undecodable (Text.trimStart output) cause) := by
  induction lines with
  | nil => exact .inl ⟨[], rfl, rfl⟩
  | cons line rest inductionHypothesis =>
    rw [eventsOfLines]
    cases found : Event.ofLine? line with
    | none =>
      have silent : answer? line = none := by simp [answer?_eq, found]
      simpa only [List.filterMap_cons, silent] using inductionHypothesis
    | some decoded =>
      cases decoded with
      | ok event =>
        have answer : answer? line = some (.ok (some event)) := by
          simp [answer?_eq, found]
        rw [List.filterMap_cons, answer]
        rcases inductionHypothesis with
          ⟨events, same, all⟩ | ⟨events, output, cause, later, same, all⟩
        · exact .inl ⟨event :: events, by rw [same]; rfl, by rw [all]; rfl⟩
        · exact .inr ⟨event :: events, output, cause, later, by rw [same]; rfl, by rw [all]; rfl⟩
      | error cause =>
        have answer : answer? line =
            some (.error (.undecodable (Text.trimEnd line) cause)) := by
          simp [answer?_eq, found]
        refine .inr ⟨[], Text.trimEnd line, cause, rest.filterMap answer?, ?_, ?_⟩
        · rw [List.filterMap_cons, answer]
          rfl
        · rw [Text.trimStart_trimEnd]

/-- A stream of events agrees with the transcript. At any time in the course of a session the
answers to its requests, those that have been given and every number of further ones, are the
answers in the text of the output in their order, and then that there are no more events. The events
of the transcript are those of the answers, if all of them are events; otherwise reading the
transcript fails as the first of them that is an error does, with the blanks in front of the line
trimmed. The renderer must not foresee its document, and nothing may be late.

Proof: what has been answered stands on the lines that have been read, which are the first lines of
the output, and each request goes on where the last has stopped. Line by line, the lines of the
output are those of the text. -/
theorem streamed_answers {renderer : Renderer} {limit : Option Nat} {readsStdin : Bool}
    {session : Session} {answers : List Answer} {text : String} {closing : Nat}
    (causal : renderer.Causal)
    (course : Course renderer limit readsStdin answers session)
    (punctual : ∀ expired, .error (.timeout expired) ∉ answers)
    (prints : session.behaviour.Prints text closing)
    (inTime : ∀ expiry, limit = some expiry → closing < expiry) :
    (∀ count, ∃ more final, session.nexts count = some (more, final) ∧ more.length = count ∧
      answers ++ more = (List.range (answers.length + count)).map (answerAt text)) ∧
    ((∃ events, answersOf text = handingOut events ∧
      eventsOf text = .ok events) ∨
    ∃ events output cause later,
      answersOf text =
        handingOut events ++ .error (.undecodable output cause) :: later ∧
      eventsOf text = .error (.undecodable (Text.trimStart output) cause)) := by
  constructor
  · intro count
    have kept := course.kept causal
    have order : session.behaviour.Chronological := by
      rw [session.behaviour_eq, kept.renderer]
      exact causal.chronological _
    exact nexts_inTime count kept (course.answered causal punctual) prints order inTime
  · exact eventsOfLines_eq (Text.lines text)

/-- What a renderer prints when it has its document: a remark, an event that is none, and a last
event on a line without a break. -/
def farewell : String :=
  "saved\r\n  \x7b\"type\"\r\n\x7b\"type\":\"clicked\",\"from\":\"ok\"\x7d"

/-- A client asks for the first event before it hands over the document, and for four more behind
it: a line that is no event, the last event, and twice nothing. The transcript has no events. -/
theorem streamed_answers_greeter :
    ∃ answer session,
      Course (greeter greeting farewell (some 0)) (some 10) true [answer] session ∧
      (∃ more final, session.nexts 4 = some (more, final) ∧ more.length = 4 ∧
        answer :: more = (List.range 5).map (answerAt (greeting ++ farewell))) ∧
      (answersOf (greeting ++ farewell)).length = 3 ∧
      ∃ output cause,
        eventsOf (greeting ++ farewell) = .error (.undecodable (Text.trimStart output) cause) := by
  let renderer := greeter greeting farewell (some 0)
  have causal : renderer.Causal := causal_greeter _ _ _
  have exchanged : ((start renderer (some 10) true).next.any fun asked =>
      asked.1.toOption.join.isSome &&
        (asked.2.sendJson .null).any fun sent => sent.2.feed == .handed 0 "null\n") = true := by
    decide +kernel
  obtain ⟨⟨answer, asked⟩, found, told⟩ := (Option.any_eq_true _ _).mp exchanged
  obtain ⟨event, handed⟩ := (Bool.and_eq_true _ _).mp told
  obtain ⟨⟨result, session⟩, sent, fed⟩ := (Option.any_eq_true _ _).mp handed
  have course : Course renderer (some 10) true [answer] session :=
    .sentJson (.asked .started found) sent
  have punctual : ∀ expired, .error (.timeout expired) ∉ [answer] := by
    intro expired inside
    obtain rfl := List.mem_singleton.mp inside
    simp [Except.toOption] at event
  have prints : session.behaviour.Prints (greeting ++ farewell) 0 := by
    rw [session.behaviour_eq, (course.kept causal).renderer, beq_iff_eq.mp fed]
    exact prints_greeter _ _ _ _ _
  obtain ⟨streamed, transcript⟩ :=
    streamed_answers causal course punctual prints (by simp)
  refine ⟨answer, session, course, ?_, by decide +kernel, ?_⟩
  · obtain ⟨more, final, asked, length, all⟩ := streamed 4
    exact ⟨more, final, asked, length, all⟩
  · have spoilt : (eventsOf (greeting ++ farewell)).isOk = false := by decide +kernel
    rcases transcript with ⟨events, -, read⟩ | ⟨events, output, cause, later, -, read⟩
    · rw [read] at spoilt
      cases spoilt
    · exact ⟨output, cause, read⟩

end Session

end Dialogs
