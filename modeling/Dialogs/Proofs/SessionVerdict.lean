import Dialogs.Proofs.SessionCourse

/-!
# The verdict of a session

When a session waits, it closes the input of the renderer, reads what is left of the output, and
passes judgement on the exit code. A failure is explained by the last remark in the whole text of
the output, without one mark of an error in front of it. It makes no difference which of the lines
were read by requests for events, and what these requests were answered.
-/

namespace Dialogs

namespace Session

/-- A remark without one mark of an error in front of it. -/
def unmarked (remark : String) : String :=
  match remark.toList with
  | 'E' :: 'R' :: 'R' :: 'O' :: 'R' :: ':' :: ' ' :: message => String.ofList message
  | _ => remark

/-- Why a renderer fails that has printed a text: its last remark, or nothing. -/
def explanation (text : String) : String := unmarked ((remarksOf text).getLast?.getD "")

variable {renderer : Renderer} {limit : Option Nat} {readsStdin : Bool} {session : Session}
  {answers : List Answer} {text : String} {closing : Nat}

/-- A remark is trimmed, and there is more than blanks in it. -/
theorem solid_of_remark? {line remark : String} (remarked : remark? line = some remark) :
    Text.trim remark = remark ∧ Text.isAllBlank remark = false := by
  simp only [remark?] at remarked
  split at remarked
  · cases remarked
  · rename_i kept
    obtain rfl := Option.some.inj remarked
    have solid : Text.isAllBlank line = false := by
      simp only [Bool.or_eq_true, not_or] at kept
      simpa using kept.2
    constructor
    · rw [Text.trim, Text.trim, String.toList_ofList, Text.trimChars_trimChars]
    · rw [Text.isAllBlank_trim, solid]

/-- The message in a trimmed text is the text without one mark of an error. -/
theorem messageOf_of_trimmed {remark : String} (trimmed : Text.trim remark = remark) :
    Behaviour.messageOf remark = unmarked remark := by
  have characters : Text.trimChars remark.toList = remark.toList := by
    have same := congrArg String.toList trimmed
    rwa [Text.trim, String.toList_ofList] at same
  simp only [Behaviour.messageOf, characters, unmarked]
  split
  · rename_i marked
    obtain ⟨message, spelled⟩ := List.isPrefixOf_iff_prefix.mp marked
    rw [← spelled]
    rfl
  · rename_i plain
    split
    · rename_i message spelled
      rw [spelled] at plain
      exact absurd rfl plain
    · exact String.ofList_toList

/-- A renderer that ends with a code and has left a note is judged by the code, and explained by the
note. -/
theorem verdict_of_note {code : Option Int} {note : Option String}
    (remarked : ∀ remark, note = some remark →
      Text.trim remark = remark ∧ Text.isAllBlank remark = false) :
    Behaviour.verdict code [note.getD ""] =
      if code = some 0 then .ok () else .error (.exit code (unmarked (note.getD ""))) := by
  rw [Behaviour.verdict]
  cases note with
  | none => rfl
  | some remark =>
    obtain ⟨trimmed, solid⟩ := remarked remark rfl
    simp [solid, messageOf_of_trimmed trimmed]

/-- Lines without faults are read at once, with their remarks. -/
theorem mapM_text {lines : List Line} (readable : ∀ line ∈ lines, ∃ text, line.text = .ok text) :
    ∃ texts, lines.mapM Line.text = .ok texts ∧
      texts.filterMap remark? = lines.filterMap Line.remark? := by
  induction lines with
  | nil => exact ⟨[], rfl, rfl⟩
  | cons line rest inductionHypothesis =>
    obtain ⟨text, read⟩ := readable line List.mem_cons_self
    obtain ⟨texts, others, same⟩ := inductionHypothesis fun found inside =>
      readable found (List.mem_cons_of_mem _ inside)
    refine ⟨text :: texts, ?_, ?_⟩
    · rw [List.mapM_cons, read, others]
      rfl
    · simp only [List.filterMap_cons, Line.remark?, read, same]

/-- Taking lines keeps the last remark in mind, and changes nothing else. -/
theorem takeAll_eq (texts : List String) (session : Session) :
    session.takeAll texts =
      { session with note := (texts.filterMap remark?).getLast?.or session.note } := by
  induction texts generalizing session with
  | nil => rfl
  | cons line rest inductionHypothesis =>
    have first : (if Event.isEventLine line then session else session.take line) =
        { session with note := (remark? line).or session.note } := by
      rw [Event.isEventLine_eq]
      by_cases opens : Event.opensObject line
      · simp [remark?, opens]
      · by_cases blank : Text.isAllBlank line <;> simp [remark?, take, opens, blank]
    rw [takeAll, List.foldl_cons, first]
    change takeAll _ rest = _
    rw [inductionHypothesis]
    cases remarked : remark? line <;>
      simp [remarked, List.getLast?_cons]

/-- What a renderer has been fed when its session waits. It reads no input, it has its document, or
its input is closed now without one. -/
inductive Fed (session : Session) : Feed → Prop where
  | absent (alone : session.feed = .absent) : Fed session .absent
  | handed {time : Nat} {document : String} (given : session.feed = .handed time document) :
    Fed session (.handed time document)
  | closed (awaited : session.feed = .awaited) : Fed session (.handed session.clock "")

/-- Hanging up leaves a renderer with what it has been fed in the end. -/
theorem fed_iff {feed : Feed} : session.Fed feed ↔ session.hangUp.feed = feed := by
  constructor
  · intro fed
    cases fed with
    | absent alone => simp only [hangUp, alone]
    | handed given => simp only [hangUp, given]
    | closed awaited => simp only [hangUp, awaited, feeding]
  · rintro rfl
    rw [hangUp]
    split
    case h_1 awaited => exact .closed awaited
    case h_2 alone => rw [alone]; exact .absent alone
    case h_3 given => rw [given]; exact .handed given

/-- What has been read is kept when the input is closed. -/
theorem Kept.hangUp (kept : session.Kept renderer limit) (causal : renderer.Causal) :
    session.hangUp.Kept renderer limit := by
  rw [Session.hangUp]
  split
  · rename_i awaited
    exact kept.feeding causal awaited ""
  all_goals exact kept

/-- From then on a renderer behaves as it does with what it has been fed. -/
theorem Fed.behaviour {feed : Feed} (fed : session.Fed feed) (kept : session.Kept renderer limit)
    (causal : renderer.Causal) : session.hangUp.behaviour = renderer feed := by
  rw [behaviour_eq, (kept.hangUp causal).renderer, fed_iff.mp fed]

/-- The lines of an output that spells a text can be read. -/
theorem readable_of_prints (prints : session.behaviour.Prints text closing) :
    ∀ line ∈ session.unread, ∃ text, line.text = .ok text := by
  have all : ∀ {lines : List Line} {texts : List (List Char)}, List.Forall₂ Line.Shows lines texts →
      ∀ line ∈ lines, ∃ text, line.text = .ok text := by
    intro lines texts shown
    induction shown with
    | nil => simp
    | cons first _ inductionHypothesis =>
      intro line inside
      rcases List.mem_cons.mp inside with rfl | later
      · obtain ⟨characters, read, -⟩ := first
        exact ⟨_, read⟩
      · exact inductionHypothesis line later
  exact fun line inside => all prints.lines_show line (List.mem_of_mem_drop inside)

/-- A session that waits, with the output and the end of the renderer in time, passes judgement when
it has taken all remarks that are left. -/
theorem wait_eq_verdict {ending : Ending} {texts : List String}
    (closed : session.hangUp.behaviour.closes = some closing)
    (ends : session.hangUp.behaviour.ending = some ending)
    (read : session.hangUp.unread.mapM Line.text = .ok texts)
    (inTime : ∀ expiry, session.hangUp.limit = some expiry →
      closing < expiry ∧ ending.time < expiry) :
    ∃ drained : Session, session.wait = some drained.verdict ∧
      drained.behaviour = session.hangUp.behaviour ∧
      drained.note = (texts.filterMap remark?).getLast?.or session.hangUp.note := by
  let drained : Session :=
    { session.hangUp.advance (max session.hangUp.clock closing) with
      note := (texts.filterMap remark?).getLast?.or session.hangUp.note }
  have outputOver : session.hangUp.await (some closing) =
      .until (max session.hangUp.clock closing) :=
    await_of_inTime fun expiry limited => (inTime expiry limited).1
  have endOver : drained.await (drained.behaviour.ending.map Ending.time) =
      .until (max drained.clock ending.time) := by
    have ended : drained.behaviour.ending = some ending := ends
    rw [ended, Option.map_some]
    exact await_of_inTime fun expiry limited => (inTime expiry limited).2
  refine ⟨drained, ?_, rfl, rfl⟩
  rw [wait]
  simp only [closed, outputOver, read, takeAll_eq]
  split
  · rename_i limit waited
    cases endOver.symm.trans waited
  · rename_i waited
    cases endOver.symm.trans waited
  · rfl

/-- The outcome of waiting does not depend on what was read before. Whatever has happened to a
session, its verdict is that on the exit code, and it is explained by the whole text that the
renderer prints with its document, or with its input closed, as long as the output and the end of
the renderer are in time.

Proof: the note is the last remark on the lines that have been read, also after the input has been
closed. Waiting takes the remarks on all other lines, so in the end the note is the last remark in
the text. -/
theorem wait_verdict {feed : Feed} {ending : Ending} (causal : renderer.Causal)
    (course : Course renderer limit readsStdin answers session) (fed : session.Fed feed)
    (prints : (renderer feed).Prints text closing)
    (ends : (renderer feed).ending = some ending)
    (inTime : ∀ expiry, limit = some expiry → closing < expiry ∧ ending.time < expiry) :
    session.wait = some (if ending.code = some 0 then .ok ()
      else .error (.exit ending.code (explanation text))) := by
  have kept : session.hangUp.Kept renderer limit := (course.kept causal).hangUp causal
  rw [← fed.behaviour (course.kept causal) causal] at prints ends
  obtain ⟨texts, read, same⟩ := mapM_text (readable_of_prints prints)
  have noted : (texts.filterMap remark?).getLast?.or session.hangUp.note =
      (remarksOf text).getLast? := by
    rw [same, kept.note, ← List.getLast?_append, ← List.filterMap_append, read_append_unread,
      prints.remarks]
  have remarked : ∀ remark, (remarksOf text).getLast? = some remark →
      Text.trim remark = remark ∧ Text.isAllBlank remark = false := by
    intro remark last
    obtain ⟨line, -, found⟩ := List.mem_filterMap.mp (List.mem_of_getLast? last)
    exact solid_of_remark? found
  rw [← kept.limit] at inTime
  obtain ⟨drained, judged, behaves, note⟩ := wait_eq_verdict prints.closed ends read inTime
  rw [judged, verdict, behaves, ends, Option.bind_some, note, noted, verdict_of_note remarked,
    explanation]

/-- What a renderer prints that fails when it has its document: why, and an event that is none. -/
def complaint : String := "ERROR: no such widget \r\n\n  \x7b\"type\"\r\n"

/-- A client has asked for the first event and reads nothing more. The renderer fails for a reason
that stands among the lines that were left. -/
theorem wait_verdict_greeter :
    ∃ answer session, Course (greeter greeting complaint (some 1)) (some 10) true [answer] session ∧
      session.wait = some (.error (.exit (some 1) "no such widget")) := by
  let renderer := greeter greeting complaint (some 1)
  have causal : renderer.Causal := causal_greeter _ _ _
  have opened : ((start renderer (some 10) true).next.any fun asked =>
      asked.2.feed == .awaited && asked.2.clock == 0) = true := by
    decide +kernel
  obtain ⟨⟨answer, session⟩, found, told⟩ := (Option.any_eq_true _ _).mp opened
  obtain ⟨awaited, early⟩ := (Bool.and_eq_true _ _).mp told
  have course : Course renderer (some 10) true [answer] session := .asked .started found
  have fed : session.Fed (.handed 0 "") := by
    have clock : session.clock = 0 := beq_iff_eq.mp early
    rw [← clock]
    exact .closed (beq_iff_eq.mp awaited)
  have prints : (renderer (.handed 0 "")).Prints (greeting ++ complaint) 0 :=
    prints_greeter _ _ _ _ _
  have ends : (renderer (.handed 0 "")).ending = some ⟨0, some 1⟩ := rfl
  have explained : explanation (greeting ++ complaint) = "no such widget" := by decide +kernel
  have judged := wait_verdict causal course fed prints ends (by simp)
  rw [explained] at judged
  exact ⟨answer, session, course, judged⟩

end Session

end Dialogs
