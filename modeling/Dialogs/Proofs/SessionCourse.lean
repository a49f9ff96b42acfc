import Dialogs.Proofs.SessionReading

/-!
# The course of a session

A session starts, hands over documents and asks for events, in any order. Whatever the order is, it
has read the first lines of the output that its renderer will have printed in the end: handing over
a document changes the lines that are still to come, and no other.

The renderer is any function from what it is fed to how it behaves, as long as it does not foresee
its document.
-/

namespace Dialogs.Session

/-- What can happen to a session before it waits, with the answers to its requests for events. -/
inductive Course (renderer : Renderer) (limit : Option Nat) (readsStdin : Bool) :
    List Answer → Session → Prop where
  | started : Course renderer limit readsStdin [] (start renderer limit readsStdin)
  | sent {answers : List Answer} {session after : Session} {window : Window}
      {result : Except Failure Unit} (before : Course renderer limit readsStdin answers session)
      (step : session.send window = some (result, after)) :
      Course renderer limit readsStdin answers after
  | sentJson {answers : List Answer} {session after : Session} {document : Json}
      {result : Except Failure Unit} (before : Course renderer limit readsStdin answers session)
      (step : session.sendJson document = some (result, after)) :
      Course renderer limit readsStdin answers after
  | asked {answers : List Answer} {session after : Session} {answer : Answer}
      (before : Course renderer limit readsStdin answers session)
      (step : session.next = some (answer, after)) :
      Course renderer limit readsStdin (answers ++ [answer]) after

/-- The lines that have been read. -/
def read (session : Session) : List Line := session.behaviour.lines.take session.consumed

/-- What has been read and what is unread is all of the output. -/
theorem read_append_unread (session : Session) :
    session.read ++ session.unread = session.behaviour.lines :=
  List.take_append_drop _ _

/-- What a session remembers: it counts complete lines that have come, and keeps the last remark. -/
structure Kept (renderer : Renderer) (limit : Option Nat) (session : Session) : Prop where
  renderer : session.renderer = renderer
  limit : session.limit = limit
  count : session.read.length = session.consumed
  complete : ∀ line ∈ session.read, line.time ≤ session.clock
  note : session.note = (session.read.filterMap Line.remark?).getLast?

/-- The answers that have been given: those on the lines that have been read, and, at the end of the
output, that there is no event. -/
def Answered (answers : List Answer) (session : Session) : Prop :=
  ∃ ended, answers = session.read.filterMap Line.answer? ++ List.replicate ended (.ok none) ∧
    (0 < ended → session.unread = [] ∧
      ∃ closing, session.behaviour.closes = some closing ∧ closing ≤ session.clock)

variable {renderer : Renderer} {limit : Option Nat} {readsStdin : Bool} {session after : Session}
  {answers : List Answer} {front rest : List Line}

/-- A session has read nothing at its start. -/
theorem kept_start : (start renderer limit readsStdin).Kept renderer limit := by
  constructor <;> simp [read, start]

/-- A session has answered nothing at its start. -/
theorem answered_start : Answered [] (start renderer limit readsStdin) :=
  ⟨0, by simp [read, start], by simp⟩

/-- Waiting changes neither what has been read nor what has been answered. -/
theorem Kept.advance (kept : session.Kept renderer limit) (time : Nat) :
    (session.advance time).Kept renderer limit where
  renderer := kept.renderer
  limit := kept.limit
  count := kept.count
  complete := fun line inside => Nat.le_trans (kept.complete line inside) (Nat.le_max_left _ _)
  note := kept.note

theorem Answered.advance (answered : Answered answers session) (time : Nat) :
    Answered answers (session.advance time) := by
  obtain ⟨ended, same, finished⟩ := answered
  refine ⟨ended, same, fun positive => ?_⟩
  obtain ⟨nothing, closing, closed, passed⟩ := finished positive
  exact ⟨nothing, closing, closed, Nat.le_trans passed (Nat.le_max_left _ _)⟩

/-! ## Reading -/

/-- Lines that are read follow those that were read before. -/
theorem Kept.read_eq (kept : session.Kept renderer limit) (unread : session.unread = front ++ rest)
    (reads : session.Reads front after) :
    after.read = session.read ++ front ∧ after.unread = rest := by
  have output : after.behaviour.lines = (session.read ++ front) ++ rest := by
    rw [reads.behaviour, ← session.read_append_unread, unread, List.append_assoc]
  have reached : after.consumed = (session.read ++ front).length := by
    rw [reads.consumed, List.length_append, kept.count]
  constructor
  · rw [Session.read, output, reached, List.take_left]
  · rw [Session.unread, output, reached, List.drop_left]

/-- Lines that are read are kept. -/
theorem Kept.reads (kept : session.Kept renderer limit) (unread : session.unread = front ++ rest)
    (reads : session.Reads front after) : after.Kept renderer limit := by
  obtain ⟨same, -⟩ := kept.read_eq unread reads
  constructor
  case renderer => exact reads.renderer.trans kept.renderer
  case limit => exact reads.limit.trans kept.limit
  case count => rw [same, List.length_append, kept.count, reads.consumed]
  case complete =>
    rw [same]
    intro line inside
    rcases List.mem_append.mp inside with before | behind
    · exact Nat.le_trans (kept.complete line before) reads.clock
    · exact reads.complete line behind
  case note =>
    rw [same, reads.note, kept.note, List.filterMap_append, List.getLast?_append]

/-- The answer to a request is the one on the lines that are read for it. When an answer has been
that the output is at its end, no line is left that could be read. -/
theorem Answered.reads {answer : Answer} (answered : Answered answers session)
    (kept : session.Kept renderer limit) (unread : session.unread = front ++ rest)
    (reads : session.Reads front after)
    (accounts : Accounts session.behaviour after.clock front rest answer)
    (punctual : ∀ expired, answer ≠ .error (.timeout expired)) :
    Answered (answers ++ [answer]) after := by
  obtain ⟨same, left⟩ := kept.read_eq unread reads
  obtain ⟨ended, rfl, finished⟩ := answered
  cases accounts with
  | line answers =>
    cases ended with
    | zero =>
      refine ⟨0, ?_, by simp⟩
      simp [same, answers]
    | succ ended =>
      obtain ⟨nothing, -⟩ := finished (Nat.succ_pos ended)
      rw [nothing] at unread
      obtain ⟨rfl, rfl⟩ := List.append_eq_nil_iff.mp unread.symm
      cases answers
  | ended silent nothing closed passed =>
    refine ⟨ended + 1, ?_, fun _ => ⟨left.trans nothing, _, ?_, passed⟩⟩
    · rw [same, List.filterMap_append, silent, List.append_nil, List.replicate_succ',
        List.append_assoc]
    · rw [reads.behaviour, closed]
  | expired silent => exact absurd rfl (punctual _)

/-! ## Handing over a document -/

/-- The behaviour of a renderer from the time when it is fed. -/
theorem behaviour_feeding (session : Session) (feed : Feed) :
    (session.feeding feed).behaviour = session.renderer feed := rfl

/-- Handing over a document does not change the lines that have been read. -/
theorem Kept.read_feeding (kept : session.Kept renderer limit) (causal : renderer.Causal)
    (awaited : session.feed = .awaited) (document : String) :
    (session.feeding (.handed session.clock document)).read = session.read := by
  have first : session.read <+: (renderer .awaited).lines := by
    rw [← awaited, ← kept.renderer, ← session.behaviour_eq]
    exact List.take_prefix _ _
  have still : session.read <+: (renderer (.handed session.clock document)).lines :=
    causal.prefix_lines first kept.complete
  have same := List.prefix_iff_eq_take.mp still
  rw [kept.count, ← kept.renderer] at same
  exact same.symm

/-- What has been read is kept when a document is handed over. -/
theorem Kept.feeding (kept : session.Kept renderer limit) (causal : renderer.Causal)
    (awaited : session.feed = .awaited) (document : String) :
    (session.feeding (.handed session.clock document)).Kept renderer limit := by
  have same := kept.read_feeding causal awaited document
  constructor
  case renderer => exact kept.renderer
  case limit => exact kept.limit
  case count => rw [same, kept.count]; rfl
  case complete => rw [same]; exact kept.complete
  case note => rw [same, ← kept.note]; rfl

/-- What has been answered stays true when a document is handed over: an output that is at its end
does not go on. -/
theorem Answered.feeding (answered : Answered answers session) (kept : session.Kept renderer limit)
    (causal : renderer.Causal) (awaited : session.feed = .awaited) (document : String) :
    Answered answers (session.feeding (.handed session.clock document)) := by
  obtain ⟨ended, rfl, finished⟩ := answered
  refine ⟨ended, by rw [kept.read_feeding causal awaited document], fun positive => ?_⟩
  obtain ⟨nothing, closing, closed, passed⟩ := finished positive
  have before : session.behaviour = renderer .awaited := by
    rw [session.behaviour_eq, kept.renderer, awaited]
  rw [before] at closed
  obtain ⟨sameOutput, sameEnd⟩ := causal.closed session.clock document closing closed passed
  have lines : (session.feeding (.handed session.clock document)).behaviour.lines =
      session.behaviour.lines := by
    rw [behaviour_feeding, kept.renderer, before, Behaviour.lines, Behaviour.lines, sameOutput,
      sameEnd, closed]
  refine ⟨?_, closing, ?_, passed⟩
  · rw [← nothing, Session.unread, lines]
    rfl
  · rw [behaviour_feeding, kept.renderer, sameEnd]

/-- What sending does to a session: nothing, or it hands over a document and waits. -/
inductive Sends (session : Session) : Session → Prop where
  | refused : Sends session session
  | handed (awaited : session.feed = .awaited) (document : String) (time : Nat) :
    Sends session ((session.feeding (.handed session.clock document)).advance time)

theorem sends_of_sendJson {document : Json} {result : Except Failure Unit}
    (step : session.sendJson document = some (result, after)) : session.Sends after := by
  rw [sendJson] at step
  split at step
  · rename_i awaited
    simp only at step
    split at step
    · obtain ⟨-, rfl⟩ := Prod.mk.inj (Option.some.inj step)
      exact .handed awaited _ _
    · obtain ⟨-, rfl⟩ := Prod.mk.inj (Option.some.inj step)
      exact .handed awaited _ _
    · cases step
  all_goals
    obtain ⟨-, rfl⟩ := Prod.mk.inj (Option.some.inj step)
    exact .refused

theorem sends_of_send {window : Window} {result : Except Failure Unit}
    (step : session.send window = some (result, after)) : session.Sends after := by
  rw [send] at step
  split at step
  · obtain ⟨-, rfl⟩ := Prod.mk.inj (Option.some.inj step)
    exact .refused
  · exact sends_of_sendJson step

/-- Sending keeps what has been read. -/
theorem Kept.sends (kept : session.Kept renderer limit) (causal : renderer.Causal)
    (sends : session.Sends after) : after.Kept renderer limit := by
  cases sends with
  | refused => exact kept
  | handed awaited document time => exact (kept.feeding causal awaited document).advance time

/-- Sending leaves all answers true. -/
theorem Answered.sends (answered : Answered answers session) (kept : session.Kept renderer limit)
    (causal : renderer.Causal) (sends : session.Sends after) : Answered answers after := by
  cases sends with
  | refused => exact answered
  | handed awaited document time =>
    exact (answered.feeding kept causal awaited document).advance time

/-! ## The whole course -/

/-- Whatever has happened to a session, it has kept what it has read. -/
theorem Course.kept (course : Course renderer limit readsStdin answers session)
    (causal : renderer.Causal) : session.Kept renderer limit := by
  induction course with
  | started => exact kept_start
  | sent _ step inductionHypothesis => exact inductionHypothesis.sends causal (sends_of_send step)
  | sentJson _ step inductionHypothesis =>
    exact inductionHypothesis.sends causal (sends_of_sendJson step)
  | asked _ step inductionHypothesis =>
    obtain ⟨front, rest, unread, reads, -⟩ := reads_of_readFrom step
    exact inductionHypothesis.reads unread reads

/-- Whatever has happened to a session, its answers are those on the lines that it has read, unless
the limit has expired before one of them. -/
theorem Course.answered (course : Course renderer limit readsStdin answers session)
    (causal : renderer.Causal) (punctual : ∀ expired, .error (.timeout expired) ∉ answers) :
    Answered answers session := by
  induction course with
  | started => exact answered_start
  | sent before step inductionHypothesis =>
    exact (inductionHypothesis punctual).sends (before.kept causal) causal (sends_of_send step)
  | sentJson before step inductionHypothesis =>
    exact (inductionHypothesis punctual).sends (before.kept causal) causal (sends_of_sendJson step)
  | asked before step inductionHypothesis =>
    obtain ⟨front, rest, unread, reads, accounts⟩ := reads_of_readFrom step
    have earlier : Answered _ _ := inductionHypothesis fun expired inside =>
      punctual expired (List.mem_append_left _ inside)
    refine earlier.reads (before.kept causal) unread reads accounts ?_
    rintro expired rfl
    exact punctual expired (List.mem_append_right _ (List.mem_singleton.mpr rfl))

/-! ## A renderer that does not foresee its document -/

/-- A text that arrives at a time. -/
def arriving (time : Nat) (text : String) : List Arrival :=
  text.toList.map fun c => ⟨time, .char c⟩

/-- A renderer that prints one text at once, and another when it has its document, and then ends. -/
def greeter (early late : String) (code : Option Int) : Renderer
  | .handed time _ =>
    { stdout := arriving 0 early ++ arriving time late, stderr := [], closes := some time
      ending := some ⟨time, code⟩, uptake := .taken time }
  | _ =>
    { stdout := arriving 0 early, stderr := [], closes := none, ending := none, uptake := .stuck }

theorem causal_greeter (early late : String) (code : Option Int) :
    (greeter early late code).Causal where
  chronological := by
    have together : ∀ time text, (arriving time text).Pairwise fun first second =>
        first.time ≤ second.time := by
      intro time text
      rw [arriving, List.pairwise_map]
      exact List.pairwise_of_forall fun _ _ => Nat.le_refl _
    have times : ∀ {time text arrival}, arrival ∈ arriving time text → arrival.time = time := by
      intro time text arrival inside
      obtain ⟨_, -, rfl⟩ := List.mem_map.mp inside
      rfl
    intro feed
    cases feed with
    | handed time document =>
      constructor
      · refine List.pairwise_append.mpr ⟨together _ _, together _ _, ?_⟩
        intro first inEarly second inLate
        rw [times inEarly, times inLate]
        exact Nat.zero_le _
      · intro closing closed arrival inside
        obtain rfl := Option.some.inj closed
        rcases List.mem_append.mp inside with inEarly | inLate
        · rw [times inEarly]
          exact Nat.zero_le _
        · rw [times inLate]
    | absent => exact ⟨together _ _, fun _ closed => nomatch closed⟩
    | awaited => exact ⟨together _ _, fun _ closed => nomatch closed⟩
  printed := fun _ _ => (List.takeWhile_prefix _).trans (List.prefix_append _ _)
  closed := fun _ _ _ closed => nomatch closed

theorem prints_greeter (early late : String) (code : Option Int) (time : Nat) (document : String) :
    (greeter early late code (.handed time document)).Prints (early ++ late) time where
  spelled := by
    simp only [greeter, arriving, List.map_append, List.map_map, Function.comp_def,
      String.toList_append]
  closed := rfl

/-- What a renderer prints before it has its document: an event. -/
def greeting : String := "\x7b\"type\":\"changed\",\"from\":\"name\"\x7d\n"

end Dialogs.Session
