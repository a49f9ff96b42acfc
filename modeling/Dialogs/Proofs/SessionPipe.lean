import Dialogs.Proofs.SessionReading

/-!
# The pipe of a session

A session can hand over one document, and only to a renderer that reads one. Whatever is asked of it
before, the first document goes into the pipe as one line of compact text, and the pipe is used up
then, whether the renderer takes the line, refuses it, fails to be written to, or leaves the session
waiting until the limit. A window that is not valid is refused before the pipe is looked at.

What has been written is read off the feed of the renderer, which is all that it ever finds on its
input. Closing the pipe without a document, as waiting for the end does, is not a request.
-/

namespace Dialogs

/-- What has been written to a renderer. -/
def Feed.written? : Feed → Option String
  | .handed _ text => some text
  | .absent | .awaited => none

namespace Session

/-- What can be asked of a session before it waits for the end. -/
inductive Request where
  | send (window : Window)
  | sendJson (document : Json)
  | next

/-- What comes of a request: a document was to be handed over, or an event was asked for. -/
inductive Outcome where
  | handed (result : Except Failure Unit)
  | answered (answer : Answer)

/-- The document that a request is to hand over. A window that is not valid has none. -/
def Request.document? : Request → Option Json
  | .send window =>
    match window.validate with
    | .ok () => some window.toDocument.json
    | .error _ => none
  | .sendJson document => some document
  | .next => none

/-- The line in which a document is handed over. -/
def documentLine (document : Json) : String := document.compact ++ "\n"

/-- Makes a request. There is nothing of it if it waits for ever. -/
def perform (session : Session) : Request → Option (Outcome × Session)
  | .send window => (session.send window).map fun (result, after) => (.handed result, after)
  | .sendJson document =>
    (session.sendJson document).map fun (result, after) => (.handed result, after)
  | .next => session.next.map fun (answer, after) => (.answered answer, after)

/-- Makes requests one after the other. -/
def performAll (session : Session) : List Request → Option (List Outcome × Session)
  | [] => some ([], session)
  | request :: rest => do
    let (outcome, after) ← session.perform request
    let (others, final) ← after.performAll rest
    return (outcome :: others, final)

/-- The first document that requests are to hand over. -/
def firstDocument? (requests : List Request) : Option Json := requests.findSome? Request.document?

/-- What comes of writing to a renderer under a limit, by what becomes of the document. A renderer
that does not want it is no failure; one that takes too long is. -/
inductive Writes (limit : Option Nat) : Uptake → Except Failure Unit → Prop where
  | taken {time : Nat} (inTime : ∀ expiry, limit = some expiry → time < expiry) :
    Writes limit (.taken time) (.ok ())
  | refused {time : Nat} (inTime : ∀ expiry, limit = some expiry → time < expiry) :
    Writes limit (.refused time) (.ok ())
  | failed {time : Nat} {cause : PipeError}
    (inTime : ∀ expiry, limit = some expiry → time < expiry) :
    Writes limit (.failed time cause) (.error (.pipe cause))
  | expired {uptake : Uptake} {expiry : Nat} (limited : limit = some expiry)
    (late : ∀ time, uptake.time? = some time → expiry ≤ time) :
    Writes limit uptake (.error (.timeout expiry))

/-- What it is to hand over a line: the renderer finds it on its input, and the pipe is used up with
whatever comes of writing. Only an unlimited session may have to wait for ever. -/
inductive HandsOver (session : Session) (request : Request) (line : String) : Prop where
  | returns {result : Except Failure Unit} {after : Session}
    (performed : session.perform request = some (.handed result, after))
    (used : after.feed = .handed session.clock line)
    (writes : Writes session.limit (session.renderer (.handed session.clock line)).uptake result)
  | waits (performed : session.perform request = none)
    (full : (session.renderer (.handed session.clock line)).uptake = .stuck)
    (unlimited : session.limit = none)

/-! ## One request -/

variable {renderer : Renderer} {limit : Option Nat} {readsStdin : Bool} {session after : Session}
  {requests : List Request} {request : Request} {outcome : Outcome} {document : Json}

/-- A request with a document hands it over as the document alone is handed over. -/
theorem perform_of_document (asks : request.document? = some document) :
    session.perform request =
      (session.sendJson document).map fun (result, after) => (.handed result, after) := by
  cases request with
  | send window =>
    simp only [Request.document?] at asks
    split at asks
    · rename_i valid
      obtain rfl := Option.some.inj asks
      simp only [perform, send, valid]
    · cases asks
  | sendJson found =>
    obtain rfl := Option.some.inj asks
    rfl
  | next => cases asks

/-- A request without a document asks for an event, or is the one to show a window that is not
valid. -/
theorem feed_of_no_document (silent : request.document? = none)
    (performed : session.perform request = some (outcome, after)) : after.feed = session.feed := by
  cases request with
  | send window =>
    simp only [Request.document?] at silent
    split at silent
    · cases silent
    · rename_i error invalid
      simp only [perform, send, invalid, Option.map_some, Option.some.injEq, Prod.mk.injEq]
        at performed
      obtain ⟨-, rfl⟩ := performed
      rfl
  | sendJson document => cases silent
  | next =>
    obtain ⟨⟨answer, after⟩, asked, same⟩ := Option.map_eq_some_iff.mp performed
    obtain ⟨-, rfl⟩ := Prod.mk.inj same
    obtain ⟨front, rest, -, reads, -⟩ := reads_of_readFrom asked
    exact reads.feed

/-- Without a pipe there is nothing to write to, and nothing happens. -/
theorem sendJson_of_used (used : session.feed ≠ .awaited) :
    session.sendJson document = some (.error (.missingPipe "stdin"), session) := by
  rw [sendJson]
  split
  · rename_i awaited
    exact absurd awaited used
  all_goals rfl

/-- Writing comes to an end by what becomes of the document, or by the limit. -/
theorem await_cases (session : Session) (uptake : Uptake) :
    (∃ time, session.await uptake.time? = .until time ∧ Writes session.limit uptake uptake.result) ∨
      (∃ expiry, session.await uptake.time? = .expired expiry ∧
        Writes session.limit uptake (.error (.timeout expiry))) ∨
      (session.await uptake.time? = .forever ∧ uptake = .stuck ∧ session.limit = none) := by
  have settled : ∀ time, uptake.time? = some time →
      (∀ expiry, session.limit = some expiry → time < expiry) →
        Writes session.limit uptake uptake.result := by
    intro time done inTime
    cases uptake with
    | stuck => cases done
    | taken | refused | failed =>
      obtain rfl := Option.some.inj done
      first
        | exact .taken inTime
        | exact .refused inTime
        | exact .failed inTime
  cases done : uptake.time? with
  | none =>
    have stuck : uptake = .stuck := by cases uptake <;> simp [Uptake.time?] at done ⊢
    cases limited : session.limit with
    | none => exact .inr (.inr ⟨by simp [await, limited], stuck, rfl⟩)
    | some expiry =>
      refine .inr (.inl ⟨expiry, by simp [await, limited], .expired rfl ?_⟩)
      simp [done]
  | some time =>
    by_cases inTime : ∀ expiry, session.limit = some expiry → time < expiry
    · exact .inl ⟨_, await_of_inTime inTime, settled time done inTime⟩
    · push Not at inTime
      obtain ⟨expiry, limited, late⟩ := inTime
      refine .inr (.inl ⟨expiry, ?_, .expired limited ?_⟩)
      · simp [await, limited, Nat.not_lt.mpr late]
      · intro moment same
        obtain rfl := Option.some.inj (done.symm.trans same)
        exact late

/-- A document that is handed over through the pipe uses it up. -/
theorem handsOver_of_awaited (asks : request.document? = some document)
    (awaited : session.feed = .awaited) : session.HandsOver request (documentLine document) := by
  let fed := session.feeding (.handed session.clock (document.compact ++ "\n"))
  rcases await_cases fed fed.behaviour.uptake with
    ⟨time, waited, writes⟩ | ⟨expiry, waited, writes⟩ | ⟨waited, full, unlimited⟩
  · have returned : session.perform request =
        some (.handed fed.behaviour.uptake.result, fed.advance time) := by
      rw [perform_of_document asks, sendJson, awaited]
      simp only [fed, waited, Option.map_some]
    exact .returns returned rfl writes
  · have returned : session.perform request =
        some (.handed (.error (.timeout expiry)), fed.advance expiry) := by
      rw [perform_of_document asks, sendJson, awaited]
      simp only [fed, waited, Option.map_some]
    exact .returns returned rfl writes
  · refine .waits ?_ full unlimited
    rw [perform_of_document asks, sendJson, awaited]
    simp only [fed, waited, Option.map_none]

/-! ## All requests -/

/-- What the pipe of a session has to do with the requests that have been made: it is there as long
as no document has been handed over, if the renderer reads one, and the first document is all that
has been written. -/
structure Piped (readsStdin : Bool) (requests : List Request) (session : Session) : Prop where
  awaited : session.feed = .awaited ↔ readsStdin = true ∧ firstDocument? requests = none
  written : session.feed.written? =
    if readsStdin then (firstDocument? requests).map documentLine else none

/-- No request has been made at the start. -/
theorem piped_start : (start renderer limit readsStdin).Piped readsStdin [] := by
  cases readsStdin <;> constructor <;> simp [start, firstDocument?, Feed.written?]

/-- One more request keeps the pipe and the requests together.

Proof: only a request with a document does anything to the pipe, and only if the pipe is there. Then
it is the first with a document. -/
theorem Piped.step (piped : session.Piped readsStdin requests)
    (performed : session.perform request = some (outcome, after)) :
    after.Piped readsStdin (requests ++ [request]) := by
  have first : firstDocument? (requests ++ [request]) =
      (firstDocument? requests).or request.document? := by
    simp [firstDocument?, List.findSome?_append]
  cases asks : request.document? with
  | none =>
    have same := feed_of_no_document asks performed
    rw [asks, Option.or_none] at first
    exact ⟨by rw [same, first]; exact piped.awaited, by rw [same, first]; exact piped.written⟩
  | some document =>
    by_cases awaited : session.feed = .awaited
    · obtain ⟨reads, fresh⟩ := piped.awaited.mp awaited
      rw [asks, fresh, Option.none_or] at first
      cases handsOver_of_awaited asks awaited with
      | waits waited => cases waited.symm.trans performed
      | returns returned used =>
        obtain ⟨-, rfl⟩ := Prod.mk.inj (Option.some.inj (returned.symm.trans performed))
        constructor
        · simp [used, first]
        · simp [used, first, reads, Feed.written?]
    · rw [perform_of_document asks, sendJson_of_used awaited] at performed
      obtain ⟨-, rfl⟩ := Prod.mk.inj (Option.some.inj performed)
      have later : readsStdin = true →
          firstDocument? (requests ++ [request]) = firstDocument? requests := by
        intro reads
        obtain ⟨earlier, found⟩ := Option.ne_none_iff_exists'.mp
          fun none => awaited (piped.awaited.mpr ⟨reads, none⟩)
        rw [first, found, Option.some_or]
      cases readsStdin with
      | false => exact ⟨by simpa using piped.awaited, by simpa using piped.written⟩
      | true => exact ⟨by rw [later rfl]; exact piped.awaited, by rw [later rfl]; exact piped.written⟩

/-- Every number of further requests keeps them together. -/
theorem Piped.performAll {others : List Request} {outcomes : List Outcome} {final : Session}
    (piped : session.Piped readsStdin requests)
    (performed : session.performAll others = some (outcomes, final)) :
    final.Piped readsStdin (requests ++ others) := by
  induction others generalizing requests session outcomes with
  | nil =>
    obtain ⟨-, rfl⟩ := Prod.mk.inj (Option.some.inj performed)
    rwa [List.append_nil]
  | cons request rest inductionHypothesis =>
    rw [Session.performAll] at performed
    obtain ⟨⟨outcome, after⟩, first, performed⟩ := Option.bind_eq_some_iff.mp performed
    obtain ⟨⟨later, last⟩, others, same⟩ := Option.bind_eq_some_iff.mp performed
    obtain ⟨-, rfl⟩ := Prod.mk.inj (Option.some.inj same)
    rw [List.append_cons]
    exact inductionHypothesis (piped.step first) others

/-- A session writes at most one document. After any requests, what has been written is the line of
the first of their documents, if the mode of the renderer reads one, and nothing otherwise. Of what
is asked then, a window that is not valid is refused, and the session is left as it is. A document
is handed over if it is the first and the mode reads it; otherwise the pipe is missing, and the
session is left as it is. To ask for an event writes nothing.

Proof: with each request the pipe is there as long as there was no document, and the first one is
what has been written. -/
theorem one_document {renderer : Renderer} {limit : Option Nat} {command : Command}
    {requests : List Request} {outcomes : List Outcome} {session : Session}
    (made : (start renderer limit command.readsStdin).performAll requests =
      some (outcomes, session)) :
    session.feed.written? =
        (if command.readsStdin then (firstDocument? requests).map documentLine else none) ∧
      (∀ window error, window.validate = .error error →
        session.perform (.send window) =
          some (.handed (.error (.invalidDialog error)), session)) ∧
      (∀ request document, request.document? = some document →
        if command.readsStdin && (firstDocument? requests).isNone then
          session.HandsOver request (documentLine document)
        else session.perform request = some (.handed (.error (.missingPipe "stdin")), session)) ∧
      ∀ outcome after, session.perform .next = some (outcome, after) →
        after.feed = session.feed := by
  have piped : session.Piped command.readsStdin requests := piped_start.performAll made
  refine ⟨piped.written, ?_, ?_, fun outcome after => feed_of_no_document rfl⟩
  · intro window error invalid
    simp only [perform, send, invalid, Option.map_some]
  · intro request document asks
    have pipe : (command.readsStdin && (firstDocument? requests).isNone) = true ↔
        session.feed = .awaited := by
      rw [piped.awaited, Bool.and_eq_true, Option.isNone_iff_eq_none]
    split
    · rename_i there
      exact handsOver_of_awaited asks (pipe.mp there)
    · rename_i missing
      rw [perform_of_document asks, sendJson_of_used fun awaited => missing (pipe.mpr awaited)]
      rfl

/-- A renderer that neither prints anything nor reads its input, and never ends. -/
def deaf : Renderer := fun _ =>
  { stdout := [], stderr := [], closes := none, ending := none, uptake := .stuck }

/-- A window of an unknown type is refused, a document is written without being read in time, and an
event is waited for in vain. No further document can be handed over. -/
theorem one_document_deaf :
    ∃ outcomes session,
      (start deaf (some 10) Command.stdin.readsStdin).performAll
        [.send { Window.empty with kind := "popup" }, .sendJson .null, .next] =
          some (outcomes, session) ∧
      session.feed.written? = some "null\n" ∧
      session.perform (.sendJson (.bool true)) =
        some (.handed (.error (.missingPipe "stdin")), session) := by
  have performed : ∃ outcomes session,
      (start deaf (some 10) Command.stdin.readsStdin).performAll
        [.send { Window.empty with kind := "popup" }, .sendJson .null, .next] =
          some (outcomes, session) := ⟨_, _, rfl⟩
  obtain ⟨outcomes, session, made⟩ := performed
  obtain ⟨written, -, later, -⟩ := one_document made
  exact ⟨outcomes, session, made, written, later (.sendJson (.bool true)) _ rfl⟩

end Session

end Dialogs
