import Dialogs.Runner

/-!
# Sessions

A session talks to one running renderer: it hands over at most one document, reads events line by
line as they are printed, and at last waits for the end. The limit holds for the whole session,
counted from its start.

A line that is no event is noted; the last one noted tells why a renderer failed, whether it was
read by a request for events or only when the session waited.

Every step takes place when what it waits for happens, or at the limit, whichever comes first. A
step that would wait for ever has no result.
-/

namespace Dialogs

/-- A session with a renderer. -/
structure Session where
  renderer : Renderer
  limit : Option Nat
  /-- What the renderer has been fed so far. -/
  feed : Feed
  /-- The time of the last step. -/
  clock : Nat
  /-- The number of lines that have been read. -/
  consumed : Nat
  /-- The last line that was no event. -/
  note : Option String
  /-- How the renderer behaves, given what it has been fed so far. -/
  behaviour : Behaviour := renderer feed
  behaviour_eq : behaviour = renderer feed := by rfl

namespace Session

/-- The latest time that the clock can hold: 64 bits of seconds, one of them for the sign. -/
def lastInstant : Nat := 9223372036854775807 * 1000000000 + 999999999

/-- The instant at which a limit expires, for a session that starts `now`. There is none beyond the
range of the clock. -/
def deadline? (now limit : Nat) : Option Nat :=
  if now + limit ≤ lastInstant then some (now + limit) else none

/-- Whether a session can start `now` under a limit: its deadline is in the range of the clock. -/
def fits (now : Nat) (limit : Option Nat) : Bool := limit.all fun limit => (deadline? now limit).isSome

/-- The session at its start. -/
def start (renderer : Renderer) (limit : Option Nat) (readsStdin : Bool) : Session :=
  { renderer, limit, feed := if readsStdin then .awaited else .absent, clock := 0, consumed := 0
    note := none }

/-- The session after the renderer has been fed something. -/
def feeding (session : Session) (feed : Feed) : Session :=
  { session with feed, behaviour := session.renderer feed, behaviour_eq := rfl }

/-- The lines that are still to be read. -/
def unread (session : Session) : List Line := session.behaviour.lines.drop session.consumed

/-- What comes of waiting. -/
inductive Wait where
  /-- What was waited for is there at a time. -/
  | until (time : Nat)
  /-- The limit expires before. -/
  | expired (limit : Nat)
  | forever
  deriving DecidableEq, Repr

/-- Waits for something that happens at a time, if ever. What has happened before the limit is there
even after the limit has expired. -/
def await (session : Session) : Option Nat → Wait
  | some time =>
    match session.limit with
    | none => .until (max session.clock time)
    | some limit => if time < limit then .until (max session.clock time) else .expired limit
  | none =>
    match session.limit with
    | none => .forever
    | some limit => .expired limit

/-- The session after waiting until a time. -/
def advance (session : Session) (time : Nat) : Session :=
  { session with clock := max session.clock time }

/-- Notes a line that is no event, unless it is blank. -/
def take (session : Session) (line : String) : Session :=
  if Text.isAllBlank line then session else { session with note := some (Text.trim line) }

/-- Hands a document to the renderer and closes the pipe. -/
def sendJson (session : Session) (document : Json) : Option (Except Failure Unit × Session) :=
  match session.feed with
  | .awaited =>
    let fed := session.feeding (.handed session.clock (document.compact ++ "\n"))
    match fed.await fed.behaviour.uptake.time? with
    | .until time => some (fed.behaviour.uptake.result, fed.advance time)
    | .expired limit => some (.error (.timeout limit), fed.advance limit)
    | .forever => none
  | .absent | .handed _ _ => some (.error (.missingPipe "stdin"), session)

/-- Hands over a window that can be shown. -/
def send (session : Session) (window : Window) : Option (Except Failure Unit × Session) :=
  match window.validate with
  | .error error => some (.error (.invalidDialog error), session)
  | .ok () => session.sendJson window.toDocument.json

/-- Reads lines up to the first that is meant as an event. There is none when the output is at its
end. -/
def readFrom : List Line → Session → Option (Except Failure (Option Event) × Session)
  | [], session =>
    match session.await session.behaviour.closes with
    | .until time => some (.ok none, session.advance time)
    | .expired limit => some (.error (.timeout limit), session.advance limit)
    | .forever => none
  | line :: rest, session =>
    match session.await (some line.time) with
    | .expired limit => some (.error (.timeout limit), session.advance limit)
    | .forever => none
    | .until time =>
      let read := { session.advance time with consumed := session.consumed + 1 }
      match line.text with
      | .error cause => some (.error (.pipe cause), read)
      | .ok text =>
        match Event.ofLine? text with
        | none => readFrom rest (read.take text)
        | some (.ok event) => some (.ok (some event), read)
        | some (.error cause) => some (.error (.undecodable (Text.trimEnd text) cause), read)

/-- Waits for the next event. -/
def next (session : Session) : Option (Except Failure (Option Event) × Session) :=
  readFrom session.unread session

/-- Closes the input of the renderer, if it is still open. -/
def hangUp (session : Session) : Session :=
  match session.feed with
  | .awaited => session.feeding (.handed session.clock "")
  | .absent | .handed _ _ => session

/-- Notes all lines that are no events. -/
def takeAll (session : Session) (lines : List String) : Session :=
  lines.foldl
    (fun session line => if Event.isEventLine line then session else session.take line) session

/-- The verdict on the renderer when it has ended. -/
def verdict (session : Session) : Except Failure Unit :=
  Behaviour.verdict (session.behaviour.ending.bind Ending.code) [session.note.getD ""]

/-- Waits for the renderer to end. The lines that nobody has read are noted first, so that an error
printed after the last event is not lost. -/
def wait (session : Session) : Option (Except Failure Unit) :=
  let closed := session.hangUp
  match closed.await closed.behaviour.closes with
  | .expired limit => some (.error (.timeout limit))
  | .forever => none
  | .until time =>
    match closed.unread.mapM Line.text with
    | .error _ => some (.error (.pipe .invalidOutput))
    | .ok lines =>
      let drained := (closed.advance time).takeAll lines
      match drained.await (drained.behaviour.ending.map Ending.time) with
      | .expired limit => some (.error (.timeout limit))
      | .forever => none
      | .until _ => some drained.verdict

end Session

end Dialogs
