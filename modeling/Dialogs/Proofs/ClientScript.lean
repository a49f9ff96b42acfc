import Dialogs.Client

/-!
# Calls and invocations

A client makes calls one after the other, and a script answers the invocations of the renderer. The
two correspond one to one: a call is refused before anything is sent, or it makes exactly one
invocation, with the arguments of its own command, and takes the next answer of the script. So what
comes of a call depends on what it asks for and on the answer that it takes, and on nothing that was
called before.

What a call sends, and when it is refused, is said here for each query on its own. How the answer is
interpreted is left to the transcripts.
-/

namespace Dialogs

/-- What a client can be asked for. -/
inductive Query where
  | showDialog (window : Window)
  | showDialogEvents (window : Window)
  | showJson (document : Json)
  | showFile (path : String)
  | message (title text : String) (icon : Option MessageIcon)
  | confirm (title text : String) (icon : Option MessageIcon)
  | input (title : String) (text value : Option String)
  | password (title : String) (text : Option String)
  | selectDir (title dir : Option String)
  | loadFile (title : Option String) (filters : List Filter) (dir : Option String)
  | saveFile (title : Option String) (filters : List Filter) (dir : Option String)
  | run (command : Command)
  | listBackends

namespace Query

/-- What a query results in. -/
inductive Answer where
  | lastEvent (event : Option Event)
  | events (events : List Event)
  | reply (reply : Reply)
  | backends (backends : List Backend)

/-- Makes the call of a query against a script: its result, what was sent, and the rest of the
script. -/
def play (options : GlobalOptions) (script : List (Except Failure Output)) :
    Query → Except Failure Answer × List Invocation × List (Except Failure Output)
  | .showDialog window => ((options.showDialog window).play script).map (·.map .lastEvent) id
  | .showDialogEvents window =>
    ((options.showDialogEvents window).play script).map (·.map .events) id
  | .showJson document => ((options.showJson document).play script).map (·.map .lastEvent) id
  | .showFile path => ((options.showFile path).play script).map (·.map .lastEvent) id
  | .message title text icon =>
    ((options.ask (.message title text icon)).play script).map (·.map .reply) id
  | .confirm title text icon =>
    ((options.ask (.confirm title text icon)).play script).map (·.map .reply) id
  | .input title text value =>
    ((options.ask (.input title text value)).play script).map (·.map .reply) id
  | .password title text => ((options.ask (.password title text)).play script).map (·.map .reply) id
  | .selectDir title dir => ((options.ask (.selectDir title dir)).play script).map (·.map .reply) id
  | .loadFile title filters dir =>
    ((options.ask (.loadFile title filters dir)).play script).map (·.map .reply) id
  | .saveFile title filters dir =>
    ((options.ask (.saveFile title filters dir)).play script).map (·.map .reply) id
  | .run command => ((options.ask command).play script).map (·.map .reply) id
  | .listBackends => (options.listBackends.play script).map (·.map .backends) id

/-- Makes the calls of queries one after the other: for each its result and what was sent, and the
rest of the script. -/
def playAll (options : GlobalOptions) :
    List Query → List (Except Failure Output) →
      List (Except Failure Answer × List Invocation) × List (Except Failure Output)
  | [], script => ([], script)
  | query :: rest, script =>
    let (result, sent, left) := query.play options script
    let (later, final) := playAll options rest left
    ((result, sent) :: later, final)

/-! ## What a query asks for -/

/-- Why a query is refused, if it is: a window has to be valid, and a document has to be an
object. -/
def refusal? : Query → Option Failure
  | .showDialog window | .showDialogEvents window =>
    match window.validate with
    | .error error => some (.invalidDialog error)
    | .ok () => none
  | .showJson document =>
    if document.isObject then none else some (.invalidDialog (.notAnObject document.typeName))
  | _ => none

/-- The command of a query. -/
def command : Query → Command
  | .showDialog _ | .showDialogEvents _ | .showJson _ => .stdin
  | .showFile path => .load path
  | .message title text icon => .message title text icon
  | .confirm title text icon => .confirm title text icon
  | .input title text value => .input title text value
  | .password title text => .password title text
  | .selectDir title dir => .selectDir title dir
  | .loadFile title filters dir => .loadFile title filters dir
  | .saveFile title filters dir => .saveFile title filters dir
  | .run command => command
  | .listBackends => .list

/-- The document that a query writes to the standard input, if it connects that. -/
def input? : Query → Option String
  | .showDialog window | .showDialogEvents window => some window.toJson.compact
  | .showJson document => some document.compact
  | _ => none

/-- The invocation of a query that is not refused. -/
def invocation (options : GlobalOptions) (query : Query) : Invocation :=
  ⟨query.command.args options, query.input?⟩

/-- What a query makes of a transcript. -/
def conclude : Query → String → Except Failure Answer
  | .showDialog _, transcript | .showJson _, transcript | .showFile _, transcript =>
    (lastEventOf transcript).map .lastEvent
  | .showDialogEvents _, transcript => (eventsOf transcript).map .events
  | .listBackends, transcript => .ok (.backends (Backend.ofTranscript transcript))
  | _, transcript => (Reply.ofTranscript transcript).map .reply

/-- What comes of a query when its invocation is answered. A failure is passed on unchanged, and a
query that is refused does not look at the answer. -/
def result (query : Query) (answer : Except Failure Output) : Except Failure Answer :=
  match query.refusal?, answer with
  | some failure, _ => .error failure
  | none, .error failure => .error failure
  | none, .ok output => query.conclude output.stdout

/-- What a query sends: nothing if it is refused, and else one invocation. -/
def sent (options : GlobalOptions) (query : Query) : List Invocation :=
  match query.refusal? with
  | some _ => []
  | none => [query.invocation options]

/-- The number of invocations that queries make. -/
def count (queries : List Query) : Nat := queries.countP fun query => query.refusal?.isNone

/-- The answer of a script to its invocations, the first being the zeroth. -/
def answerTo (script : List (Except Failure Output)) (index : Nat) : Except Failure Output :=
  script[index]?.getD Call.silence

/-! ## One call -/

variable {α : Type} (options : GlobalOptions) (script : List (Except Failure Output))

/-- A call that is not refused takes the first answer. -/
theorem play_exchange (invocation : Invocation) (conclude : String → Except Failure α) :
    (Call.exchange invocation conclude).play script =
      ((answerTo script 0).bind fun output => conclude output.stdout, [invocation], script.tail) := by
  rw [Call.play, answerTo, List.head?_eq_getElem?]

/-- A call without input sends its arguments, and draws its conclusion from the first answer. -/
theorem play_invoke (command : Command) (conclude : String → Except Failure α) (wrap : α → Answer) :
    ((options.invoke command conclude).play script).map (·.map wrap) id =
      ((answerTo script 0).bind fun output => (conclude output.stdout).map wrap,
        [⟨command.args options, none⟩], script.drop 1) := by
  rw [GlobalOptions.invoke, play_exchange, List.drop_one]
  cases answerTo script 0 <;> rfl

/-- So does a call that sends a document. -/
theorem play_send (document : Json) (conclude : String → Except Failure α) (wrap : α → Answer) :
    ((options.send document conclude).play script).map (·.map wrap) id =
      ((answerTo script 0).bind fun output => (conclude output.stdout).map wrap,
        [⟨Command.stdin.args options, some document.compact⟩], script.drop 1) := by
  rw [GlobalOptions.send, play_exchange, List.drop_one]
  cases answerTo script 0 <;> rfl

/-- A query that is refused sends nothing, and leaves the script as it is. -/
theorem play_refused {query : Query} {failure : Failure}
    (refused : query.refusal? = some failure) :
    query.play options script = (.error failure, [], script) := by
  cases query with
  | showDialog window | showDialogEvents window =>
    simp only [refusal?] at refused
    split at refused
    next error invalid =>
      cases refused
      simp only [play, GlobalOptions.showDialog, GlobalOptions.showDialogEvents, invalid]
      rfl
    next => cases refused
  | showJson document =>
    simp only [refusal?] at refused
    split at refused
    next => cases refused
    next scalar =>
      cases refused
      simp only [play, GlobalOptions.showJson, scalar]
      rfl
  | _ => cases refused

/-- Any other query sends its invocation, and draws its conclusion from the first answer. -/
theorem play_made {query : Query} (made : query.refusal? = none) :
    query.play options script =
      ((answerTo script 0).bind fun output => query.conclude output.stdout,
        [query.invocation options], script.drop 1) := by
  cases query with
  | showDialog window =>
    simp only [refusal?] at made
    split at made
    next => cases made
    next valid =>
      simp only [play, GlobalOptions.showDialog, valid]
      exact play_send options script window.toJson lastEventOf Answer.lastEvent
  | showDialogEvents window =>
    simp only [refusal?] at made
    split at made
    next => cases made
    next valid =>
      simp only [play, GlobalOptions.showDialogEvents, valid]
      exact play_send options script window.toJson eventsOf Answer.events
  | showJson document =>
    simp only [refusal?] at made
    split at made
    next object =>
      simp only [play, GlobalOptions.showJson, object]
      exact play_send options script document lastEventOf Answer.lastEvent
    next => cases made
  | showFile path => exact play_invoke options script (.load path) lastEventOf Answer.lastEvent
  | listBackends =>
    exact play_invoke options script .list (.ok <| Backend.ofTranscript ·) Answer.backends
  | _ => exact play_invoke options script _ Reply.ofTranscript Answer.reply

/-- A query results in what its own answer gives, sends what it has to send, and takes one answer
for each invocation. -/
theorem play_eq (query : Query) :
    query.play options script =
      (query.result (answerTo script 0), query.sent options, script.drop (count [query])) := by
  cases refused : query.refusal? with
  | some failure =>
    rw [play_refused options script refused]
    simp [result, sent, count, refused]
  | none =>
    rw [play_made options script refused]
    cases answerTo script 0 <;> simp [result, sent, count, refused, Except.bind]

/-! ## A sequence of calls -/

/-- The invocations of a query and of those after it. -/
theorem count_cons (query : Query) (queries : List Query) :
    count (query :: queries) = count [query] + count queries := by
  rw [← List.singleton_append, count, List.countP_append, count, count]

/-- A script without the answers of the first invocations answers the others as before. -/
theorem answerTo_drop (taken index : Nat) :
    answerTo (script.drop taken) index = answerTo script (taken + index) := by
  rw [answerTo, answerTo, List.getElem?_drop]

/-- What a query sends is its invocation, unless it is refused. -/
theorem sent_eq (query : Query) :
    query.sent options = ([query].filter (·.refusal?.isNone)).map (invocation options) := by
  cases refused : query.refusal? <;> simp [sent, refused]

/-- Calls and invocations correspond one to one. In a sequence of calls each one results in what its
own query makes of its own answer, and sends what its own query has to send. That answer is the one
whose place in the script is the number of the invocations before. So the invocations are those of
the queries that are not refused, in order; each takes one answer, in order, and a query that is
refused takes none.

Proof: by induction over the queries, along the script that the first of them leaves. -/
theorem playAll_one_to_one (queries : List Query) :
    (playAll options queries script).1 =
        queries.mapIdx (fun index query =>
          (query.result (answerTo script (count (queries.take index))), query.sent options)) ∧
      (playAll options queries script).1.flatMap Prod.snd =
        (queries.filter (·.refusal?.isNone)).map (invocation options) ∧
      (playAll options queries script).2 = script.drop (count queries) := by
  induction queries generalizing script with
  | nil => exact ⟨rfl, rfl, rfl⟩
  | cons query queries later =>
    obtain ⟨results, invocations, left⟩ := later (script.drop (count [query]))
    simp only [playAll, play_eq, List.mapIdx_cons, List.flatMap_cons]
    refine ⟨?_, ?_, ?_⟩
    · rw [results]
      simp only [answerTo_drop, List.take_succ_cons, ← count_cons]
      rfl
    · rw [invocations, sent_eq, ← List.map_append, ← List.filter_append, List.singleton_append]
    · rw [left, List.drop_drop, ← count_cons]

end Query

end Dialogs
