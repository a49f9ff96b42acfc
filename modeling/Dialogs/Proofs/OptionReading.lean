import Dialogs.Cli.Progress
import Dialogs.Proofs.RecordFields

/-!
# Reading options one by one

What an argument of a command line is depends on the arguments in front of it: a word behind an
option that takes a value is that value, a word elsewhere may be the name of a command, and behind
two dashes nothing is an option. This module says which options the arguments of a level mention,
and where the level ends, by looking at the arguments alone. Nothing is checked there, so options
are mentioned also in arguments that are rejected.

As long as arguments are accepted, reading them keeps to this: what the next argument may be is what
the arguments in front say.
-/

namespace Dialogs.Cli

open Progress (Form)

/-- What the next argument of a level may be. -/
inductive Turn where
  /-- An option, the name of a command, or a positional argument. -/
  | free
  /-- The value of the option in front, unless it looks like an option. -/
  | awaiting
  /-- Only a positional argument. -/
  | trailing
  deriving DecidableEq, Repr

/-- Whether an option takes a value. -/
def Switch.takes (switch : Switch) : Bool :=
  match switch.effect with
  | .take _ => true
  | .set | .help | .version => false

namespace Level

variable (level : Level)

/-- What may follow a long option: its value, if it takes one and none is attached. -/
def turnBehindLong (body : List Char) : Turn :=
  let name := body.takeWhile (· != '=')
  match level.named? (String.ofList name), body.drop name.length with
  | some switch, [] => if switch.takes then .awaiting else .free
  | _, _ => .free

/-- What may follow letters of options: a value, if the last letter is the first that takes one. -/
def turnBehindLetters : List Char → Turn
  | [] => .free
  | letter :: rest =>
    match level.lettered? letter with
    | none => .free
    | some switch =>
      if switch.takes then
        if rest.isEmpty then .awaiting else .free
      else turnBehindLetters rest

/-- What may follow an argument. -/
def turnBehind (turn : Turn) (argument : String) : Turn :=
  if turn = .trailing then .trailing
  else
    match Form.of argument with
    | .escape => .trailing
    | .long body => level.turnBehindLong body
    | .letters letters => level.turnBehindLetters letters
    | .plain => .free

/-- The options that letters mention. What stands behind a letter that takes a value is that value.
-/
def letterMentions : List Char → List String
  | [] => []
  | letter :: rest =>
    match level.lettered? letter with
    | none => []
    | some switch => if switch.takes then [switch.name] else switch.name :: letterMentions rest

/-- The options that an argument mentions, by name. -/
def mentions (turn : Turn) (argument : String) : List String :=
  if turn = .trailing then []
  else
    match Form.of argument with
    | .long body =>
      match level.named? (String.ofList (body.takeWhile (· != '='))) with
      | some switch => [switch.name]
      | none => []
    | .letters letters => level.letterMentions letters
    | .escape | .plain => []

/-- What may follow arguments, unless the name of a command is among them. -/
def walk : Turn → List String → Option Turn
  | turn, [] => some turn
  | turn, argument :: rest =>
    if turn = .free ∧ argument ∈ level.commands then none
    else walk (level.turnBehind turn argument) rest

/-- The options that arguments mention, in order. -/
def allMentions : Turn → List String → List String
  | _, [] => []
  | turn, argument :: rest =>
    level.mentions turn argument ++ allMentions (level.turnBehind turn argument) rest

variable {level} {turn next : Turn}

/-- Arguments are walked one part after the other. -/
theorem walk_append (front rest : List String) :
    level.walk turn (front ++ rest) = (level.walk turn front).bind (level.walk · rest) := by
  induction front generalizing turn with
  | nil => rfl
  | cons argument front inductionHypothesis =>
    rw [List.cons_append, walk, walk]
    split
    · rfl
    · exact inductionHypothesis

/-- The options of arguments are those of one part and then of the other. -/
theorem allMentions_append {front : List String} (walked : level.walk turn front = some next)
    (rest : List String) :
    level.allMentions turn (front ++ rest) =
      level.allMentions turn front ++ level.allMentions next rest := by
  induction front generalizing turn with
  | nil =>
    obtain rfl := Option.some.inj walked
    rfl
  | cons argument front inductionHypothesis =>
    rw [walk] at walked
    split at walked
    · cases walked
    · rw [List.cons_append, allMentions, allMentions, inductionHypothesis walked,
        List.append_assoc]

/-- Behind two dashes there are only positional arguments. -/
theorem walk_trailing (arguments : List String) :
    level.walk .trailing arguments = some .trailing := by
  induction arguments with
  | nil => rfl
  | cons argument rest inductionHypothesis =>
    rw [walk, if_neg (by simp), turnBehind, if_pos rfl, inductionHypothesis]

end Level

namespace Progress

variable {level : Level} {progress after : Progress} {switch : Switch} {name argument : String}
  {value : Value} {checked : Except Rejection Value}

/-! ### What may follow -/

/-- What the next argument may be, by what has been read. -/
def turn (progress : Progress) : Turn :=
  if progress.trailing then .trailing
  else
    match progress.pending with
    | .awaited _ _ => .awaiting
    | .nothing | .held _ _ _ => .free

theorem turn_ne_trailing (begun : progress.trailing = false) : progress.turn ≠ .trailing := by
  rw [turn, begun]
  cases progress.pending <;> simp

/-- What is awaited is the value of an option. -/
theorem awaited_of_turn (awaiting : progress.turn = .awaiting) :
    ∃ name kind, progress.pending = .awaited name kind := by
  rw [turn] at awaiting
  split at awaiting
  · cases awaiting
  · cases pending : progress.pending with
    | nothing => simp [pending] at awaiting
    | awaited name kind => exact ⟨name, kind, rfl⟩
    | held name kind written => simp [pending] at awaiting

/-- Accepting an argument adds it, if it is new and has been checked. -/
theorem accept_eq_ok (accepted : progress.accept name checked = .ok after) :
    ∃ value, checked = .ok value ∧ progress.value? name = none ∧
      after = { progress with accepted := (name, value) :: progress.accepted } := by
  unfold accept at accepted
  cases known : progress.value? name with
  | some value => simp [known] at accepted
  | none =>
    cases checked with
    | error rejection => simp [known] at accepted
    | ok value =>
      simp only [known, Option.isSome_none, Bool.false_eq_true, if_false, Except.ok.injEq]
        at accepted
      exact ⟨value, rfl, rfl, accepted.symm⟩

/-- Checking what is pending leaves nothing pending, and all but what is accepted as it is. -/
theorem settle_eq_ok (settled : progress.settle = .ok after) :
    after.pending = .nothing ∧ after.slots = progress.slots ∧
      after.trailing = progress.trailing := by
  unfold settle at settled
  cases pending : progress.pending with
  | nothing =>
    obtain rfl : progress = after := by simpa [pending] using settled
    exact ⟨pending, rfl, rfl⟩
  | awaited name kind => simp [pending] at settled
  | held name kind written =>
    simp only [pending] at settled
    obtain ⟨value, -, -, rfl⟩ := accept_eq_ok settled
    exact ⟨rfl, rfl, rfl⟩

/-- The value that is attached to a letter, without an equals sign in front of it. -/
def attachedValue : List Char → String
  | '=' :: value => String.ofList value
  | value => String.ofList value

/-- Behind an option without a value attached, its value is awaited if it takes one. -/
theorem turn_carryOut (begun : progress.trailing = false)
    (done : progress.carryOut switch = .ok after) :
    after.trailing = false ∧ after.turn = if switch.takes then .awaiting else .free := by
  obtain ⟨settled, checked, done⟩ := Json.ok_of_bind done
  obtain ⟨pending, -, trailing⟩ := settle_eq_ok checked
  rw [begun] at trailing
  cases effect : switch.effect with
  | help | version => simp [effect, throw, throwThe, MonadExceptOf.throw] at done
  | set =>
    simp only [effect] at done
    obtain ⟨value, -, -, rfl⟩ := accept_eq_ok done
    exact ⟨trailing, by simp [turn, trailing, pending, Switch.takes, effect]⟩
  | take kind =>
    simp only [effect, pure, Except.pure, Except.ok.injEq] at done
    subst done
    exact ⟨trailing, by simp [turn, trailing, Switch.takes, effect]⟩

/-- Behind an option with its value attached, nothing is awaited. -/
theorem turn_carryOutWith {written : String} (begun : progress.trailing = false)
    (done : progress.carryOutWith switch written = .ok after) :
    switch.takes = true ∧ after.turn = .free := by
  unfold carryOutWith at done
  cases effect : switch.effect with
  | set | help | version => simp [effect] at done
  | take kind =>
    simp only [effect] at done
    obtain ⟨settled, checked, done⟩ := Json.ok_of_bind done
    obtain ⟨pending, -, trailing⟩ := settle_eq_ok checked
    obtain ⟨value, -, -, rfl⟩ := accept_eq_ok done
    exact ⟨by simp [Switch.takes, effect], by simp [turn, trailing, begun, pending]⟩

/-- A letter that nobody knows is rejected. -/
theorem letters_unknown {letter : Char} {rest : List Char}
    (unknown : level.lettered? letter = none) :
    progress.letters level (letter :: rest) = .error .argumentUnknown := by
  simp [letters, unknown]

/-- A letter that takes a value, without anything behind it, waits for its value. -/
theorem letters_take {letter : Char} (known : level.lettered? letter = some switch)
    (takes : switch.takes = true) :
    progress.letters level [letter] = progress.carryOut switch := by
  unfold Switch.takes at takes
  cases effect : switch.effect <;> simp [effect] at takes
  simp [letters, known, effect]

/-- A letter that takes a value takes what stands behind it. -/
theorem letters_take_attached {letter : Char} {rest : List Char}
    (known : level.lettered? letter = some switch) (takes : switch.takes = true)
    (filled : rest ≠ []) :
    progress.letters level (letter :: rest) =
      progress.carryOutWith switch (attachedValue rest) := by
  unfold Switch.takes at takes
  cases effect : switch.effect <;> simp [effect] at takes
  obtain ⟨sign, value, rfl⟩ := List.exists_cons_of_ne_nil filled
  by_cases equals : sign = '='
  · simp [letters, known, effect, equals, attachedValue]
  · simp [letters, known, effect, equals, attachedValue]

/-- A letter that takes no value is carried out before the letters behind it. -/
theorem letters_flag {letter : Char} {rest : List Char}
    (known : level.lettered? letter = some switch) (flag : switch.takes = false) :
    progress.letters level (letter :: rest) =
      progress.carryOut switch >>= (·.letters level rest) := by
  unfold Switch.takes at flag
  cases effect : switch.effect <;> simp [effect] at flag <;> simp [letters, known, effect]

/-- What follows a long option is told by the option alone. -/
theorem turn_long {body : List Char} (begun : progress.trailing = false)
    (done : progress.long level body = .ok after) : after.turn = level.turnBehindLong body := by
  unfold long at done
  unfold Level.turnBehindLong
  cases known : level.named? (String.ofList (body.takeWhile (· != '='))) with
  | none => simp [known] at done
  | some switch =>
    simp only [known] at done ⊢
    cases attached : body.drop (body.takeWhile (· != '=')).length with
    | nil =>
      simp only [attached] at done ⊢
      exact (turn_carryOut begun done).2
    | cons sign value =>
      simp only [attached] at done ⊢
      exact (turn_carryOutWith begun done).2

/-- What follows letters of options is told by the letters alone. -/
theorem turn_letters {letters : List Char} (begun : progress.trailing = false)
    (free : letters = [] → progress.turn = .free)
    (done : progress.letters level letters = .ok after) :
    after.turn = level.turnBehindLetters letters := by
  induction letters generalizing progress with
  | nil =>
    obtain rfl : progress = after := by simpa [Progress.letters] using done
    rw [free rfl, Level.turnBehindLetters]
  | cons letter rest inductionHypothesis =>
    rw [Level.turnBehindLetters]
    cases known : level.lettered? letter with
    | none => simp [letters_unknown known] at done
    | some switch =>
      by_cases takes : switch.takes = true
      · by_cases ended : rest = []
        · rw [ended, letters_take known takes] at done
          simp [ended, takes, (turn_carryOut begun done).2]
        · rw [letters_take_attached known takes ended] at done
          simp [ended, takes, (turn_carryOutWith begun done).2]
      · rw [letters_flag known (by simpa using takes)] at done
        obtain ⟨carried, first, done⟩ := Json.ok_of_bind done
        obtain ⟨trailing, turned⟩ := turn_carryOut begun first
        have later := inductionHypothesis trailing (fun _ => by simpa [takes] using turned) done
        simp [takes, later]

/-- The form of an argument of letters has at least one. -/
theorem letters_ne_nil {letters : List Char} (form : Form.of argument = .letters letters) :
    letters ≠ [] := by
  unfold Form.of at form
  split at form <;> simp_all
  obtain rfl := form
  simp

/-- Behind a positional argument, nothing is awaited. -/
theorem turn_place (done : progress.place level argument = .ok after) :
    after.turn = if progress.trailing then .trailing else .free := by
  obtain ⟨settled, checked, done⟩ := Json.ok_of_bind done
  obtain ⟨pending, -, trailing⟩ := settle_eq_ok checked
  cases slots : progress.slots with
  | nil =>
    simp only [slots] at done
    split at done <;> simp [throw, throwThe, MonadExceptOf.throw] at done
  | cons slot rest =>
    simp only [slots, pure, Except.pure, Except.ok.injEq] at done
    subst done
    simp [turn, trailing]

/-- Behind two dashes every argument is positional. -/
theorem read_trailing (trailing : progress.trailing = true) :
    progress.read level argument = progress.place level argument := by
  rw [read.eq_def, if_pos trailing]

/-- Two dashes are read without looking at anything else. -/
theorem read_escape (begun : progress.trailing = false) (form : Form.of argument = .escape) :
    progress.read level argument = .ok { progress with trailing := true } := by
  simp [read, begun, form]

theorem read_long {body : List Char} (begun : progress.trailing = false)
    (form : Form.of argument = .long body) :
    progress.read level argument = progress.long level body := by
  simp [read, begun, form]

theorem read_letters {letters : List Char} (begun : progress.trailing = false)
    (form : Form.of argument = .letters letters) :
    progress.read level argument = progress.letters level letters := by
  simp [read, begun, form]

/-- An argument without dashes is positional where no value is awaited. -/
theorem read_plain (begun : progress.trailing = false) (form : Form.of argument = .plain)
    (unawaited : progress.turn ≠ .awaiting) :
    progress.read level argument = progress.place level argument := by
  cases pending : progress.pending <;> simp_all [read, turn]

/-- An argument without dashes is the value that is awaited. -/
theorem read_awaited {kind : Kind} (begun : progress.trailing = false)
    (form : Form.of argument = .plain) (pending : progress.pending = .awaited name kind) :
    progress.read level argument =
      .ok { progress with pending := .held name kind argument } := by
  simp [read, begun, form, pending]

/-- What the next argument may be is told by the arguments alone, as long as they are accepted. -/
theorem turn_read (done : progress.read level argument = .ok after) :
    after.turn = level.turnBehind progress.turn argument := by
  rw [Level.turnBehind]
  cases begun : progress.trailing with
  | true =>
    have trailing : progress.turn = .trailing := by simp [turn, begun]
    rw [read_trailing begun] at done
    rw [if_pos trailing, turn_place done, if_pos begun]
  | false =>
    rw [if_neg (turn_ne_trailing begun)]
    cases form : Form.of argument with
    | escape =>
      rw [read_escape begun form] at done
      obtain rfl := Except.ok.inj done
      rfl
    | long body =>
      rw [read_long begun form] at done
      exact turn_long begun done
    | letters letters =>
      rw [read_letters begun form] at done
      exact turn_letters begun (fun none => absurd none (letters_ne_nil form)) done
    | plain =>
      by_cases awaiting : progress.turn = .awaiting
      · obtain ⟨name, kind, pending⟩ := awaited_of_turn awaiting
        rw [read_awaited begun form pending] at done
        obtain rfl := Except.ok.inj done
        simp [turn, begun]
      · rw [read_plain begun form awaiting] at done
        rw [turn_place done, begun]
        rfl

/-! ### All arguments up to the end of the level -/

/-- Reads arguments none of which ends the level. -/
def readEach (level : Level) (progress : Progress) (arguments : List String) :
    Except Rejection Progress :=
  arguments.foldlM (fun progress argument => progress.read level argument) progress

theorem readEach_cons (rest : List String) :
    progress.readEach level (argument :: rest) =
      progress.read level argument >>= (·.readEach level rest) := rfl

theorem readEach_append (front rest : List String) :
    progress.readEach level (front ++ rest) =
      progress.readEach level front >>= (·.readEach level rest) := by
  rw [readEach, List.foldlM_append]
  rfl

/-- A level ends with the name of a command where neither a value is awaited nor only positional
arguments follow. -/
theorem endsAt_eq : progress.endsAt level argument =
    decide (progress.turn = .free ∧ argument ∈ level.commands) := by
  rw [Bool.eq_iff_iff]
  cases begun : progress.trailing <;> cases pending : progress.pending <;>
    simp [endsAt, turn, begun, pending]

/-- Reading does not end in front of the end of the walk. -/
theorem readAll_append {front : List String} {next : Turn}
    (walked : level.walk progress.turn front = some next) (rest : List String) :
    progress.readAll level (front ++ rest) =
      progress.readEach level front >>= (·.readAll level rest) := by
  induction front generalizing progress with
  | nil => rfl
  | cons argument front inductionHypothesis =>
    rw [Level.walk] at walked
    split at walked
    · cases walked
    · rename_i goesOn
      rw [List.cons_append, readAll, endsAt_eq, if_neg (by simpa using goesOn), readEach_cons]
      cases read : progress.read level argument with
      | error rejection => rfl
      | ok after =>
        rw [← turn_read read] at walked
        exact inductionHypothesis walked

/-- A level that ends is divided by the name of a command, where the walk allows it. -/
theorem divided_of_readAll {arguments behind : List String}
    (ends : progress.readAll level arguments = .ok (after, some (name, behind))) :
    ∃ front, arguments = front ++ name :: behind ∧
      level.walk progress.turn front = some .free ∧ name ∈ level.commands := by
  induction arguments generalizing progress with
  | nil => simp [readAll] at ends
  | cons argument rest inductionHypothesis =>
    rw [readAll, endsAt_eq] at ends
    by_cases stops : progress.turn = .free ∧ argument ∈ level.commands
    · rw [if_pos (by simpa using stops)] at ends
      obtain ⟨rfl, rfl, rfl⟩ : progress = after ∧ argument = name ∧ rest = behind := by
        simpa using ends
      exact ⟨[], rfl, congrArg some stops.1, stops.2⟩
    · rw [if_neg (by simpa using stops)] at ends
      cases read : progress.read level argument with
      | error rejection => simp [read] at ends
      | ok between =>
        simp only [read] at ends
        obtain ⟨front, rfl, walked, command⟩ := inductionHypothesis ends
        refine ⟨argument :: front, rfl, ?_, command⟩
        rw [Level.walk, if_neg stops, ← turn_read read, walked]

/-- Where reading arrives is where the walk arrives. -/
theorem turn_readEach {front : List String} {next : Turn}
    (walked : level.walk progress.turn front = some next)
    (read : progress.readEach level front = .ok after) : after.turn = next := by
  induction front generalizing progress with
  | nil =>
    obtain rfl : progress = after := Except.ok.inj read
    exact Option.some.inj walked
  | cons argument front inductionHypothesis =>
    rw [Level.walk] at walked
    split at walked
    · cases walked
    · rw [readEach_cons] at read
      obtain ⟨between, first, later⟩ := Json.ok_of_bind read
      rw [← turn_read first] at walked
      exact inductionHypothesis walked later

end Progress

end Dialogs.Cli
