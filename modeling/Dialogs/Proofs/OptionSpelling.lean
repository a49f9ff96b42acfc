import Dialogs.Proofs.OptionOutcome

/-!
# How an option is written

An option is written by its long name or by its letter. Its value, if it takes one, is attached or
is the next argument. However it is written, to read it is to check what is pending and then to
accept the option with its value, as far as acceptance goes. So it makes no difference where among
arguments that do not mention it an option is written, unless it comes between another option and
its value.
-/

namespace Dialogs.Cli

open Progress (Form attachedValue)

/-! ## Spellings -/

/-- An argument that is no more than an option. -/
inductive Switch.Names (switch : Switch) : String → Prop where
  | long : Names switch ("--" ++ switch.name)
  | letter {letter : Char} (lettered : switch.letter = some letter) :
    Names switch (String.ofList ['-', letter])

/-- An argument that is an option with a value attached, by the value. -/
inductive Switch.Attaches (switch : Switch) : String → String → Prop where
  | long (value : String) : Attaches switch value ("--" ++ switch.name ++ "=" ++ value)
  | letter {letter : Char} {rest : List Char} (lettered : switch.letter = some letter)
    (takes : switch.takes = true) (filled : rest ≠ []) :
    Attaches switch (attachedValue rest) (String.ofList ('-' :: letter :: rest))

/-- The arguments that write an option, by its value if one is given. -/
inductive Switch.Written (switch : Switch) : Option String → List String → Prop where
  | alone {argument : String} (names : switch.Names argument) (flag : switch.takes = false) :
    Written switch none [argument]
  | apart {argument value : String} (names : switch.Names argument) (takes : switch.takes = true)
    (plain : Form.of value = .plain) : Written switch (some value) [argument, value]
  | attached {argument value : String} (attaches : switch.Attaches value argument) :
    Written switch (some value) [argument]

/-- Checks an option with the value that is given, if one is. -/
def Switch.check (switch : Switch) (written : Option String) : Except Rejection Value :=
  match switch.effect, written with
  | .take kind, some value => kind.check value
  | .take _, none => .error .valueMissing
  | .set, none => .ok .present
  | .help, none => .error .help
  | .version, none => .error .version
  | .set, some _ | .help, some _ | .version, some _ => .error .valueUnwanted

namespace Level

/-- A level has an option that it tells from everything else. -/
structure Offers (level : Level) (switch : Switch) : Prop where
  named : level.named? switch.name = some switch
  lettered : switch.letter.bind level.lettered? = switch.letter.map fun _ => switch
  /-- Two dashes alone are no option, and a value is attached by an equals sign. -/
  filled : switch.name.toList ≠ []
  unsigned : '=' ∉ switch.name.toList
  undashed : '-' ∉ switch.letter
  noSlot : ∀ slot ∈ level.slots, slot.name ≠ switch.name
  commandsPlain : ∀ command ∈ level.commands, Form.of command = .plain

/-- An argument is understood as an option: what may follow it, and what is done to read it. -/
structure Understands (level : Level) (switch : Switch) (argument : String) (next : Turn)
    (step : Progress → Except Rejection Progress) : Prop where
  goesOn : argument ∉ level.commands
  turn : ∀ turn, turn ≠ .trailing → level.turnBehind turn argument = next
  mentions : ∀ turn, turn ≠ .trailing → level.mentions turn argument = [switch.name]
  read : ∀ progress, progress.trailing = false → progress.read level argument = step progress

variable {level : Level} {switch : Switch} {argument value : String}

/-- The option of the letter of an option is that option. -/
theorem Offers.lettered_eq_some (offers : level.Offers switch) {letter : Char}
    (lettered : switch.letter = some letter) : level.lettered? letter = some switch := by
  simpa [lettered] using offers.lettered

/-- The long name of an option ends where a value is attached. -/
theorem Offers.takeWhile_name (offers : level.Offers switch) (attached : List Char)
    (sign : attached.takeWhile (· != '=') = []) :
    (switch.name.toList ++ attached).takeWhile (· != '=') = switch.name.toList := by
  have unsigned : ∀ letter ∈ switch.name.toList, (letter != '=') = true := by
    intro letter inside
    simpa using fun equals : letter = '=' => offers.unsigned (equals ▸ inside)
  rw [List.takeWhile_append_of_pos unsigned, sign, List.append_nil]

/-- Behind two dashes an option is understood by its long name. -/
theorem Offers.understands_long (offers : level.Offers switch) (attached : List Char)
    (sign : attached.takeWhile (· != '=') = [])
    (spelled : argument.toList = '-' :: '-' :: (switch.name.toList ++ attached)) :
    level.Understands switch argument
      (level.turnBehindLong (switch.name.toList ++ attached))
      (·.long level (switch.name.toList ++ attached)) := by
  have form : Form.of argument = .long (switch.name.toList ++ attached) := by
    obtain ⟨first, rest, name⟩ := List.exists_cons_of_ne_nil offers.filled
    rw [Form.of, spelled, name]
    rfl
  constructor
  case goesOn =>
    intro listed
    simp [offers.commandsPlain argument listed] at form
  case turn =>
    intro turn notTrailing
    rw [turnBehind, if_neg notTrailing, form]
  case mentions =>
    intro turn notTrailing
    simp [Level.mentions, notTrailing, form, offers.takeWhile_name _ sign, offers.named]
  case read => exact fun progress begun => Progress.read_long begun form

/-- Behind one dash an option is understood by its letter. -/
theorem Offers.understands_letters (offers : level.Offers switch) {letter : Char}
    (rest : List Char) (lettered : switch.letter = some letter)
    (ended : switch.takes = true ∨ rest = [])
    (spelled : argument.toList = '-' :: letter :: rest) :
    level.Understands switch argument (level.turnBehindLetters (letter :: rest))
      (·.letters level (letter :: rest)) := by
  have form : Form.of argument = .letters (letter :: rest) := by
    have different : letter ≠ '-' := fun dash => offers.undashed (dash ▸ lettered)
    rw [Form.of, spelled]
    split <;> simp_all
  have mentioned : level.letterMentions (letter :: rest) = [switch.name] := by
    rw [letterMentions, offers.lettered_eq_some lettered]
    rcases ended with takes | nothing
    · simp [takes]
    · simp [nothing, letterMentions]
  constructor
  case goesOn =>
    intro listed
    simp [offers.commandsPlain argument listed] at form
  case turn =>
    intro turn notTrailing
    rw [turnBehind, if_neg notTrailing, form]
  case mentions =>
    intro turn notTrailing
    rw [Level.mentions, if_neg notTrailing, form]
    exact mentioned
  case read => exact fun progress begun => Progress.read_letters begun form

/-- A long name with nothing attached: what may follow it, and how it is read. -/
theorem Offers.long_alone (offers : level.Offers switch) :
    level.turnBehindLong switch.name.toList = (if switch.takes then .awaiting else .free) ∧
      ∀ progress : Progress, progress.long level switch.name.toList = progress.carryOut switch := by
  have name : switch.name.toList.takeWhile (· != '=') = switch.name.toList := by
    simpa using offers.takeWhile_name [] rfl
  constructor
  · simp [turnBehindLong, name, offers.named]
  · intro progress
    simp [Progress.long, name, offers.named]

/-- A long name with a value attached. -/
theorem Offers.long_attached (offers : level.Offers switch) (value : List Char) :
    level.turnBehindLong (switch.name.toList ++ '=' :: value) = .free ∧
      ∀ progress : Progress, progress.long level (switch.name.toList ++ '=' :: value) =
        progress.carryOutWith switch (String.ofList value) := by
  have name := offers.takeWhile_name ('=' :: value) (by simp)
  constructor
  · simp [turnBehindLong, name, offers.named]
  · intro progress
    simp [Progress.long, name, offers.named]

/-- A single letter: what may follow it, and how it is read. -/
theorem letter_alone {letter : Char} (known : level.lettered? letter = some switch) :
    level.turnBehindLetters [letter] = (if switch.takes then .awaiting else .free) ∧
      ∀ progress : Progress, progress.letters level [letter] = progress.carryOut switch := by
  constructor
  · simp [turnBehindLetters, known]
  · intro progress
    cases takes : switch.takes with
    | true => exact Progress.letters_take known takes
    | false =>
      rw [Progress.letters_flag known takes]
      cases progress.carryOut switch <;> rfl

/-- A letter with a value attached. -/
theorem letter_attached {letter : Char} {rest : List Char}
    (known : level.lettered? letter = some switch) (takes : switch.takes = true)
    (filled : rest ≠ []) :
    level.turnBehindLetters (letter :: rest) = .free ∧
      ∀ progress : Progress, progress.letters level (letter :: rest) =
        progress.carryOutWith switch (attachedValue rest) := by
  constructor
  · simp [turnBehindLetters, known, takes, filled]
  · exact fun progress => Progress.letters_take_attached known takes filled

/-- An option alone is carried out, and its value may follow. -/
theorem Offers.understands_names (offers : level.Offers switch) (names : switch.Names argument) :
    level.Understands switch argument (if switch.takes then .awaiting else .free)
      (·.carryOut switch) := by
  cases names with
  | long =>
    have spelled : ("--" ++ switch.name).toList = '-' :: '-' :: (switch.name.toList ++ []) := by
      simp
    have understood := offers.understands_long [] rfl spelled
    simpa only [List.append_nil, offers.long_alone.1, offers.long_alone.2] using understood
  | letter lettered =>
    obtain ⟨next, read⟩ := letter_alone (offers.lettered_eq_some lettered)
    have understood := offers.understands_letters [] lettered (.inr rfl) String.toList_ofList
    simpa only [next, read] using understood

/-- An option with its value attached is carried out with that value. -/
theorem Offers.understands_attaches (offers : level.Offers switch)
    (attaches : switch.Attaches value argument) :
    level.Understands switch argument .free (·.carryOutWith switch value) := by
  cases attaches with
  | long =>
    have spelled : ("--" ++ switch.name ++ "=" ++ value).toList =
        '-' :: '-' :: (switch.name.toList ++ '=' :: value.toList) := by simp
    obtain ⟨next, read⟩ := offers.long_attached value.toList
    have understood := offers.understands_long ('=' :: value.toList) (by simp) spelled
    simpa only [next, read, String.ofList_toList] using understood
  | @letter letter rest lettered takes filled =>
    obtain ⟨next, read⟩ := letter_attached (offers.lettered_eq_some lettered) takes filled
    have understood := offers.understands_letters rest lettered (.inl takes) String.toList_ofList
    simpa only [next, read] using understood

end Level

/-! ## Reading an option in any spelling -/

section

variable {level : Level} {switch : Switch} {written : Option String} {tokens : List String}
  {turn : Turn}

/-- Behind an option with its value, any argument may follow. -/
theorem Switch.Written.walk (writes : switch.Written written tokens)
    (offers : level.Offers switch) (notTrailing : turn ≠ .trailing) :
    level.walk turn tokens = some .free := by
  cases writes with
  | alone names flag =>
    have understood := offers.understands_names names
    simp [Level.walk, understood.goesOn, understood.turn turn notTrailing, flag]
  | apart names takes plain =>
    have understood := offers.understands_names names
    have valueTurn (value : String) (plain : Form.of value = .plain) :
        level.turnBehind .awaiting value = .free := by simp [Level.turnBehind, plain]
    simp [Level.walk, understood.goesOn, understood.turn turn notTrailing, takes,
      valueTurn _ plain]
  | attached attaches =>
    have understood := offers.understands_attaches attaches
    simp [Level.walk, understood.goesOn, understood.turn turn notTrailing]

/-- An option with its value mentions that option alone. -/
theorem Switch.Written.allMentions (writes : switch.Written written tokens)
    (offers : level.Offers switch) (notTrailing : turn ≠ .trailing) :
    level.allMentions turn tokens = [switch.name] := by
  cases writes with
  | alone names flag =>
    have understood := offers.understands_names names
    simp [Level.allMentions, understood.mentions turn notTrailing]
  | apart names takes plain =>
    have understood := offers.understands_names names
    have nothing (value : String) (plain : Form.of value = .plain) :
        level.mentions .awaiting value = [] := by simp [Level.mentions, plain]
    simp [Level.allMentions, understood.mentions turn notTrailing, understood.turn turn notTrailing,
      takes, nothing _ plain]
  | attached attaches =>
    have understood := offers.understands_attaches attaches
    simp [Level.allMentions, understood.mentions turn notTrailing]

end

namespace Progress

variable {level : Level} {progress settled : Progress} {switch : Switch} {written : Option String}
  {tokens front : List String} {next : Turn} {value : Value}

/-- What has not been checked successfully is not accepted. -/
theorem accept_error (name : String) (rejection : Rejection) :
    (progress.accept name (.error rejection)).toOption = none := by
  rw [accept]
  split <;> rfl

/-- An option that takes no value is accepted at once. -/
theorem toOption_carryOut (flag : switch.takes = false) :
    (progress.carryOut switch).toOption = progress.settle.toOption.bind fun settled =>
      (settled.accept switch.name (switch.check none)).toOption := by
  rw [carryOut, toOption_bind]
  refine congrArg _ (funext fun settled => ?_)
  cases effect : switch.effect with
  | take kind => simp [Switch.takes, effect] at flag
  | set => simp [Switch.check, effect]
  | help | version =>
    simp only [Switch.check, effect, accept_error]
    rfl

/-- An option with its value attached is accepted at once. -/
theorem toOption_carryOutWith (value : String) :
    (progress.carryOutWith switch value).toOption = progress.settle.toOption.bind fun settled =>
      (settled.accept switch.name (switch.check (some value))).toOption := by
  rw [carryOutWith.eq_def]
  cases effect : switch.effect with
  | take kind => simp [Switch.check, effect, toOption_bind]
  | set | help | version =>
    simp only [Switch.check, effect, accept_error]
    cases progress.settle.toOption <;> rfl

/-- An option whose value is the next argument is accepted behind that.

The value is held for a while, but that makes no difference. -/
theorem outcome?_apart {value : String} (takes : switch.takes = true)
    (begun : progress.trailing = false) (plain : Form.of value = .plain) (rest : List String) :
    (progress.carryOut switch).toOption.bind (·.outcome? level (value :: rest)) =
      progress.settle.toOption.bind fun settled =>
        (settled.accept switch.name (switch.check (some value))).toOption.bind
          (·.outcome? level rest) := by
  cases effect : switch.effect with
  | set | help | version => simp [Switch.takes, effect] at takes
  | take kind =>
    rw [carryOut, toOption_bind, Option.bind_assoc]
    cases checked : progress.settle with
    | error rejection => rfl
    | ok settled =>
      obtain ⟨pending, -, trailing⟩ := settle_eq_ok checked
      let awaited : Progress := { settled with pending := .awaited switch.name kind }
      let held : Progress := { settled with pending := .held switch.name kind value }
      have begun : settled.trailing = false := trailing.trans begun
      have read : awaited.read level value = .ok held := read_awaited begun plain rfl
      have free : held.turn ≠ .awaiting := by simp [held, turn, begun]
      have accepts : held.settle = settled.accept switch.name (switch.check (some value)) := by
        have nothing : { settled with pending := .nothing } = settled := by rw [← pending]
        have check : switch.check (some value) = kind.check value := by simp [Switch.check, effect]
        rw [check]
        exact congrArg (·.accept switch.name (kind.check value)) nothing
      calc
        _ = awaited.outcome? level (value :: rest) := by rw [effect]; rfl
        _ = held.outcome? level rest := by rw [outcome?_cons, read]; rfl
        _ = held.settle.toOption.bind (·.outcome? level rest) := outcome?_eq_settle rest free
        _ = _ := by rw [accepts]; rfl

/-- To read an option with its value is to check what is pending and then to accept the option, as
far as acceptance goes. -/
theorem outcome?_written (writes : switch.Written written tokens) (offers : level.Offers switch)
    (begun : progress.trailing = false) (rest : List String) :
    progress.outcome? level (tokens ++ rest) =
      progress.settle.toOption.bind fun settled =>
        (settled.accept switch.name (switch.check written)).toOption.bind
          (·.outcome? level rest) := by
  cases writes with
  | alone names flag =>
    have understood := offers.understands_names names
    rw [List.singleton_append, outcome?_cons, understood.read progress begun,
      toOption_carryOut flag, Option.bind_assoc]
  | attached attaches =>
    have understood := offers.understands_attaches attaches
    rw [List.singleton_append, outcome?_cons, understood.read progress begun,
      toOption_carryOutWith, Option.bind_assoc]
  | apart names takes plain =>
    have understood := offers.understands_names names
    rw [List.cons_append, List.singleton_append, outcome?_cons, understood.read progress begun]
    exact outcome?_apart takes begun plain rest

/-! ## Writing an option among other arguments -/

/-- An option may be written behind any arguments but two dashes: what is pending there is checked,
and then the option is accepted, as far as acceptance goes. -/
theorem outcome?_append_written (writes : switch.Written written tokens)
    (offers : level.Offers switch) (walked : level.walk progress.turn front = some next)
    (notTrailing : next ≠ .trailing) (rest : List String) :
    progress.outcome? level (front ++ (tokens ++ rest)) =
      (progress.outcome? level front).bind fun settled =>
        (settled.accept switch.name (switch.check written)).toOption.bind
          (·.outcome? level rest) := by
  rw [outcome?_append, outcome?, toOption_bind, Option.bind_assoc]
  cases reads : progress.readEach level front with
  | error rejection => rfl
  | ok read =>
    have begun : read.trailing = false := by
      have turn := turn_readEach walked reads
      by_contra trailing
      simp_all [Progress.turn]
    exact outcome?_written writes offers begun rest

/-- An option that is not checked successfully is not accepted anywhere. -/
theorem outcome?_append_error {rejection : Rejection} (writes : switch.Written written tokens)
    (offers : level.Offers switch) (walked : level.walk progress.turn front = some next)
    (notTrailing : next ≠ .trailing) (malformed : switch.check written = .error rejection)
    (rest : List String) : progress.outcome? level (front ++ (tokens ++ rest)) = none := by
  rw [outcome?_append_written writes offers walked notTrailing, malformed]
  simp [accept_error]

/-- An option that is checked successfully is accepted among arguments that do not mention it if and
only if they are accepted without it, and it is all that is accepted beside them. -/
theorem outcome?_append_ok {rest : List String} (writes : switch.Written written tokens)
    (offers : level.Offers switch) (checked : switch.check written = .ok value)
    (walked : level.walk .free front = some .free)
    (unmentionedBefore : switch.name ∉ level.allMentions .free front)
    (unmentionedBehind : switch.name ∉ level.allMentions .free rest) :
    Option.Rel (Gains switch.name value) ((start level).outcome? level (front ++ rest))
      ((start level).outcome? level (front ++ (tokens ++ rest))) := by
  have gains : Gains switch.name value (start level)
      { start level with accepted := [(switch.name, value)] } :=
    .of_lacks rfl (by simp [start, pendingName?]) offers.noSlot value
  have walked : level.walk (start level).turn front = some .free := walked
  rw [outcome?_append_of_unawaited walked (by decide),
    outcome?_append_written writes offers walked (by decide), checked]
  have parts := gains.outcome? unmentionedBefore
  cases before : (start level).outcome? level front with
  | none => exact .none
  | some settled =>
    rw [before] at parts
    generalize Progress.outcome? level _ front = other at parts
    cases parts with
    | some related =>
      obtain ⟨accepted, accepts, gains⟩ := related.accepts
      have free : settled.turn = .free := turn_outcome? walked before
      rw [Option.bind_some, Option.bind_some, accepts]
      exact gains.outcome? (free ▸ unmentionedBehind)

end Progress

end Dialogs.Cli
