import Dialogs.Proofs.OptionReading

/-!
# What reading options depends on

If an option is not mentioned, then it makes no difference to reading whether the option has been
accepted already: the same arguments are rejected, and otherwise the same is accepted beside it. Nor
does it make a difference when a value is checked that has been read, as long as only acceptance is
looked at.
-/

namespace Dialogs.Cli

open Progress (Form)

namespace Progress

variable {level : Level} {progress after : Progress} {switch : Switch} {name argument : String}
  {value : Value}

/-! ### Options that are not mentioned -/

/-- The name of the argument whose value is pending. -/
def pendingName? (progress : Progress) : Option String :=
  match progress.pending with
  | .nothing => none
  | .awaited name _ | .held name _ _ => some name

/-- The second progress differs from the first in one thing: a value has been accepted for a name
for which the first has none. The name is neither pending nor that of a positional argument. -/
structure Gains (name : String) (value : Value) (progress other : Progress) : Prop where
  pending : other.pending = progress.pending
  slots : other.slots = progress.slots
  trailing : other.trailing = progress.trailing
  lacks : progress.value? name = none
  gains : other.value? name = some value
  others : ∀ apart, apart ≠ name → other.value? apart = progress.value? apart
  notPending : progress.pendingName? ≠ some name
  noSlot : ∀ slot ∈ progress.slots, slot.name ≠ name

/-- Two readings that are both rejected, for the same reason, or that arrive at related places. -/
inductive Alike (Related : Progress → Progress → Prop) :
    Except Rejection Progress → Except Rejection Progress → Prop where
  | rejected (rejection : Rejection) : Alike Related (.error rejection) (.error rejection)
  | accepted {progress other : Progress} (related : Related progress other) :
    Alike Related (.ok progress) (.ok other)

variable {other : Progress} {Related : Progress → Progress → Prop}

/-- Readings that are alike stay alike when they go on alike from related places. -/
theorem Alike.bind {first second : Except Rejection Progress}
    {next nextOther : Progress → Except Rejection Progress} (alike : Alike Related first second)
    (goOn : ∀ progress other, first = .ok progress → Related progress other →
      Alike Related (next progress) (nextOther other)) :
    Alike Related (first >>= next) (second >>= nextOther) := by
  cases alike with
  | rejected rejection => exact .rejected rejection
  | accepted related => exact goOn _ _ rfl related

/-- The value for a name that has been accepted last. -/
theorem value?_cons (accepted : List (String × Value)) (pending : Pending) (slots : List Slot)
    (trailing : Bool) (first : String) (name : String) :
    (⟨(first, value) :: accepted, pending, slots, trailing⟩ : Progress).value? name =
      if first = name then some value
      else (⟨accepted, pending, slots, trailing⟩ : Progress).value? name := by
  by_cases same : first = name <;> simp [value?, same]

/-- A name that nothing has been accepted for may gain a value. -/
theorem Gains.of_lacks (lacks : progress.value? name = none)
    (notPending : progress.pendingName? ≠ some name)
    (noSlot : ∀ slot ∈ progress.slots, slot.name ≠ name) (value : Value) :
    Gains name value progress
      { progress with accepted := (name, value) :: progress.accepted } where
  pending := rfl
  slots := rfl
  trailing := rfl
  lacks := lacks
  gains := by rw [value?_cons, if_pos rfl]
  others apart different := by rw [value?_cons, if_neg different.symm]
  notPending := notPending
  noSlot := noSlot

/-- What is gained can also be accepted. -/
theorem Gains.accepts (gains : Gains name value progress other) :
    ∃ accepted, progress.accept name (.ok value) = .ok accepted ∧
      Gains name value progress accepted :=
  ⟨_, by simp [Progress.accept, gains.lacks],
    .of_lacks gains.lacks gains.notPending gains.noSlot value⟩

/-- Another argument may be pending, as long as it is not the one that is gained. -/
theorem Gains.withPending (gains : Gains name value progress other) (pending : Pending)
    (notPending : ({ progress with pending } : Progress).pendingName? ≠ some name) :
    Gains name value { progress with pending } { other with pending } :=
  { gains with pending := rfl, notPending }

/-- Other positional arguments may follow, as long as none is the one that is gained. -/
theorem Gains.withSlots (gains : Gains name value progress other) {slots : List Slot}
    (noSlot : ∀ slot ∈ slots, slot.name ≠ name) :
    Gains name value { progress with slots } { other with slots } :=
  { gains with slots := rfl, noSlot }

/-- Accepting an argument of another name. -/
theorem Gains.accept (gains : Gains name value progress other) {apart : String}
    (different : apart ≠ name) (checked : Except Rejection Value) :
    Alike (Gains name value) (progress.accept apart checked) (other.accept apart checked) := by
  rw [Progress.accept.eq_def, Progress.accept.eq_def, gains.others apart different]
  split
  · exact .rejected _
  · cases checked with
    | error rejection => exact .rejected rejection
    | ok accepted =>
      refine .accepted ⟨gains.pending, gains.slots, gains.trailing, ?_, ?_, ?_, gains.notPending,
        gains.noSlot⟩
      · rw [value?_cons, if_neg different]
        exact gains.lacks
      · rw [value?_cons, if_neg different]
        exact gains.gains
      · intro another distinct
        rw [value?_cons, value?_cons]
        split
        · rfl
        · exact gains.others another distinct

/-- Checking what is pending. -/
theorem Gains.settle (gains : Gains name value progress other) :
    Alike (Gains name value) progress.settle other.settle := by
  rw [Progress.settle.eq_def, Progress.settle.eq_def, gains.pending]
  have notPending := gains.notPending
  rw [pendingName?] at notPending
  cases pending : progress.pending with
  | nothing => exact .accepted gains
  | awaited apart kind => exact .rejected _
  | held apart kind written =>
    have different : apart ≠ name := by simpa [pending] using notPending
    have nothingLeft : Gains name value { progress with pending := .nothing }
        { other with pending := .nothing } := gains.withPending .nothing nofun
    exact nothingLeft.accept different _

/-- Carrying out another option. -/
theorem Gains.carryOut (gains : Gains name value progress other) (different : switch.name ≠ name) :
    Alike (Gains name value) (progress.carryOut switch) (other.carryOut switch) := by
  refine gains.settle.bind fun settled settledOther _ gains => ?_
  cases switch.effect with
  | help | version => exact .rejected _
  | set => exact gains.accept different _
  | take kind =>
    exact .accepted (gains.withPending (.awaited switch.name kind) fun same =>
      different (Option.some.inj same))

/-- Carrying out another option with its value attached. -/
theorem Gains.carryOutWith (gains : Gains name value progress other)
    (different : switch.name ≠ name) (written : String) :
    Alike (Gains name value) (progress.carryOutWith switch written)
      (other.carryOutWith switch written) := by
  rw [Progress.carryOutWith.eq_def, Progress.carryOutWith.eq_def]
  cases switch.effect with
  | take kind => exact gains.settle.bind fun _ _ _ gains => gains.accept different _
  | set | help | version => exact .rejected _

/-- Reading a long option that is another one. -/
theorem Gains.long (gains : Gains name value progress other) {body : List Char}
    (unmentioned : ∀ switch,
      level.named? (String.ofList (body.takeWhile (· != '='))) = some switch →
        switch.name ≠ name) :
    Alike (Gains name value) (progress.long level body) (other.long level body) := by
  cases known : level.named? (String.ofList (body.takeWhile (· != '='))) with
  | none =>
    simp only [Progress.long, known]
    exact .rejected _
  | some switch =>
    have different := unmentioned switch known
    simp only [Progress.long, known]
    cases body.drop (body.takeWhile (· != '=')).length with
    | nil => exact gains.carryOut different
    | cons sign written => exact gains.carryOutWith different _

/-- Reading letters that are of other options. -/
theorem Gains.letters (gains : Gains name value progress other) {letters : List Char}
    (unmentioned : name ∉ level.letterMentions letters) :
    Alike (Gains name value) (progress.letters level letters) (other.letters level letters) := by
  induction letters generalizing progress other with
  | nil => exact .accepted gains
  | cons letter rest inductionHypothesis =>
    rw [Level.letterMentions] at unmentioned
    cases known : level.lettered? letter with
    | none =>
      rw [letters_unknown known, letters_unknown known]
      exact .rejected _
    | some switch =>
      simp only [known] at unmentioned
      by_cases takes : switch.takes = true
      · have different : switch.name ≠ name := by
          simpa [takes, eq_comm] using unmentioned
        by_cases ended : rest = []
        · rw [ended, letters_take known takes, letters_take known takes]
          exact gains.carryOut different
        · rw [letters_take_attached known takes ended, letters_take_attached known takes ended]
          exact gains.carryOutWith different _
      · have flag : switch.takes = false := by simpa using takes
        obtain ⟨different, later⟩ : name ≠ switch.name ∧ name ∉ level.letterMentions rest := by
          simpa [flag] using unmentioned
        rw [letters_flag known flag, letters_flag known flag]
        exact (gains.carryOut different.symm).bind fun _ _ _ gains =>
          inductionHypothesis gains later

/-- Reading a positional argument. -/
theorem Gains.place (gains : Gains name value progress other) (level : Level) (argument : String) :
    Alike (Gains name value) (progress.place level argument) (other.place level argument) := by
  have noSlot := gains.noSlot
  rw [Progress.place, Progress.place, gains.slots, gains.trailing]
  refine gains.settle.bind fun settled settledOther _ gains => ?_
  cases slots : progress.slots with
  | nil =>
    dsimp only
    split <;> exact .rejected _
  | cons slot rest =>
    rw [slots] at noSlot
    obtain ⟨different, fewer⟩ := List.forall_mem_cons.mp noSlot
    have held := gains.withPending (.held slot.name slot.kind argument) fun same =>
      different (Option.some.inj same)
    exact .accepted (held.withSlots fewer)

/-- What may follow is the same. -/
theorem Gains.turn (gains : Gains name value progress other) : other.turn = progress.turn := by
  rw [Progress.turn, Progress.turn, gains.pending, gains.trailing]

/-- Reading an argument that does not mention the option. -/
theorem Gains.read (gains : Gains name value progress other)
    (unmentioned : name ∉ level.mentions progress.turn argument) :
    Alike (Gains name value) (progress.read level argument) (other.read level argument) := by
  cases begun : progress.trailing with
  | true =>
    rw [read_trailing begun, read_trailing (gains.trailing.trans begun)]
    exact gains.place level argument
  | false =>
    have begunOther : other.trailing = false := gains.trailing.trans begun
    rw [Level.mentions, if_neg (turn_ne_trailing begun)] at unmentioned
    cases form : Form.of argument with
    | escape =>
      rw [read_escape begun form, read_escape begunOther form]
      exact .accepted { gains with trailing := rfl }
    | long body =>
      rw [read_long begun form, read_long begunOther form]
      refine gains.long fun switch known => ?_
      simpa [form, known, eq_comm] using unmentioned
    | letters letters =>
      rw [read_letters begun form, read_letters begunOther form]
      refine gains.letters ?_
      simpa [form] using unmentioned
    | plain =>
      by_cases awaiting : progress.turn = .awaiting
      · obtain ⟨awaited, kind, pending⟩ := awaited_of_turn awaiting
        have notPending := gains.notPending
        rw [pendingName?, pending] at notPending
        rw [read_awaited begun form pending,
          read_awaited begunOther form (gains.pending.trans pending)]
        exact .accepted (gains.withPending (.held awaited kind argument) notPending)
      · rw [read_plain begun form awaiting,
          read_plain begunOther form (gains.turn.trans_ne awaiting)]
        exact gains.place level argument

/-- Reading arguments none of which mentions the option.

Proof: by induction over the arguments. What the next one may be is told by those in front, so the
options that it mentions are the same for both readings. -/
theorem Gains.readEach (gains : Gains name value progress other) {arguments : List String}
    (unmentioned : name ∉ level.allMentions progress.turn arguments) :
    Alike (Gains name value) (progress.readEach level arguments)
      (other.readEach level arguments) := by
  induction arguments generalizing progress other with
  | nil => exact .accepted gains
  | cons argument rest inductionHypothesis =>
    rw [Level.allMentions, List.mem_append, not_or] at unmentioned
    rw [readEach_cons, readEach_cons]
    refine (gains.read unmentioned.1).bind fun after afterOther read gains => ?_
    rw [← turn_read read] at unmentioned
    exact inductionHypothesis gains unmentioned.2

/-! ### Checking early -/

/-- What has been accepted when all arguments have been read and what is pending has been checked,
unless something is rejected. -/
def outcome? (level : Level) (progress : Progress) (arguments : List String) : Option Progress :=
  (progress.readEach level arguments >>= settle).toOption

/-- A step that checks what is pending before it does anything else: it accepts the same if that is
checked in front of it. -/
def ChecksFirst (step : Progress → Except Rejection Progress) (progress : Progress) : Prop :=
  (step progress).toOption = progress.settle.toOption.bind fun settled => (step settled).toOption

/-- Two readings in a row are accepted if both of them are. -/
theorem toOption_bind {α β : Type} (first : Except Rejection α) (next : α → Except Rejection β) :
    (first >>= next).toOption = first.toOption.bind fun value => (next value).toOption := by
  cases first <;> rfl

theorem outcome?_nil : progress.outcome? level [] = progress.settle.toOption := rfl

theorem outcome?_append (front rest : List String) :
    progress.outcome? level (front ++ rest) =
      (progress.readEach level front).toOption.bind (·.outcome? level rest) := by
  simp only [outcome?, readEach_append, toOption_bind, Option.bind_assoc]

theorem outcome?_cons (rest : List String) :
    progress.outcome? level (argument :: rest) =
      (progress.read level argument).toOption.bind (·.outcome? level rest) := by
  simp only [outcome?, readEach_cons, toOption_bind, Option.bind_assoc]

/-- What has been checked is not checked again. -/
theorem settle_of_settled (settled : progress.settle = .ok after) : after.settle = .ok after := by
  have pending := (settle_eq_ok settled).1
  rw [settle.eq_def, pending]

/-- What is accepted is the same whether or not only positional arguments follow. -/
theorem accept_trailing (progress : Progress) (name : String)
    (checked : Except Rejection Value) :
    ({ progress with trailing := true } : Progress).accept name checked =
      (progress.accept name checked).map ({ · with trailing := true }) := by
  have same : ({ progress with trailing := true } : Progress).value? name = progress.value? name :=
    rfl
  rw [accept.eq_def, accept.eq_def, same]
  split
  · rfl
  · cases checked <;> rfl

/-- It makes no difference to what is checked whether only positional arguments follow. -/
theorem settle_trailing : ({ progress with trailing := true } : Progress).settle =
    progress.settle.map ({ · with trailing := true }) := by
  cases pending : progress.pending with
  | nothing => simp [settle, pending, Except.map]
  | awaited name kind => simp [settle, pending, Except.map]
  | held name kind written =>
    simp only [settle, pending]
    exact accept_trailing { progress with pending := .nothing } name (kind.check written)

/-- A step that goes on from what has been checked checks first. -/
theorem ChecksFirst.of_bind {step next : Progress → Except Rejection Progress}
    (checks : ∀ progress, step progress = progress.settle >>= next) :
    ChecksFirst step progress := by
  rw [ChecksFirst, checks, toOption_bind]
  cases settled : progress.settle with
  | error rejection => rfl
  | ok after =>
    simp only [Except.toOption, Option.bind_some]
    rw [checks, settle_of_settled settled]
    rfl

/-- A step that rejects everything checks first. -/
theorem ChecksFirst.of_error {step : Progress → Except Rejection Progress}
    (rejects : ∀ progress, (step progress).toOption = none) : ChecksFirst step progress := by
  rw [ChecksFirst, rejects]
  cases progress.settle.toOption with
  | none => rfl
  | some settled => exact (rejects settled).symm

/-- A step checks first if it is the same as one that does, before checking and behind it. -/
theorem ChecksFirst.congr {step same : Progress → Except Rejection Progress}
    (checks : ChecksFirst same progress) (before : step progress = same progress)
    (behind : ∀ after, progress.settle = .ok after → step after = same after) :
    ChecksFirst step progress := by
  rw [ChecksFirst, before, checks]
  cases settled : progress.settle with
  | error rejection => rfl
  | ok after => exact congrArg Except.toOption (behind after settled).symm

theorem checksFirst_carryOut : ChecksFirst (·.carryOut switch) progress :=
  .of_bind fun _ => rfl

theorem checksFirst_carryOutWith (written : String) :
    ChecksFirst (·.carryOutWith switch written) progress := by
  cases effect : switch.effect with
  | take kind => exact .of_bind fun progress => by rw [carryOutWith.eq_def, effect]
  | set | help | version =>
    exact .of_error fun progress => by
      rw [carryOutWith.eq_def, effect]
      rfl

theorem checksFirst_long (body : List Char) : ChecksFirst (·.long level body) progress := by
  cases known : level.named? (String.ofList (body.takeWhile (· != '='))) with
  | none => exact .of_error fun progress => by simp only [long, known]; rfl
  | some switch =>
    cases attached : body.drop (body.takeWhile (· != '=')).length with
    | nil =>
      have same : ∀ progress : Progress, progress.long level body = progress.carryOut switch :=
        fun progress => by simp only [long, known, attached]
      simp only [ChecksFirst, same]
      exact checksFirst_carryOut
    | cons sign value =>
      have same : ∀ progress : Progress, progress.long level body =
          progress.carryOutWith switch (String.ofList value) :=
        fun progress => by simp only [long, known, attached]
      simp only [ChecksFirst, same]
      exact checksFirst_carryOutWith _

theorem checksFirst_letters {letters : List Char} (filled : letters ≠ []) :
    ChecksFirst (·.letters level letters) progress := by
  obtain ⟨letter, rest, rfl⟩ := List.exists_cons_of_ne_nil filled
  cases known : level.lettered? letter with
  | none => exact .of_error fun progress => by rw [letters_unknown known]; rfl
  | some switch =>
    by_cases takes : switch.takes = true
    · by_cases ended : rest = []
      · simp only [ChecksFirst, ended, letters_take known takes]
        exact checksFirst_carryOut
      · simp only [ChecksFirst, letters_take_attached known takes ended]
        exact checksFirst_carryOutWith _
    · have checks : ChecksFirst (·.carryOut switch) progress := checksFirst_carryOut
      simp only [ChecksFirst, letters_flag known (by simpa using takes), toOption_bind]
      rw [checks, Option.bind_assoc]

theorem checksFirst_place (argument : String) : ChecksFirst (·.place level argument) progress := by
  cases settled : progress.settle with
  | error rejection =>
    rw [ChecksFirst, place, toOption_bind, settled]
    rfl
  | ok after =>
    obtain ⟨-, slots, trailing⟩ := settle_eq_ok settled
    simp only [ChecksFirst, place, settled, settle_of_settled settled, slots, trailing, bind,
      Except.bind, Except.toOption, Option.bind_some]

/-- Reading an argument checks first, unless the argument is two dashes or an awaited value. -/
theorem checksFirst_read
    (checks : progress.trailing = true ∨ Form.of argument ≠ .escape ∧
      (progress.turn = .awaiting → Form.of argument ≠ .plain)) :
    ChecksFirst (·.read level argument) progress := by
  have kept {after : Progress} (settled : progress.settle = .ok after) :
      after.trailing = progress.trailing ∧ after.turn ≠ .awaiting := by
    obtain ⟨pending, -, trailing⟩ := settle_eq_ok settled
    exact ⟨trailing, by rw [turn, pending]; split <;> simp⟩
  cases begun : progress.trailing with
  | true =>
    refine (checksFirst_place argument).congr (read_trailing begun) fun after settled => ?_
    exact read_trailing ((kept settled).1.trans begun)
  | false =>
    have begunAfter {after : Progress} (settled : progress.settle = .ok after) :
        after.trailing = false := (kept settled).1.trans begun
    obtain ⟨unescaped, unawaited⟩ := checks.resolve_left (by simp [begun])
    cases form : Form.of argument with
    | escape => exact absurd form unescaped
    | long body =>
      exact (checksFirst_long body).congr (read_long begun form) fun after settled =>
        read_long (begunAfter settled) form
    | letters letters =>
      exact (checksFirst_letters (letters_ne_nil form)).congr (read_letters begun form)
        fun after settled => read_letters (begunAfter settled) form
    | plain =>
      exact (checksFirst_place argument).congr
        (read_plain begun form fun awaiting => unawaited awaiting form) fun after settled =>
          read_plain (begunAfter settled) form (kept settled).2

/-- Where no value is awaited, it makes no difference to what is accepted in the end if what is
pending is checked early.

Proof: by induction over the arguments. All of them check first but two dashes, behind which the
same is pending as in front. -/
theorem outcome?_eq_settle (arguments : List String) (unawaited : progress.turn ≠ .awaiting) :
    progress.outcome? level arguments =
      progress.settle.toOption.bind (·.outcome? level arguments) := by
  induction arguments generalizing progress with
  | nil =>
    cases settled : progress.settle with
    | error rejection => simp [outcome?_nil, settled, Except.toOption]
    | ok after => simp [outcome?_nil, settled, settle_of_settled settled, Except.toOption]
  | cons argument rest inductionHypothesis =>
    simp only [outcome?_cons]
    by_cases dashes : progress.trailing = false ∧ Form.of argument = .escape
    · obtain ⟨begun, form⟩ := dashes
      have trailing : ({ progress with trailing := true } : Progress).turn ≠ .awaiting := by
        simp [turn]
      rw [read_escape begun form, Except.toOption, Option.bind_some, inductionHypothesis trailing,
        settle_trailing]
      cases settled : progress.settle with
      | error rejection => rfl
      | ok after =>
        have begunAfter : after.trailing = false := (settle_eq_ok settled).2.2.trans begun
        simp [Except.map, Except.toOption, read_escape begunAfter form]
    · have checks : ChecksFirst (·.read level argument) progress := by
        refine checksFirst_read ?_
        cases begun : progress.trailing with
        | true => exact .inl rfl
        | false =>
          exact .inr ⟨fun escape => dashes ⟨begun, escape⟩,
            fun awaiting => absurd awaiting unawaited⟩
      rw [checks, Option.bind_assoc]

/-! ### Parts of the arguments -/

/-- What is accepted in the end has been read and then checked. -/
theorem outcome?_eq_some {arguments : List String} {settled : Progress}
    (accepted : progress.outcome? level arguments = some settled) :
    ∃ read, progress.readEach level arguments = .ok read ∧ read.settle = .ok settled := by
  cases read : progress.readEach level arguments with
  | error rejection =>
    rw [outcome?, read] at accepted
    cases accepted
  | ok after =>
    cases checked : after.settle with
    | error rejection =>
      rw [outcome?, read] at accepted
      simp [bind, Except.bind, checked, Except.toOption] at accepted
    | ok final =>
      rw [outcome?, read] at accepted
      obtain rfl : final = settled := by
        simpa [bind, Except.bind, checked, Except.toOption] using accepted
      exact ⟨after, rfl, checked⟩

/-- Where any argument may follow, it may also when what is pending has been checked. -/
theorem turn_outcome? {front : List String} {settled : Progress}
    (walked : level.walk progress.turn front = some .free)
    (accepted : progress.outcome? level front = some settled) : settled.turn = .free := by
  obtain ⟨read, reads, checked⟩ := outcome?_eq_some accepted
  obtain ⟨pending, -, trailing⟩ := settle_eq_ok checked
  have free : read.turn = .free := turn_readEach walked reads
  have begun : read.trailing = false := by
    cases trailing : read.trailing <;> simp_all [turn]
  simp [turn, pending, trailing, begun]

/-- Nothing is accepted where the value of an option is missing at the end. -/
theorem outcome?_of_awaiting {front : List String}
    (walked : level.walk progress.turn front = some .awaiting) :
    progress.outcome? level front = none := by
  by_contra some
  obtain ⟨settled, accepted⟩ := Option.ne_none_iff_exists'.mp some
  obtain ⟨read, reads, checked⟩ := outcome?_eq_some accepted
  obtain ⟨name, kind, pending⟩ := awaited_of_turn (turn_readEach walked reads)
  simp [settle, pending] at checked

/-- Where no value is awaited, arguments may be read and checked in parts. -/
theorem outcome?_append_of_unawaited {front : List String} {next : Turn}
    (walked : level.walk progress.turn front = some next) (unawaited : next ≠ .awaiting)
    (rest : List String) :
    progress.outcome? level (front ++ rest) =
      (progress.outcome? level front).bind (·.outcome? level rest) := by
  rw [outcome?_append, outcome?, toOption_bind, Option.bind_assoc]
  cases reads : progress.readEach level front with
  | error rejection => rfl
  | ok read =>
    have turn : read.turn ≠ .awaiting := turn_readEach walked reads ▸ unawaited
    exact outcome?_eq_settle rest turn

/-- Readings that are alike are accepted alike. -/
theorem Alike.toOption {first second : Except Rejection Progress}
    (alike : Alike Related first second) : Option.Rel Related first.toOption second.toOption := by
  cases alike with
  | rejected rejection => exact .none
  | accepted related => exact .some related

/-- Arguments none of which mentions the option are accepted whether or not it has been. -/
theorem Gains.outcome? (gains : Gains name value progress other) {arguments : List String}
    (unmentioned : name ∉ level.allMentions progress.turn arguments) :
    Option.Rel (Gains name value) (progress.outcome? level arguments)
      (other.outcome? level arguments) :=
  ((gains.readEach unmentioned).bind fun _ _ _ gains => gains.settle).toOption

end Progress

end Dialogs.Cli
