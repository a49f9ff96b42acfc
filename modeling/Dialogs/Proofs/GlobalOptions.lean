import Dialogs.Cli.CommandLine
import Dialogs.Proofs.OptionSpelling

/-!
# Options on either side of a command

The options that hold for every command may stand in front of the name of the command and behind it.
The arguments in front are read at the level of the program and those behind at the level of the
command, and neither level knows what the other accepts. A command line is accepted if and only if
both levels accept their part and the command has what it requires.

So an option that is written once may be moved from in front of the name to directly behind it. The
exception is an option that has come between another option and its value. There the command line is
rejected, and it may be accepted when the option is moved away.
-/

namespace Dialogs.Cli

open Progress (start)

variable {entry : Entry} {switch : Switch} {written : Option String}
  {tokens front before middle behind : List String} {name : String} {value : Value}

/-! ## The two levels -/

/-- An option for every command can be told from everything else by its name and by its letter. -/
theorem spelling_of_global : ∀ switch ∈ globalSwitches,
    switch.name.toList ≠ [] ∧ '=' ∉ switch.name.toList ∧ '-' ∉ switch.letter := by
  decide

/-- The program has the options for every command. -/
theorem programLevel_offers (isGlobal : switch ∈ globalSwitches) : programLevel.Offers switch := by
  have offered : ∀ switch ∈ globalSwitches, programLevel.named? switch.name = some switch ∧
      switch.letter.bind programLevel.lettered? = switch.letter.map fun _ => switch := by decide
  have plain : ∀ command ∈ programLevel.commands, Progress.Form.of command = .plain := by decide
  obtain ⟨named, lettered⟩ := offered switch isGlobal
  obtain ⟨filled, unsigned, undashed⟩ := spelling_of_global switch isGlobal
  exact ⟨named, lettered, filled, unsigned, undashed, by simp [programLevel], plain⟩

/-- Every command has the options for every command, and tells them from what it has of its own. -/
theorem Entry.level_offers (member : entry ∈ entries) (isGlobal : switch ∈ globalSwitches) :
    entry.level.Offers switch := by
  have offered : ∀ entry ∈ entries, ∀ switch ∈ globalSwitches,
      entry.level.named? switch.name = some switch ∧
        switch.letter.bind entry.level.lettered? = (switch.letter.map fun _ => switch) ∧
          ∀ slot ∈ entry.level.slots, slot.name ≠ switch.name := by decide
  obtain ⟨named, lettered, noSlot⟩ := offered entry member switch isGlobal
  obtain ⟨filled, unsigned, undashed⟩ := spelling_of_global switch isGlobal
  exact ⟨named, lettered, filled, unsigned, undashed, noSlot, by simp [Entry.level]⟩

/-- A command that is found by its name is one of the program. -/
theorem mem_entries_of_found (found : entry? name = some entry) : entry ∈ entries :=
  List.mem_of_find?_eq_some found

/-- The names of what a command has of its own. -/
def Entry.ownNames (entry : Entry) : List String :=
  entry.switches.map Switch.name ++ entry.slots.map Slot.name

/-- What is asked for depends on no more than what the command has of its own. -/
theorem Entry.request_congr (member : entry ∈ entries) {first second : Progress}
    (same : ∀ own ∈ entry.ownNames, first.value? own = second.value? own) :
    entry.request first = entry.request second := by
  simp only [entries, List.mem_cons, List.not_mem_nil, or_false] at member
  rcases member with rfl | rfl | rfl | rfl | rfl | rfl | rfl | rfl | rfl | rfl <;>
    simp_all [Entry.ownNames, Progress.text?, Progress.has, Progress.icon?, messageSlots,
      fileSwitches]

/-- Nothing that a command has of its own is called like an option for every command. -/
theorem Entry.name_notMem_ownNames (member : entry ∈ entries)
    (isGlobal : switch ∈ globalSwitches) : switch.name ∉ entry.ownNames := by
  have apart : ∀ entry ∈ entries, ∀ switch ∈ globalSwitches, switch.name ∉ entry.ownNames := by
    decide
  exact apart entry member switch isGlobal

/-- What two levels come to, unless an argument that the command requires is missing. -/
def Entry.combine? (entry : Entry) (outer inner : Progress) : Option CommandLine :=
  if entry.level.slots.all fun slot => !slot.required || (inner.value? slot.name).isSome then
    some ⟨flagsOf outer inner, entry.request inner⟩
  else none

section

variable {outer outerWith inner innerWith : Progress}
  (atProgram : outer.Gains switch.name value outerWith)
  (atCommand : inner.Gains switch.name value innerWith)

include atProgram atCommand

/-- A value is accepted at both levels or at none, or else it is that of the option, which either
level may accept. -/
theorem value?_gains (name : String) :
    (outerWith.value? name = outer.value? name ∧ innerWith.value? name = inner.value? name) ∨
      (outer.value? name = none ∧ outerWith.value? name = some value ∧
        inner.value? name = none ∧ innerWith.value? name = some value) := by
  by_cases same : name = switch.name
  · subst same
    exact .inr ⟨atProgram.lacks, atProgram.gains, atCommand.lacks, atCommand.gains⟩
  · exact .inl ⟨atProgram.others name same, atCommand.others name same⟩

/-- An option for every command has the same effect at whichever level it is accepted. -/
theorem flagsOf_gains : flagsOf outer innerWith = flagsOf outerWith inner := by
  have values := value?_gains atProgram atCommand
  have text (name : String) : (innerWith.text? name).or (outer.text? name) =
      (inner.text? name).or (outerWith.text? name) := by
    obtain ⟨outer, inner⟩ | ⟨outer, outerWith, inner, innerWith⟩ := values name <;>
      simp [Progress.text?, *]
  have number (name : String) : (innerWith.number? name).or (outer.number? name) =
      (inner.number? name).or (outerWith.number? name) := by
    obtain ⟨outer, inner⟩ | ⟨outer, outerWith, inner, innerWith⟩ := values name <;>
      simp [Progress.number?, *]
  have given (name : String) : (innerWith.has name || outer.has name) =
      (inner.has name || outerWith.has name) := by
    obtain ⟨outer, inner⟩ | ⟨outer, outerWith, inner, innerWith⟩ := values name <;>
      simp [Progress.has, *]
  rw [flagsOf, flagsOf, text, text, text, number, given]

/-- A command line comes to the same at whichever level an option for every command is accepted. -/
theorem Entry.combine?_gains (member : entry ∈ entries) (isGlobal : switch ∈ globalSwitches) :
    entry.combine? outer innerWith = entry.combine? outerWith inner := by
  have required : (entry.level.slots.all fun slot =>
      !slot.required || (innerWith.value? slot.name).isSome) =
      entry.level.slots.all fun slot => !slot.required || (inner.value? slot.name).isSome := by
    rw [Bool.eq_iff_iff, List.all_eq_true, List.all_eq_true]
    refine forall₂_congr fun slot inside => ?_
    rw [atCommand.others _ ((entry.level_offers member isGlobal).noSlot slot inside)]
  have request : entry.request innerWith = entry.request inner := by
    refine entry.request_congr member fun own inside => atCommand.others own fun same => ?_
    exact entry.name_notMem_ownNames member isGlobal (same ▸ inside)
  rw [combine?, combine?, required, request, flagsOf_gains atProgram atCommand]

end

/-- The same holds where either level may reject its arguments. -/
theorem Entry.bind_combine?_gains (member : entry ∈ entries) (isGlobal : switch ∈ globalSwitches)
    {outer outerWith inner innerWith : Option Progress}
    (atProgram : Option.Rel (Progress.Gains switch.name value) outer outerWith)
    (atCommand : Option.Rel (Progress.Gains switch.name value) inner innerWith) :
    (outer.bind fun outer => innerWith.bind (entry.combine? outer)) =
      outerWith.bind fun outer => inner.bind (entry.combine? outer) := by
  cases atProgram with
  | none => rfl
  | some gains =>
    cases atCommand with
    | none => rfl
    | some gainsInner => exact entry.combine?_gains gains gainsInner member isGlobal

/-! ## Command lines in parts -/

/-- Where there are no commands, a level does not end before its arguments do. -/
theorem walk_of_noCommands {level : Level} (noCommands : level.commands = []) (turn : Turn)
    (arguments : List String) : ∃ next, level.walk turn arguments = some next := by
  induction arguments generalizing turn with
  | nil => exact ⟨turn, rfl⟩
  | cons argument rest inductionHypothesis =>
    obtain ⟨next, walked⟩ := inductionHypothesis (level.turnBehind turn argument)
    exact ⟨next, by simp [Level.walk, noCommands, walked]⟩

/-- At a level without commands, all arguments are read. -/
theorem readAll_of_noCommands {level : Level} (noCommands : level.commands = [])
    (progress : Progress) (arguments : List String) :
    progress.readAll level arguments =
      progress.readEach level arguments >>= fun read => .ok (read, none) := by
  obtain ⟨next, walked⟩ := walk_of_noCommands noCommands progress.turn arguments
  simpa [Progress.readAll] using Progress.readAll_append walked []

/-- The arguments of a command are accepted if they are read, what is pending at their end is
checked, and nothing is missing. -/
theorem toOption_readCommand (outer : Progress) (entry : Entry) (arguments : List String) :
    (readCommand outer entry arguments).toOption =
      outer.settle.toOption.bind fun outer =>
        ((start entry.level).outcome? entry.level arguments).bind fun inner =>
          entry.combine? outer inner := by
  have parts : readCommand outer entry arguments =
      (start entry.level).readEach entry.level arguments >>= fun read =>
        read.finish entry.level >>= fun inner => outer.settle >>= fun outer =>
          .ok ⟨flagsOf outer inner, entry.request inner⟩ := by
    rw [readCommand, readAll_of_noCommands rfl, bind_assoc]
    rfl
  simp only [parts, Progress.outcome?, Progress.finish, Progress.toOption_bind, Option.bind_assoc]
  -- The level of the program is checked last. Which level is checked first decides why a command
  -- line is rejected, but not whether it is.
  rw [Option.bind_comm]
  refine congrArg _ (funext fun read => ?_)
  rw [Option.bind_comm]
  refine congrArg _ (funext fun inner => ?_)
  simp only [Entry.combine?]
  split
  · rfl
  · cases outer.settle <;> rfl

/-- A command line is accepted if and only if the arguments in front of the name are accepted at the
level of the program and those behind it at the level of the command. -/
theorem CommandLine.toOption_parse (walked : programLevel.walk .free front = some .free)
    (command : name ∈ programLevel.commands) (behind : List String) :
    (parse (front ++ name :: behind)).toOption =
      ( entry? name).bind fun entry =>
        ((start programLevel).outcome? programLevel front).bind fun outer =>
          ((start entry.level).outcome? entry.level behind).bind fun inner =>
            entry.combine? outer inner := by
  have walked : programLevel.walk (start programLevel).turn front = some .free := walked
  have parts : parse (front ++ name :: behind) =
      (start programLevel).readEach programLevel front >>= fun outer =>
        ( entry? name).elim (.error (helpOn behind)) (readCommand outer · behind) := by
    rw [parse, Progress.readAll_append walked, bind_assoc]
    -- Where the arguments in front are accepted, the name ends the level of the program.
    cases reads : (start programLevel).readEach programLevel front with
    | error rejection => rfl
    | ok outer =>
      have free : outer.turn = .free := Progress.turn_readEach walked reads
      have ends : outer.endsAt programLevel name = true := by
        rw [Progress.endsAt_eq]
        exact decide_eq_true ⟨free, command⟩
      have stops : outer.readAll programLevel (name :: behind) =
          .ok (outer, some (name, behind)) := by
        rw [Progress.readAll, if_pos ends]
      change (outer.readAll programLevel (name :: behind) >>= _) = _
      rw [stops]
      cases found : entry? name with
      | none => simp [bind, Except.bind, found, throw, throwThe, MonadExceptOf.throw]
      | some entry => simp [bind, Except.bind, found]
  rw [parts, Progress.toOption_bind]
  cases entry? name with
  | none => simp [Except.toOption]
  | some entry =>
    simp only [Option.elim_some, toOption_readCommand, Progress.outcome?, Progress.toOption_bind,
      Option.bind_assoc, Option.bind_some]

/-- Every command line that is accepted has such parts. -/
theorem CommandLine.divided_of_parse {arguments : List String} {line : CommandLine}
    (accepted : parse arguments = .ok line) :
    ∃ front name behind, arguments = front ++ name :: behind ∧
      programLevel.walk .free front = some .free ∧ name ∈ programLevel.commands := by
  obtain ⟨⟨outer, command⟩, reads, accepted⟩ := Json.ok_of_bind accepted
  cases command with
  | none => simp [throw, throwThe, MonadExceptOf.throw] at accepted
  | some command =>
    obtain ⟨front, divided, walked, member⟩ := Progress.divided_of_readAll reads
    exact ⟨front, command.1, command.2, divided, walked, member⟩

/-! ## Moving an option -/

namespace CommandLine

/-- The options that a command line mentions, in front of the name of its command and behind it. -/
def mentions (front : List String) (name : String) (behind : List String) : List String :=
  programLevel.allMentions .free front ++
    ( entry? name).elim [] fun entry => entry.level.allMentions .free behind

/-- The arguments around an option that is mentioned once do not mention it. -/
theorem unmentioned_of_once {next : Turn} (isGlobal : switch ∈ globalSwitches)
    (writes : switch.Written written tokens)
    (walked : programLevel.walk .free before = some next) (notTrailing : next ≠ .trailing)
    (once : (mentions (before ++ (tokens ++ middle)) name behind).count switch.name = 1) :
    switch.name ∉ programLevel.allMentions .free before ∧
      switch.name ∉ programLevel.allMentions .free middle ∧
        ∀ entry, entry? name = some entry →
          switch.name ∉ entry.level.allMentions .free behind := by
  have offers := programLevel_offers isGlobal
  rw [mentions, Level.allMentions_append walked,
    Level.allMentions_append (writes.walk offers notTrailing),
    writes.allMentions offers notTrailing] at once
  simp only [List.count_append, List.count_singleton_self] at once
  refine ⟨List.count_eq_zero.mp (by omega), List.count_eq_zero.mp (by omega), fun entry found => ?_⟩
  rw [found, Option.elim_some] at once
  exact List.count_eq_zero.mp (by omega)

/-- An option that is written where any argument may stand has the same effect directly behind the
name of the command. -/
theorem toOption_parse_moved (isGlobal : switch ∈ globalSwitches)
    (writes : switch.Written written tokens)
    (walkedBefore : programLevel.walk .free before = some .free)
    (walkedMiddle : programLevel.walk .free middle = some .free)
    (command : name ∈ programLevel.commands)
    (once : (mentions (before ++ (tokens ++ middle)) name behind).count switch.name = 1) :
    (parse (before ++ middle ++ name :: (tokens ++ behind))).toOption =
      (parse (before ++ (tokens ++ middle) ++ name :: behind)).toOption := by
  have offers := programLevel_offers isGlobal
  obtain ⟨unmentionedBefore, unmentionedMiddle, unmentionedBehind⟩ :=
    unmentioned_of_once isGlobal writes walkedBefore (by decide) once
  have walkedTokens : programLevel.walk .free tokens = some .free :=
    writes.walk offers (by decide)
  rw [toOption_parse (by simp [Level.walk_append, walkedBefore, walkedMiddle]) command,
    toOption_parse (by simp [Level.walk_append, walkedBefore, walkedTokens, walkedMiddle]) command]
  cases found : entry? name with
  | none => rfl
  | some entry =>
    have member := mem_entries_of_found found
    have innerOffers := entry.level_offers member isGlobal
    rw [Option.bind_some, Option.bind_some]
    cases checked : switch.check written with
    | error rejection =>
      -- A value that is not accepted is rejected at either level.
      have walkedNothing : entry.level.walk (start entry.level).turn [] = some .free := rfl
      have moved := Progress.outcome?_append_error writes innerOffers walkedNothing (by decide)
        checked behind
      have walkedBefore : programLevel.walk (start programLevel).turn before = some .free :=
        walkedBefore
      have original := Progress.outcome?_append_error writes offers walkedBefore (by decide)
        checked middle
      rw [List.nil_append] at moved
      rw [moved, original]
      simp
    | ok value =>
      have atProgram : Option.Rel (Progress.Gains switch.name value) _ _ :=
        Progress.outcome?_append_ok writes offers checked walkedBefore unmentionedBefore
          unmentionedMiddle
      have walkedNothing : entry.level.walk .free [] = some .free := rfl
      have atCommand : Option.Rel (Progress.Gains switch.name value) _ _ :=
        Progress.outcome?_append_ok writes innerOffers checked walkedNothing List.not_mem_nil
          (unmentionedBehind entry found)
      exact entry.bind_combine?_gains member isGlobal atProgram atCommand

/-- A command line is rejected if another option stands where the value of an option is missing. -/
theorem toOption_parse_awaiting (isGlobal : switch ∈ globalSwitches)
    (writes : switch.Written written tokens)
    (walkedBefore : programLevel.walk .free before = some .awaiting)
    (walkedMiddle : programLevel.walk .free middle = some .free)
    (command : name ∈ programLevel.commands) (behind : List String) :
    (parse (before ++ (tokens ++ middle) ++ name :: behind)).toOption = none := by
  have offers := programLevel_offers isGlobal
  have walkedTokens : programLevel.walk .awaiting tokens = some .free :=
    writes.walk offers (by decide)
  have walked : programLevel.walk (start programLevel).turn before = some .awaiting := walkedBefore
  have divided : programLevel.walk .free (before ++ (tokens ++ middle)) = some .free := by
    simp [Level.walk_append, walkedBefore, walkedTokens, walkedMiddle]
  rw [toOption_parse divided command,
    Progress.outcome?_append_written writes offers walked (by decide),
    Progress.outcome?_of_awaiting walked]
  simp

/-- An option for every command that is mentioned once, in front of the name of the command, may be
moved with its value to directly behind the name: a command line is accepted with the same result as
before. Only an option that has stood where the value of another option is missing is to be
excepted, as there the command line has been rejected. -/
theorem parse_eq_ok_iff_moved (isGlobal : switch ∈ globalSwitches)
    (writes : switch.Written written tokens)
    (divided : programLevel.walk .free (before ++ (tokens ++ middle)) = some .free)
    (command : name ∈ programLevel.commands)
    (once : (mentions (before ++ (tokens ++ middle)) name behind).count switch.name = 1)
    (line : CommandLine) :
    parse (before ++ (tokens ++ middle) ++ name :: behind) = .ok line ↔
      programLevel.walk .free before ≠ some .awaiting ∧
        parse (before ++ middle ++ name :: (tokens ++ behind)) = .ok line := by
  have offers := programLevel_offers isGlobal
  rw [Level.walk_append] at divided
  obtain ⟨next, walkedBefore, walked⟩ := Option.bind_eq_some_iff.mp divided
  have notTrailing : next ≠ .trailing := by
    rintro rfl
    simp [Level.walk_trailing] at walked
  have walkedMiddle : programLevel.walk .free middle = some .free := by
    simpa [Level.walk_append, writes.walk offers notTrailing] using walked
  have accepted_iff (arguments : List String) :
      parse arguments = .ok line ↔ (parse arguments).toOption = some line := by
    cases parse arguments <;> simp [Except.toOption]
  rw [accepted_iff, accepted_iff, walkedBefore]
  cases next with
  | trailing => exact absurd rfl notTrailing
  | awaiting =>
    rw [toOption_parse_awaiting isGlobal writes walkedBefore walkedMiddle command]
    simp
  | free =>
    rw [toOption_parse_moved isGlobal writes walkedBefore walkedMiddle command once]
    simp

/-- The backend may be called like a command, and the directory of the log as well. -/
theorem parse_eq_ok_iff_moved_backend :
    parse ["--log-dir", "show", "--backend", "load", "-d", "show", "-", "--json"] =
        .ok ⟨⟨none, some "load", true, none, some "show"⟩, .show (some "-") false true false⟩ ∧
      parse ["--log-dir", "show", "-d", "show", "--backend", "load", "-", "--json"] =
        .ok ⟨⟨none, some "load", true, none, some "show"⟩, .show (some "-") false true false⟩ := by
  have accepted :
      parse ["--log-dir", "show", "--backend", "load", "-d", "show", "-", "--json"] =
        .ok ⟨⟨none, some "load", true, none, some "show"⟩, .show (some "-") false true false⟩ := by
    rfl
  have isGlobal : ⟨"backend", some 'b', .take .text⟩ ∈ globalSwitches := by decide
  have writes : Switch.Written ⟨"backend", some 'b', .take .text⟩ (some "load")
      ["--backend", "load"] := .apart .long rfl (by decide)
  have moved (line : CommandLine) :
      parse (["--log-dir", "show"] ++ (["--backend", "load"] ++ ["-d"]) ++
          "show" :: ["-", "--json"]) = .ok line ↔
        programLevel.walk .free ["--log-dir", "show"] ≠ some .awaiting ∧
          parse (["--log-dir", "show"] ++ ["-d"] ++
            "show" :: (["--backend", "load"] ++ ["-", "--json"])) = .ok line :=
    parse_eq_ok_iff_moved isGlobal writes (by decide) (by decide) (by decide) line
  exact ⟨accepted, ((moved _).mp accepted).2⟩

/-- If an option has stood where the value of another one is missing, then moving it may make the
name of the command the missing value. -/
theorem moved_from_missing_value :
    (⟨"debug", some 'd', .set⟩ : Switch) ∈ globalSwitches ∧
      Switch.Written ⟨"debug", some 'd', .set⟩ none ["--debug"] ∧
      programLevel.walk .free ["--executable", "--debug"] = some .free ∧
      "show" ∈ programLevel.commands ∧
      (mentions ["--executable", "--debug"] "show" ["show"]).count "debug" = 1 ∧
      parse ["--executable", "--debug", "show", "show"] = .error .valueMissing ∧
      parse ["--executable", "show", "--debug", "show"] =
        .ok ⟨⟨some "show", none, true, none, none⟩, .show none false false false⟩ := by
  refine ⟨by decide, .alone .long rfl, by decide, by decide, by decide, ?rejected, ?accepted⟩
  case rejected => rfl
  case accepted => rfl

end CommandLine

end Dialogs.Cli
