import Dialogs.Proofs.FilterArgument

/-!
# What the arguments of a command say

The renderer is told by its arguments alone what to do. They are the mode, the positional arguments
that the mode always has, those that can be absent, and the arguments for the options. As the last
depend on nothing else but whether the backends are listed, two commands with the same arguments
under the same options have the same mode and the same positional arguments.

What the arguments do not tell apart is an absent text in front of a given one and the empty text,
and filters that are written alike. Nothing else is lost: commands that differ in no more than that
have the same arguments as soon as they have equally many of them.
-/

namespace Dialogs

namespace Command

/-! ## The parts of the arguments -/

/-- The positional arguments that a mode always has. -/
def required : Command → List String
  | .load path => [path]
  | .message title text _ | .confirm title text _ => [title, text]
  | .input title _ _ | .password title _ => [title]
  | _ => []

/-- The positional arguments that can be absent, in their order. -/
def optionals : Command → List (Option String)
  | .message _ _ icon | .confirm _ _ icon => [icon.map MessageIcon.name]
  | .input _ text value => [text, value]
  | .password _ text => [text]
  | .selectDir title dir => [title, dir]
  | .loadFile title filters dir | .saveFile title filters dir =>
    [title, filterArgument filters, dir]
  | _ => []

/-- The arguments behind the positional ones. A backend is of no use where the backends are
listed. -/
def optionSuffix (listing : Bool) (options : GlobalOptions) : List String :=
  (if listing then [] else options.backend.toList.flatMap fun backend => ["--backend", backend]) ++
    if options.debug then ["--debug"] else []

/-- A single optional argument is passed if it is given. -/
theorem positionals_singleton (value : Option String) : positionals [value] = value.toList := by
  cases value <;> rfl

/-- The positional arguments of a command are those that it always has and then the others. -/
theorem arguments_eq (command : Command) :
    command.arguments = command.required ++ positionals command.optionals := by
  cases command with
  | message title text icon | confirm title text icon =>
    rw [optionals, positionals_singleton, required, arguments]
  | _ => rfl

/-- The arguments for the options depend on no more of the command than whether it lists the
backends. -/
theorem optionArguments_eq (command : Command) (options : GlobalOptions) :
    command.optionArguments options = optionSuffix (command == .list) options := by
  obtain ⟨backend, debug⟩ := options
  cases backend <;> cases command <;> rfl

/-- The arguments of a command in their parts. -/
theorem args_eq (command : Command) (options : GlobalOptions) :
    command.args options =
      command.name :: (command.required ++ positionals command.optionals ++
        optionSuffix (command == .list) options) := by
  rw [args, arguments_eq, optionArguments_eq]

/-! ## Optional positional arguments -/

/-- An absent argument is left out if nothing is passed behind it. -/
theorem positionals_cons (value : Option String) (rest : List (Option String)) :
    positionals (value :: rest) =
      if value = none ∧ positionals rest = [] then [] else value.getD "" :: positionals rest := by
  rw [positionals.eq_def]
  dsimp only
  split
  next nothing => simp [nothing]
  next different =>
    refine (if_neg ?_).symm
    rintro ⟨absent, nothing⟩
    exact different absent nothing

/-- Nothing is passed exactly if no argument is given. -/
theorem positionals_eq_nil_iff {values : List (Option String)} :
    positionals values = [] ↔ values.any Option.isSome = false := by
  induction values with
  | nil => simp [positionals]
  | cons value rest inductionHypothesis =>
    rw [positionals_cons, List.any_cons, Bool.or_eq_false_iff, ← inductionHypothesis]
    cases value <;> simp

/-- An argument is passed exactly if it or a later one is given, and an absent one is passed as the
empty text. -/
theorem getElem?_positionals_eq (values : List (Option String)) (place : Nat) :
    (positionals values)[place]? =
      if (values.drop place).any Option.isSome then some ((values[place]?.join).getD "")
      else none := by
  induction values generalizing place with
  | nil => simp [positionals]
  | cons value rest inductionHypothesis =>
    rw [positionals_cons]
    split
    next absent =>
      obtain ⟨rfl, nothing⟩ := absent
      cases place with
      | zero => simp [positionals_eq_nil_iff.mp nothing]
      | succ place => simpa [nothing] using inductionHypothesis place
    next present =>
      cases place with
      | zero =>
        have given : (value :: rest).any Option.isSome = true := by
          rw [← Bool.not_eq_false, ← positionals_eq_nil_iff, positionals_cons, if_neg present]
          simp
        simp only [List.drop_zero, given, if_true]
        rfl
      | succ place => simpa using inductionHypothesis place

/-- What is passed is the beginning of the texts that all arguments would be passed as. -/
theorem prefix_positionals (values : List (Option String)) :
    positionals values <+: values.map (·.getD "") := by
  induction values with
  | nil => exact List.prefix_refl []
  | cons value rest inductionHypothesis =>
    rw [positionals_cons, List.map_cons]
    split
    · exact List.nil_prefix
    · exact (List.cons_prefix_cons).mpr ⟨rfl, inductionHypothesis⟩

/-- Equally many arguments are passed alike exactly if equally many of them are passed, and all of
them would be passed as the same texts. -/
theorem positionals_eq_iff {first second : List (Option String)}
    (length : first.length = second.length) :
    positionals first = positionals second ↔
      first.map (·.getD "") = second.map (·.getD "") ∧
        (positionals first).length = (positionals second).length := by
  constructor
  · intro same
    refine ⟨List.ext_getElem? fun place => ?_, congrArg List.length same⟩
    have passed : ((positionals first)[place]?).getD "" =
        ((positionals second)[place]?).getD "" := by rw [same]
    rw [getElem?_positionals, getElem?_positionals] at passed
    rw [List.getElem?_map, List.getElem?_map]
    by_cases inside : place < first.length
    · have other : place < second.length := length ▸ inside
      simpa [inside, other] using passed
    · have other : ¬ place < second.length := length ▸ inside
      simp [Nat.le_of_not_lt inside, Nat.le_of_not_lt other]
  · rintro ⟨texts, count⟩
    have atFirst := List.prefix_iff_eq_take.mp (prefix_positionals first)
    have atSecond := List.prefix_iff_eq_take.mp (prefix_positionals second)
    rw [atFirst, atSecond, texts, count]

/-! ## Commands that are alike -/

/-- Optional texts that are passed alike in front of a given argument: an absent one is read as the
empty text. -/
def SameText (first second : Option String) : Prop := first.getD "" = second.getD ""

/-- Filters that are passed alike: there are none, or they are written alike. -/
def SameFilters (first second : List Filter) : Prop :=
  (first = [] ∧ second = []) ∨
    (first ≠ [] ∧ second ≠ [] ∧ Filter.formatAll first = Filter.formatAll second)

/-- Commands that differ at most in what their arguments do not tell apart. -/
inductive Alike : Command → Command → Prop where
  | stdin : Alike .stdin .stdin
  | load (path : String) : Alike (.load path) (.load path)
  | message (title text : String) (icon : Option MessageIcon) :
    Alike (.message title text icon) (.message title text icon)
  | confirm (title text : String) (icon : Option MessageIcon) :
    Alike (.confirm title text icon) (.confirm title text icon)
  | input (title : String) {text text' value value' : Option String}
    (sameText : SameText text text') (sameValue : SameText value value') :
    Alike (.input title text value) (.input title text' value')
  | password (title : String) {text text' : Option String} (sameText : SameText text text') :
    Alike (.password title text) (.password title text')
  | selectDir {title title' dir dir' : Option String} (sameTitle : SameText title title')
    (sameDir : SameText dir dir') : Alike (.selectDir title dir) (.selectDir title' dir')
  | loadFile {title title' dir dir' : Option String} {filters filters' : List Filter}
    (sameTitle : SameText title title') (sameFilters : SameFilters filters filters')
    (sameDir : SameText dir dir') :
    Alike (.loadFile title filters dir) (.loadFile title' filters' dir')
  | saveFile {title title' dir dir' : Option String} {filters filters' : List Filter}
    (sameTitle : SameText title title') (sameFilters : SameFilters filters filters')
    (sameDir : SameText dir dir') :
    Alike (.saveFile title filters dir) (.saveFile title' filters' dir')
  | list : Alike .list .list

/-- There is at least a bar in the text of filters. -/
theorem formatAll_ne_empty {filters : List Filter} (listed : filters ≠ []) :
    Filter.formatAll filters ≠ "" := by
  intro nothing
  cases filters with
  | nil => exact listed rfl
  | cons filter rest =>
    have characters : (Filter.formatAll (filter :: rest)).toList = [] := by
      rw [nothing]
      rfl
    cases rest <;>
      simp [Filter.formatAll, String.toList_intercalate, Filter.toList_format] at characters

/-- Filters are passed alike exactly if their arguments are. -/
theorem sameFilters_iff {first second : List Filter} :
    SameFilters first second ↔ SameText (filterArgument first) (filterArgument second) := by
  rw [SameText, getD_filterArgument, getD_filterArgument, SameFilters]
  have nothing : Filter.formatAll [] = "" := rfl
  constructor
  · rintro (⟨rfl, rfl⟩ | ⟨-, -, same⟩)
    · rfl
    · exact same
  · intro same
    cases first with
    | nil =>
      left
      by_contra listed
      exact formatAll_ne_empty (by simpa using listed) (nothing ▸ same.symm)
    | cons filter rest =>
      right
      refine ⟨List.cons_ne_nil _ _, ?_, same⟩
      rintro rfl
      exact formatAll_ne_empty (List.cons_ne_nil filter rest) (nothing ▸ same)

/-- Icons are told apart by their names, and from none at all. -/
theorem sameIcon {first second : Option MessageIcon}
    (same : SameText (first.map MessageIcon.name) (second.map MessageIcon.name)) :
    first = second := by
  revert same
  rw [SameText]
  cases first with
  | none => rcases second with - | (- | - | - | -) <;> decide
  | some icon => cases icon <;> rcases second with - | (- | - | - | -) <;> decide

/-- Commands are alike exactly if they have the same mode, the same arguments that the mode always
has, and others that are passed alike. -/
theorem alike_iff {first second : Command} :
    first.Alike second ↔ first.name = second.name ∧ first.required = second.required ∧
      first.optionals.map (·.getD "") = second.optionals.map (·.getD "") := by
  constructor
  · intro alike
    cases alike with
    | loadFile sameTitle sameFilters sameDir | saveFile sameTitle sameFilters sameDir =>
      rw [sameFilters_iff] at sameFilters
      simp_all [name, required, optionals, SameText]
    | _ => simp_all [name, required, optionals, SameText]
  · rintro ⟨mode, same, passed⟩
    -- Two different modes have different names.
    cases first <;> cases second <;> simp only [name, String.reduceEq] at mode
    all_goals
      simp only [required, optionals, List.map_cons, List.map_nil, List.cons.injEq, and_true]
        at same passed
    case stdin.stdin => exact .stdin
    case load.load => exact same ▸ .load _
    case message.message =>
      obtain ⟨rfl, rfl⟩ := same
      exact sameIcon passed ▸ .message _ _ _
    case confirm.confirm =>
      obtain ⟨rfl, rfl⟩ := same
      exact sameIcon passed ▸ .confirm _ _ _
    case input.input => exact same ▸ .input _ passed.1 passed.2
    case password.password => exact same ▸ .password _ passed
    case selectDir.selectDir => exact .selectDir passed.1 passed.2
    case loadFile.loadFile =>
      exact .loadFile passed.1 (sameFilters_iff.mpr passed.2.1) passed.2.2
    case saveFile.saveFile =>
      exact .saveFile passed.1 (sameFilters_iff.mpr passed.2.1) passed.2.2
    case list.list => exact .list

/-! ## The arguments as a whole -/

/-- Commands of one mode have equally many arguments of either kind, and list the backends or do
not. -/
theorem shape_of_name {first second : Command} (mode : first.name = second.name) :
    first.required.length = second.required.length ∧
      first.optionals.length = second.optionals.length ∧
      (first == .list) = (second == .list) := by
  cases first <;> cases second <;> simp only [name, String.reduceEq] at mode
  all_goals exact ⟨rfl, rfl, rfl⟩

/-- The arguments of a command are its mode, its positional arguments and a suffix that depends on
the options and on whether the backends are listed, and on nothing else. Of the optional positional
arguments those up to the last given one are passed, and an absent one among them as the empty text.
Under the same options commands have the same arguments exactly if they are alike and have equally
many positional arguments.

Proof: the same arguments have the same mode in front, and so the same suffix at the end. What is
left are the arguments that the mode always has, and then the optional ones. These are passed as the
beginning of the texts that stand for all of them. -/
theorem args_eq_iff_alike (options : GlobalOptions) :
    (∀ command : Command, command.args options =
      command.name :: (command.required ++ positionals command.optionals ++
        optionSuffix (command == .list) options)) ∧
      (∀ (command : Command) (place : Nat), (positionals command.optionals)[place]? =
        if (command.optionals.drop place).any Option.isSome then
          some ((command.optionals[place]?.join).getD "")
        else none) ∧
      ∀ first second : Command, first.args options = second.args options ↔
        first.Alike second ∧ first.arguments.length = second.arguments.length := by
  refine ⟨fun command => command.args_eq options,
    fun command => getElem?_positionals_eq command.optionals, fun first second => ?_⟩
  rw [args_eq, args_eq, arguments_eq, arguments_eq, alike_iff, List.cons.injEq]
  constructor
  · rintro ⟨mode, same⟩
    obtain ⟨required, optional, listing⟩ := shape_of_name mode
    rw [listing] at same
    obtain ⟨always, passed⟩ := List.append_inj (List.append_cancel_right same) required
    exact ⟨⟨mode, always, ((positionals_eq_iff optional).mp passed).1⟩, by rw [always, passed]⟩
  · rintro ⟨⟨mode, always, texts⟩, length⟩
    obtain ⟨-, optional, listing⟩ := shape_of_name mode
    have count : (positionals first.optionals).length = (positionals second.optionals).length := by
      rw [List.length_append, List.length_append, always] at length
      exact Nat.add_left_cancel length
    have passed := (positionals_eq_iff optional).mpr ⟨texts, count⟩
    exact ⟨mode, by rw [always, passed, listing]⟩

/-- An absent text in front of a value is not told apart from the empty one. Behind it nothing is
passed, but the empty text is. -/
example (options : GlobalOptions) :
    (Command.input "Name" none (some "Ada")).args options =
        (Command.input "Name" (some "") (some "Ada")).args options ∧
      (Command.input "Name" none none).arguments ≠
        (Command.input "Name" (some "") none).arguments :=
  ⟨rfl, by decide⟩

end Command

end Dialogs
