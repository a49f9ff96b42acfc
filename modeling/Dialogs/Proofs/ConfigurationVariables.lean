import Dialogs.Config
import Dialogs.Proofs.IntegerText
import Dialogs.Proofs.Trimming

/-!
# Configurations in variables

There are many ways to write a configuration into variables: any blanks may stand between arguments
and around them, a timeout may have blanks around its digits, and several words turn debugging on.
This module says which variables spell a configuration, apart from how they are read. Whatever
spells a configuration is read as that configuration.

Only the timeout can be written in a way that is not read. Nothing that is read has an argument that
is empty or has blanks in it, so such arguments cannot be written into variables at all.
-/

namespace Dialogs

namespace Text

variable {limit value : Nat} {text gap word : List Char} {words : List (List Char)}

/-- Blanks and nothing else, possibly none. -/
def Blanks (text : List Char) : Prop := ∀ c ∈ text, isBlank c = true

instance (text : List Char) : Decidable (Blanks text) :=
  decidable_of_iff (text.all isBlank = true) List.all_eq_true

/-- A text that is one word: there is something in it, and no blank. -/
structure Solid (text : List Char) : Prop where
  filled : text ≠ []
  unbroken : ∀ c ∈ text, isBlank c = false

instance (text : List Char) : Decidable (Solid text) :=
  decidable_of_iff (text ≠ [] ∧ text.all (!isBlank ·) = true)
    ⟨fun ⟨filled, unbroken⟩ => ⟨filled, by simpa using unbroken⟩,
      fun solid => ⟨solid.filled, by simpa using solid.unbroken⟩⟩

/-- The texts of words in a row: at least one blank stands between two words, and any blanks may
stand in front of the first and behind the last. -/
inductive Spaced : List (List Char) → List Char → Prop where
  | nothing {blanks : List Char} (blank : Blanks blanks) : Spaced [] blanks
  | last {before word after : List Char} (blankBefore : Blanks before)
    (blankAfter : Blanks after) : Spaced [word] (before ++ word ++ after)
  | next {before word gap text second : List Char} {words : List (List Char)}
    (blankBefore : Blanks before) (apart : gap ≠ []) (blankGap : Blanks gap)
    (rest : Spaced (second :: words) text) :
    Spaced (word :: second :: words) (before ++ word ++ gap ++ text)

/-- The texts of a natural number: decimal digits that denote it, and possibly a plus sign in
front. -/
inductive Counts : List Char → Nat → Prop where
  | plain {digits : List Char} (filled : digits ≠ []) (decimal : ∀ c ∈ digits, c.isDigit = true) :
    Counts digits (Nat.ofDigitChars 10 digits 0)
  | plus {digits : List Char} (filled : digits ≠ []) (decimal : ∀ c ∈ digits, c.isDigit = true) :
    Counts ('+' :: digits) (Nat.ofDigitChars 10 digits 0)

/-! ### Words -/

/-- Blanks in front of a text are not in any word of it. -/
theorem wordsFrom_blanks (blank : Blanks gap) (text : List Char) :
    wordsFrom [] (gap ++ text) = wordsFrom [] text := by
  induction gap with
  | nil => rfl
  | cons c gap inductionHypothesis =>
    obtain ⟨first, rest⟩ := List.forall_mem_cons.mp blank
    rw [List.cons_append, wordsFrom, if_pos first, if_pos List.isEmpty_nil]
    exact inductionHypothesis rest

/-- Characters that are no blanks continue a word. -/
theorem wordsFrom_unbroken (unbroken : ∀ c ∈ word, isBlank c = false) (begun text : List Char) :
    wordsFrom begun (word ++ text) = wordsFrom (word.reverse ++ begun) text := by
  induction word generalizing begun with
  | nil => rfl
  | cons c word inductionHypothesis =>
    obtain ⟨first, rest⟩ := List.forall_mem_cons.mp unbroken
    rw [List.cons_append, wordsFrom, if_neg (by simp [first]), inductionHypothesis rest,
      List.reverse_cons, List.append_assoc, List.singleton_append]

/-- A blank ends a word, and further blanks make no difference. -/
theorem wordsFrom_gap {begun : List Char} (filled : begun ≠ []) (apart : gap ≠ [])
    (blank : Blanks gap) (text : List Char) :
    wordsFrom begun (gap ++ text) = begun.reverse :: wordsFrom [] text := by
  obtain ⟨c, gap, rfl⟩ := List.exists_cons_of_ne_nil apart
  obtain ⟨first, rest⟩ := List.forall_mem_cons.mp blank
  rw [List.cons_append, wordsFrom, if_pos first, if_neg (by simpa using filled),
    wordsFrom_blanks rest]

/-- A word behind blanks, up to its end. -/
theorem wordsFrom_word {before : List Char} (blankBefore : Blanks before) (solid : Solid word)
    (text : List Char) :
    wordsFrom [] (before ++ word ++ text) = wordsFrom word.reverse text := by
  rw [List.append_assoc, wordsFrom_blanks blankBefore, wordsFrom_unbroken solid.unbroken,
    List.append_nil]

/-- The words of a text of words in a row are these words. -/
theorem Spaced.wordsFrom_eq (spaced : Spaced words text) (solid : ∀ word ∈ words, Solid word) :
    wordsFrom [] text = words := by
  induction spaced with
  | nothing blank =>
    have skipped := wordsFrom_blanks blank []
    rwa [List.append_nil] at skipped
  | @last before word after blankBefore blankAfter =>
    have sole : Solid word := solid word (List.mem_singleton_self word)
    have begun : word.reverse ≠ [] := by simpa using sole.filled
    rw [wordsFrom_word blankBefore sole]
    by_cases ended : after = []
    · rw [ended, wordsFrom, if_neg (by simpa using begun), List.reverse_reverse]
    · have cut := wordsFrom_gap begun ended blankAfter []
      rwa [List.append_nil, List.reverse_reverse] at cut
  | @next before word gap text second words blankBefore apart blankGap rest inductionHypothesis =>
    obtain ⟨first, others⟩ := List.forall_mem_cons.mp solid
    have begun : word.reverse ≠ [] := by simpa using first.filled
    rw [List.append_assoc (before ++ word), wordsFrom_word blankBefore first,
      wordsFrom_gap begun apart blankGap, List.reverse_reverse, inductionHypothesis others]

/-- The words of a text are solid. -/
theorem solid_of_mem_words {text word : String} (listed : word ∈ Text.words text) :
    Solid word.toList := by
  obtain ⟨found, inside, rfl⟩ := List.mem_map.mp listed
  rw [String.toList_ofList]
  exact ⟨ne_nil_of_mem_wordsFrom found inside,
    not_isBlank_of_mem_wordsFrom (by simp) found inside⟩

/-- A text without blanks is trimmed. -/
theorem trimChars_of_unbroken (unbroken : ∀ c ∈ text, isBlank c = false) :
    trimChars text = text :=
  trimChars_eq_self_iff.mpr
    ⟨fun c first => unbroken c (List.mem_of_head? first),
      fun c last => unbroken c (List.mem_of_getLast? last)⟩

/-! ### Natural numbers -/

/-- A text that starts with a digit is read without a sign. -/
theorem readNatural_of_digit {c : Char} {rest : List Char} (digit : c.isDigit = true) :
    readNatural limit (c :: rest) = readDigits limit .tooLarge 0 (c :: rest) := by
  rw [readNatural]
  · exact nofun
  · rintro d later same
    obtain rfl := (List.cons.inj same).1
    cases digit

/-- The texts that are read as a natural number are those that denote it, if it is within the
limit. -/
theorem readNatural_eq_ok_iff :
    readNatural limit text = .ok value ↔ Counts text value ∧ value ≤ limit := by
  constructor
  · intro read
    rw [readNatural.eq_def] at read
    split at read
    next => cases read
    next c rest =>
      obtain ⟨decimal, rfl, within⟩ := (readDigits_eq_ok_iff (Nat.zero_le _)).mp read
      exact ⟨.plus (List.cons_ne_nil c rest) decimal, within⟩
    next filled _ =>
      obtain ⟨decimal, rfl, within⟩ := (readDigits_eq_ok_iff (Nat.zero_le _)).mp read
      exact ⟨.plain filled decimal, within⟩
  · rintro ⟨counts, within⟩
    cases counts with
    | @plain digits filled decimal =>
      obtain ⟨c, rest, rfl⟩ := List.exists_cons_of_ne_nil filled
      rw [readNatural_of_digit (decimal c List.mem_cons_self),
        readDigits_eq_ok_iff (Nat.zero_le _)]
      exact ⟨decimal, rfl, within⟩
    | @plus digits filled decimal =>
      obtain ⟨c, rest, rfl⟩ := List.exists_cons_of_ne_nil filled
      rw [readNatural, readDigits_eq_ok_iff (Nat.zero_le _)]
      exact ⟨decimal, rfl, within⟩

/-- A natural number is written in digits that denote it. -/
theorem counts_toDigits (value : Nat) : Counts (Nat.toDigits 10 value) value := by
  have counts := Counts.plain Nat.toDigits_ne_nil fun c (inside : c ∈ Nat.toDigits 10 value) =>
    Nat.isDigit_of_mem_toDigits (by decide) (by decide) inside
  rwa [Nat.ofDigitChars_ten_toDigits] at counts

/-- There are no blanks in the digits of a natural number. -/
theorem unbroken_toDigits (value : Nat) : ∀ c ∈ Nat.toDigits 10 value, isBlank c = false := by
  have denotes := denotes_toString (value : Int)
  have written : (toString (value : Int)).toList = Nat.toDigits 10 value := Nat.toList_repr
  rw [written] at denotes
  exact fun c inside => denotes.solid inside

end Text

namespace Config

variable {lookup : String → Option String} {config : Config} {seconds : UInt64} {text : String}

/-- What says how long a renderer may take: no variable, or one whose text denotes the number of
seconds when it is trimmed. -/
inductive GivesTimeout (lookup : String → Option String) : Option UInt64 → Prop where
  | absent (absent : lookup "TANTO_TIMEOUT_SECS" = none) : GivesTimeout lookup none
  | given {text : String} {seconds : UInt64} (given : lookup "TANTO_TIMEOUT_SECS" = some text)
    (counts : Text.Counts (Text.trimChars text.toList) seconds.toNat) :
    GivesTimeout lookup (some seconds)

/-- Variables that spell a configuration. -/
structure Spells (lookup : String → Option String) (config : Config) : Prop where
  executable : lookup "TANTO_EXECUTABLE" = some config.executable
  /-- Without arguments there need not be a variable for them. -/
  args : config.args = [] ∧ lookup "TANTO_ARGS" = none ∨
    ∃ text, lookup "TANTO_ARGS" = some text ∧
      Text.Spaced (config.args.map String.toList) text.toList
  backend : lookup "TANTO_BACKEND" = config.backend
  /-- The digits of the timeout have only blanks around them. -/
  timeout : ∀ seconds, config.timeoutSecs = some seconds → ∃ text before after,
    lookup "TANTO_TIMEOUT_SECS" = some text ∧ Text.Blanks before ∧ Text.Blanks after ∧
      text.toList = before ++ Nat.toDigits 10 seconds.toNat ++ after
  unlimited : config.timeoutSecs = none → lookup "TANTO_TIMEOUT_SECS" = none
  debug : config.debug = true ↔
    ∃ text, lookup "TANTO_DEBUG" = some text ∧ Text.trim text ∈ ["1", "true", "yes", "on"]

/-! ### Reading variables -/

/-- The texts of a timeout are those of the numbers of the unsigned 64-bit range. -/
theorem parseTimeout_eq_ok_iff :
    parseTimeout text = .ok seconds ↔ Text.Counts text.toList seconds.toNat := by
  constructor
  · intro read
    obtain ⟨value, digits, rfl⟩ := Json.ok_of_map read
    obtain ⟨counts, within⟩ := Text.readNatural_eq_ok_iff.mp digits
    have below : value < UInt64.size := Nat.lt_succ_of_le within
    rwa [UInt64.toNat_ofNat_of_lt' below]
  · intro counts
    have within : seconds.toNat ≤ Text.largestUnsigned64 := Nat.le_of_lt_succ seconds.toNat_lt
    rw [parseTimeout, Text.readNatural_eq_ok_iff.mpr ⟨counts, within⟩, Except.map,
      UInt64.ofNat_toNat]

/-- Variables are read as a configuration exactly if they give its timeout and each of its other
fields. -/
theorem ofLookup_eq_ok_iff :
    ofLookup lookup = .ok config ↔
      GivesTimeout lookup config.timeoutSecs ∧
        config.executable = (lookup "TANTO_EXECUTABLE").getD defaultExecutable ∧
        config.args = ((lookup "TANTO_ARGS").map Text.words).getD [] ∧
        config.backend = lookup "TANTO_BACKEND" ∧
        config.debug = (lookup "TANTO_DEBUG").any fun value =>
          affirmatives.contains (Text.trim value) := by
  obtain ⟨executable, args, backend, timeoutSecs, debug⟩ := config
  have trimmed : ∀ text : String, (Text.trim text).toList = Text.trimChars text.toList := fun _ =>
    String.toList_ofList
  cases held : lookup "TANTO_TIMEOUT_SECS" with
  | none =>
    have gives : GivesTimeout lookup timeoutSecs ↔ timeoutSecs = none := by
      constructor
      · intro gives
        cases gives with
        | absent => rfl
        | given given => simp [held] at given
      · rintro rfl
        exact .absent held
    simp only [ofLookup, held, gives, pure, Except.pure, bind, Except.bind, Except.ok.injEq,
      Config.mk.injEq]
    constructor <;> (rintro ⟨rfl, rfl, rfl, rfl, rfl⟩; exact ⟨rfl, rfl, rfl, rfl, rfl⟩)
  | some text =>
    have gives : GivesTimeout lookup timeoutSecs ↔
        ∃ seconds, parseTimeout (Text.trim text) = .ok seconds ∧ timeoutSecs = some seconds := by
      simp only [parseTimeout_eq_ok_iff, trimmed]
      constructor
      · intro gives
        cases gives with
        | absent absent => simp [held] at absent
        | given given counts =>
          obtain rfl := Option.some.inj (held.symm.trans given)
          exact ⟨_, counts, rfl⟩
      · rintro ⟨seconds, counts, rfl⟩
        exact .given held counts
    cases read : parseTimeout (Text.trim text) with
    | error cause => simp [ofLookup, held, gives, read, bind, Except.bind]
    | ok seconds =>
      simp only [ofLookup, held, gives, read, pure, Except.pure, bind, Except.bind,
        Except.ok.injEq, Config.mk.injEq, exists_eq_left']
      constructor <;> (rintro ⟨rfl, rfl, rfl, rfl, rfl⟩; exact ⟨rfl, rfl, rfl, rfl, rfl⟩)

/-- Variables are not read exactly if there is one for the timeout and its trimmed text denotes no
number below `2 ^ 64`. -/
theorem ofLookup_eq_error_iff :
    (∃ error, ofLookup lookup = .error error) ↔
      ∃ text, lookup "TANTO_TIMEOUT_SECS" = some text ∧
        ∀ value < UInt64.size, ¬ Text.Counts (Text.trimChars text.toList) value := by
  have readable : (∃ config, ofLookup lookup = .ok config) ↔
      ∃ timeoutSecs, GivesTimeout lookup timeoutSecs := by
    simp only [ofLookup_eq_ok_iff]
    exact ⟨fun ⟨config, gives, _⟩ => ⟨config.timeoutSecs, gives⟩,
      fun ⟨timeoutSecs, gives⟩ => ⟨⟨_, _, _, timeoutSecs, _⟩, gives, rfl, rfl, rfl, rfl⟩⟩
  constructor
  · rintro ⟨error, failed⟩
    have unreadable : ¬ ∃ timeoutSecs, GivesTimeout lookup timeoutSecs := by
      rw [← readable, failed]
      exact nofun
    cases held : lookup "TANTO_TIMEOUT_SECS" with
    | none => exact absurd ⟨none, .absent held⟩ unreadable
    | some text =>
      refine ⟨text, rfl, fun value below counts => unreadable ⟨some (UInt64.ofNat value), ?_⟩⟩
      exact .given held (by rwa [UInt64.toNat_ofNat_of_lt' below])
  · rintro ⟨text, held, unreadable⟩
    cases result : ofLookup lookup with
    | error error => exact ⟨error, rfl⟩
    | ok config =>
      obtain ⟨timeoutSecs, gives⟩ := readable.mp ⟨config, result⟩
      cases gives with
      | absent absent => simp [held] at absent
      | @given other seconds given counts =>
        obtain rfl := Option.some.inj (held.symm.trans given)
        exact absurd counts (unreadable _ seconds.toNat_lt)

/-! ### Spelling a configuration -/

/-- The timeout of a configuration is read from its spelling. -/
theorem Spells.givesTimeout (spells : Spells lookup config) :
    GivesTimeout lookup config.timeoutSecs := by
  cases limited : config.timeoutSecs with
  | none => exact .absent (spells.unlimited limited)
  | some seconds =>
    obtain ⟨text, before, after, held, blankBefore, blankAfter, shape⟩ :=
      spells.timeout seconds limited
    refine .given held ?_
    rw [shape, Text.trimChars_surrounded blankBefore blankAfter,
      Text.trimChars_of_unbroken (Text.unbroken_toDigits _)]
    exact Text.counts_toDigits _

/-- The arguments of a configuration are read from its spelling, if each of them is one word. -/
theorem Spells.args_eq (spells : Spells lookup config)
    (solid : ∀ argument ∈ config.args, Text.Solid argument.toList) :
    config.args = ((lookup "TANTO_ARGS").map Text.words).getD [] := by
  rcases spells.args with ⟨nothing, absent⟩ | ⟨text, held, spaced⟩
  · rw [nothing, absent, Option.map_none, Option.getD_none]
  · have solidWords : ∀ word ∈ config.args.map String.toList, Text.Solid word :=
      List.forall_mem_map.mpr solid
    rw [held, Option.map_some, Option.getD_some, Text.words, spaced.wordsFrom_eq solidWords,
      List.map_map]
    simp

/-- Variables that spell a configuration are read as that configuration. -/
theorem Spells.ofLookup_eq (spells : Spells lookup config)
    (solid : ∀ argument ∈ config.args, Text.Solid argument.toList) :
    ofLookup lookup = .ok config := by
  rw [ofLookup_eq_ok_iff]
  refine ⟨spells.givesTimeout, by rw [spells.executable, Option.getD_some],
    spells.args_eq solid, spells.backend.symm, ?_⟩
  rw [Bool.eq_iff_iff, spells.debug, Option.any_eq_true]
  simp [affirmatives]

/-- A configuration whose arguments are words is read from all variables that spell it, whatever its
timeout. Variables cannot be read exactly if the text of the timeout, once trimmed, is no number
below `2 ^ 64`: digits with at most a plus sign in front. And all arguments that are ever read are
words. -/
theorem spelled_and_read :
    (∀ (lookup : String → Option String) (config : Config),
        (∀ argument ∈ config.args, Text.Solid argument.toList) → Spells lookup config →
          ofLookup lookup = .ok config) ∧
      (∀ lookup : String → Option String,
        (∃ error, ofLookup lookup = .error error) ↔
          ∃ text, lookup "TANTO_TIMEOUT_SECS" = some text ∧
            ∀ value < UInt64.size, ¬ Text.Counts (Text.trimChars text.toList) value) ∧
      ∀ (lookup : String → Option String) (config : Config), ofLookup lookup = .ok config →
        ∀ argument ∈ config.args, Text.Solid argument.toList := by
  refine ⟨fun lookup config solid spells => spells.ofLookup_eq solid,
    fun lookup => ofLookup_eq_error_iff, ?_⟩
  intro lookup config read argument listed
  obtain ⟨-, -, args, -⟩ := ofLookup_eq_ok_iff.mp read
  rw [args] at listed
  cases held : lookup "TANTO_ARGS" with
  | none => simp [held] at listed
  | some text =>
    rw [held, Option.map_some, Option.getD_some] at listed
    exact Text.solid_of_mem_words listed

/-- The longest timeout, with ideographic and unbreakable spaces around it, and arguments between
tabs and newlines. -/
theorem spelled_and_read_longest :
    ofLookup (fun name => [("TANTO_EXECUTABLE", " tanto"), ("TANTO_ARGS", "\u3000--flag\t\nv=1 "),
        ("TANTO_TIMEOUT_SECS", "\u00a018446744073709551615\u3000"),
        ("TANTO_DEBUG", "\tyes\n")].lookup name) =
      .ok ⟨" tanto", ["--flag", "v=1"], none, some 18446744073709551615, true⟩ := by
  obtain ⟨read, -, -⟩ := spelled_and_read
  refine read _ _ ?_ ?_
  · intro argument listed
    rcases List.mem_pair.mp listed with rfl | rfl <;> decide
  · have last : Text.Spaced ["v=1".toList] ([] ++ "v=1".toList ++ [' ']) :=
      .last (by decide) (by decide)
    have both : Text.Spaced ["--flag".toList, "v=1".toList]
        (['\u3000'] ++ "--flag".toList ++ ['\t', '\n'] ++ ([] ++ "v=1".toList ++ [' '])) :=
      .next (by decide) (by decide) (by decide) last
    refine ⟨rfl, .inr ⟨_, rfl, both⟩, rfl, ?_, nofun, ?_⟩
    · rintro seconds same
      obtain rfl := Option.some.inj same
      exact ⟨_, ['\u00a0'], ['\u3000'], rfl, by decide, by decide, by decide⟩
    · exact ⟨fun _ => ⟨_, rfl, by decide⟩, fun _ => rfl⟩

end Config

end Dialogs
