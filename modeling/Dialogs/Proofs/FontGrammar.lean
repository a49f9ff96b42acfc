import Dialogs.Proofs.FontText

/-!
# The grammar of font descriptions

What a description of a font looks like, said without any part of its reader. The description starts
with the family, in one of two forms: between single quotes, with anything but a quote in it, or as
it is, up to the first space. Behind the family stands the size: blanks and an integer of the signed
32-bit range, or blanks alone if no size is asked for.

A font is read from the texts that have this form and from no others. The forms exclude each other,
and neither of them can be cut in two ways, so a text describes at most one font.
-/

namespace Dialogs

namespace Window

/-- A window that names a font has what is read from its name. -/
theorem font?_eq_read (window : Window) :
    window.font? = if window.font = "" then none else some (Font.read window.font) := by
  rw [font?]
  by_cases named : window.font = ""
  · rw [if_pos named, if_pos (by simpa using named)]
  · rw [if_neg named, if_neg (by simpa using named)]
    rfl

end Window

namespace Font

/-- The two ways to write a family in front of a text. -/
inductive Cut (family rest : List Char) : List Char → Prop where
  | quoted (whole : '\'' ∉ family) : Cut family rest ('\'' :: (family ++ '\'' :: rest))
  | bare (filled : family ++ rest ≠ []) (start : (family ++ rest).head? ≠ some '\'')
    (whole : ' ' ∉ family) (apart : ∀ c ∈ rest.head?, c = ' ') : Cut family rest (family ++ rest)

/-- What may stand behind a family: nothing but blanks, or a size behind blanks, up to the end. -/
inductive Sized : Option Int32 → List Char → Prop where
  | unsaid {blanks : List Char} (blank : ∀ c ∈ blanks, Text.isBlank c = true) : Sized none blanks
  | said {blanks digits : List Char} {number : Int}
    (blank : ∀ c ∈ blanks, Text.isBlank c = true) (denotes : Text.Denotes digits number)
    (lower : -2147483648 ≤ number) (upper : number ≤ 2147483647) :
    Sized (some (Int32.ofInt number)) (blanks ++ digits)

/-- The grammar: a family and a size behind it. -/
def Derives (font : Font) (text : List Char) : Prop :=
  ∃ rest, Cut font.family.toList rest text ∧ Sized font.size rest

variable {font : Font} {text : String} {rest : List Char} {size : Option Int32}

/-! ### The parts of a description -/

/-- The texts from which a size is read are those of the grammar. -/
theorem sized_iff : Sized size rest ↔ parseSize? rest = some size := by
  rw [parseSize?_eq_some_iff]
  constructor
  · intro sized
    cases sized with
    | unsaid blank => exact List.dropWhile_eq_nil_iff.mpr blank
    | @said blanks digits number blank denotes lower upper =>
      -- There is no blank in an integer, so trimming takes the blanks in front of it and no more.
      obtain ⟨first, others, rfl⟩ := List.exists_cons_of_ne_nil denotes.ne_nil
      have solid : Text.isBlank first = false := denotes.solid List.mem_cons_self
      have trimmed : Text.trimStartChars (blanks ++ first :: others) = first :: others := by
        rw [Text.trimStartChars, List.dropWhile_append_of_pos blank]
        exact Text.trimStartChars_of_head solid
      have same : (Int32.ofInt number).toInt = number :=
        Int32.toInt_ofInt_of_le lower (Int.lt_add_one_of_le upper)
      simpa only [trimmed, same] using denotes
  · intro described
    cases size with
    | none => exact .unsaid (List.dropWhile_eq_nil_iff.mp described)
    | some number =>
      have blank : ∀ c ∈ rest.takeWhile Text.isBlank, Text.isBlank c = true := fun _ inside =>
        List.mem_takeWhile_imp inside
      have upper : number.toInt ≤ 2147483647 := Int.le_of_lt_add_one number.toInt_lt
      have sized := Sized.said blank described number.le_toInt upper
      rw [Int32.ofInt_toInt] at sized
      rwa [Text.trimStartChars, List.takeWhile_append_dropWhile] at sized

/-- A text describes a font exactly if the grammar derives it. -/
theorem derives_iff :
    Derives font text.toList ↔ Describes font.family.toList font.size text.toList := by
  generalize text.toList = characters
  constructor
  · rintro ⟨rest, cut, sized⟩
    have read := sized_iff.mp sized
    cases cut with
    | quoted whole => exact .quoted whole read
    | bare filled start whole apart => exact .bare filled start whole apart read
  · intro describes
    cases describes with
    | quoted whole read => exact ⟨_, .quoted whole, sized_iff.mpr read⟩
    | bare filled start whole apart read =>
      exact ⟨_, .bare filled start whole apart, sized_iff.mpr read⟩

/-- A font is found in a text exactly if the grammar derives the text for it. -/
theorem parse?_eq_some_iff_derives : parse? text = some font ↔ Derives font text.toList := by
  rw [parse?_eq_some_iff, derives_iff]

/-! ### Reading -/

/-- What is read is the font that is found. -/
theorem read_eq_ok_iff : read text = .ok font ↔ parse? text = some font := by
  rw [read]
  cases parse? text <;> simp

/-- What cannot be read is reported as it stands. -/
theorem read_eq_error_iff {error : DialogError} :
    read text = .error error ↔ error = .invalidFont text ∧ ∀ font, parse? text ≠ some font := by
  rw [read]
  cases found : parse? text with
  | some font => simp
  | none =>
    simp only [Except.error.injEq, ne_eq, reduceCtorEq, not_false_eq_true, implies_true, and_true]
    exact eq_comm

/-- A text describes at most one font, in whichever form. -/
theorem Derives.unique {other : Font} (derives : Derives font text.toList)
    (derivesOther : Derives other text.toList) : font = other := by
  rw [← parse?_eq_some_iff_derives] at derives derivesOther
  exact Option.some.inj (derives.symm.trans derivesOther)

/-! ### Main result -/

/-- The reader of font descriptions accepts exactly its grammar: a font is read from the texts that
the grammar derives for it, and any other text is reported, all of it. A window with a text in the
place of its font has what is read from the text, unless the text is empty.

Proof: the size is read from the texts of the grammar, whichever blanks stand in front of it, since
there is no blank in an integer. The two forms of a family are those that the reader cuts off. -/
theorem read_eq_ok_iff_derives (text : String) :
    (∀ font, read text = .ok font ↔ Derives font text.toList) ∧
      (∀ error, read text = .error error ↔
        error = .invalidFont text ∧ ∀ font, ¬ Derives font text.toList) ∧
      ∀ window : Window,
        { window with font := text }.font? = if text = "" then none else some (read text) := by
  refine ⟨fun font => ?_, fun error => ?_, fun window => ?_⟩
  · rw [read_eq_ok_iff, parse?_eq_some_iff_derives]
  · simp only [read_eq_error_iff, ne_eq, parse?_eq_some_iff_derives]
  · exact Window.font?_eq_read { window with font := text }

/-- Every blank may stand in front of a size and none behind it, and a quoted family may run into
the size. -/
example : read "'Noto Serif'-0012" = .ok ⟨"Noto Serif", some (-12)⟩ ∧
    read "Sans \u00A0+2147483647" = .ok ⟨"Sans", some 2147483647⟩ ∧
    read "Sans 2147483648" = .error (.invalidFont "Sans 2147483648") ∧
    read "Sans 12 " = .error (.invalidFont "Sans 12 ") := by
  decide +kernel

end Font

end Dialogs
