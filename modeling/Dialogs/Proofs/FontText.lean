import Dialogs.Font
import Dialogs.Proofs.IntegerText
import Dialogs.Proofs.Trimming
import Dialogs.Proofs.Validation

/-!
# Fonts that their description gives back

The description of a font quotes its family when there is a blank in it, while a reader ends an
unquoted family at the first space and a quoted one at the first quote. The two do not quite agree:
a quote inside a family is lost on the reader if the family is quoted, and is taken for an opening
quote if it stands at the start. This module says exactly which fonts come back from their
description, and what becomes of a font that was read and is described again.

The forms of a description are stated first, apart from the reader. Both directions rest on them: a
reader finds a font in a text exactly if the text is a description of that font.
-/

namespace Dialogs

namespace Window

/-- A window has the font that its font text is read as. -/
theorem font?_eq_ok_iff (window : Window) {font : Font} :
    window.font? = some (.ok font) ↔ Font.parse? window.font = some font := by
  rw [font?]
  by_cases named : window.font = ""
  · have unreadable : Font.parse? "" = none := rfl
    simp [named, unreadable]
  · rw [if_neg (by simpa using named)]
    cases Font.parse? window.font <;> simp

/-- A font text that cannot be read is reported. -/
theorem font?_of_unreadable (window : Window) (named : window.font ≠ "")
    (unreadable : Font.parse? window.font = none) :
    window.font? = some (.error (.invalidFont window.font)) := by
  rw [font?, if_neg (by simpa using named), unreadable]

end Window

namespace Font

/-- A family that comes back from the description of its font: there is no quote in it, or it stands
without quotes and does not start with one. -/
def Restorable (family : String) : Prop :=
  '\'' ∉ family.toList ∨
    (family ≠ "" ∧ (∀ c ∈ family.toList, Text.isBlank c = false) ∧
      family.toList.head? ≠ some '\'')

/-- A family with a quote and a blank in it. Its description ends for a reader at that quote. -/
def Torn (family : String) : Prop :=
  '\'' ∈ family.toList ∧ family.toList.any Text.isBlank = true

instance (family : String) : Decidable (Torn family) :=
  inferInstanceAs (Decidable (_ ∧ _))

/-- The descriptions of a font: its family between quotes, or without quotes up to the first space,
and behind it what is read as its size. -/
inductive Describes (family : List Char) (size : Option Int32) : List Char → Prop where
  | quoted {rest : List Char} (whole : '\'' ∉ family) (sized : parseSize? rest = some size) :
    Describes family size ('\'' :: (family ++ '\'' :: rest))
  | bare {rest : List Char} (filled : family ++ rest ≠ [])
    (start : (family ++ rest).head? ≠ some '\'') (whole : ' ' ∉ family)
    (apart : ∀ c ∈ rest.head?, c = ' ') (sized : parseSize? rest = some size) :
    Describes family size (family ++ rest)

variable {font : Font} {text : String} {family rest : List Char} {size : Option Int32}

/-! ### The size -/

/-- The size behind a family is read from nothing but blanks, or from a text of it behind blanks. -/
theorem parseSize?_eq_some_iff :
    parseSize? rest = some size ↔
      match size with
      | none => Text.trimStartChars rest = []
      | some number => Text.Denotes (Text.trimStartChars rest) number.toInt := by
  rw [parseSize?]
  split
  next empty =>
    cases size with
    | none => simp [empty]
    | some number =>
      constructor
      · exact nofun
      · intro denotes
        exact absurd empty denotes.ne_nil
  next digits filled =>
    cases size with
    | none =>
      constructor
      · intro read
        split at read <;> cases read
      · intro empty
        exact absurd empty filled
    | some number =>
      constructor
      · intro read
        split at read
        next value found =>
          obtain rfl := Option.some.inj (Option.some.inj read)
          obtain ⟨denotes, lower, upper⟩ := Text.readInteger_eq_ok_iff.mp found
          have same : (Int32.ofInt value).toInt = value :=
            Int32.toInt_ofInt_of_le lower (Int.lt_add_one_of_le upper)
          simpa only [same] using denotes
        next => cases read
      · intro denotes
        have range : -((Text.largestSigned32 + 1 : Nat) : Int) ≤ number.toInt ∧
            number.toInt ≤ (Text.largestSigned32 : Int) := ⟨number.le_toInt, number.toInt_le⟩
        rw [Text.readInteger_eq_ok_iff.mpr ⟨denotes, range⟩]
        simp

/-! ### Reading a description -/

/-- The part of a text up to the first space, and the part from it on. -/
theorem space_split (whole : ' ' ∉ family) (apart : ∀ c ∈ rest.head?, c = ' ') :
    (family ++ rest).takeWhile (· != ' ') = family ∧
      (family ++ rest).dropWhile (· != ' ') = rest := by
  have spaceless : ∀ c ∈ family, (c != ' ') = true := by
    intro c inside
    rw [bne_iff_ne]
    rintro rfl
    exact whole inside
  have stops : rest.takeWhile (· != ' ') = [] ∧ rest.dropWhile (· != ' ') = rest := by
    cases rest with
    | nil => exact ⟨rfl, rfl⟩
    | cons c rest =>
      obtain rfl := apart c rfl
      exact ⟨rfl, rfl⟩
  rw [List.takeWhile_append_of_pos spaceless, List.dropWhile_append_of_pos spaceless, stops.1,
    stops.2, List.append_nil]
  exact ⟨rfl, rfl⟩

/-- A description is read as the font that it describes. -/
theorem Describes.parse? (describes : Describes font.family.toList font.size text.toList) :
    parse? text = some font := by
  have parts : ∀ {rest}, parseSize? rest = some font.size →
      ofParts? font.family.toList rest = some font := by
    intro rest sized
    rw [ofParts?, sized, Option.map_some, String.ofList_toList]
  generalize shape : text.toList = characters at describes
  rw [Font.parse?, shape]
  cases describes with
  | quoted whole sized =>
    simp only [Text.splitOnceChars_append whole]
    exact parts sized
  | bare filled start whole apart sized =>
    obtain ⟨before, behind⟩ := space_split whole apart
    split
    next empty => exact absurd empty filled
    next opened => simp [opened] at start
    next => rw [before, behind, parts sized]

/-- What is read as a font is a description of it. -/
theorem describes_of_parse? (read : parse? text = some font) :
    Describes font.family.toList font.size text.toList := by
  rw [parse?] at read
  split at read
  next => cases read
  next quoted shape =>
    split at read
    next => cases read
    next family rest cut =>
      obtain ⟨size, sized, rfl⟩ := Option.map_eq_some_iff.mp read
      obtain ⟨shapeQuoted, whole⟩ := Text.eq_append_of_splitOnceChars cut
      rw [shape, shapeQuoted, String.toList_ofList]
      exact .quoted whole sized
  next filled unquoted =>
    obtain ⟨size, sized, rfl⟩ := Option.map_eq_some_iff.mp read
    rw [String.toList_ofList]
    have joined := List.takeWhile_append_dropWhile (p := (· != ' ')) (l := text.toList)
    have start : text.toList.head? ≠ some '\'' := by
      intro opened
      obtain ⟨rest, shape⟩ := List.head?_eq_some_iff.mp opened
      exact unquoted rest shape
    have whole : ' ' ∉ text.toList.takeWhile (· != ' ') := fun inside => by
      simpa using List.mem_takeWhile_imp inside
    have apart : ∀ c ∈ (text.toList.dropWhile (· != ' ')).head?, c = ' ' := by
      intro c first
      have stopped := List.head?_dropWhile_not (· != ' ') text.toList
      rw [first] at stopped
      simpa using stopped
    have described := Describes.bare (by rwa [joined]) (by rwa [joined]) whole apart sized
    rwa [joined] at described

/-- A text is read as a font exactly if it describes the font. -/
theorem parse?_eq_some_iff :
    parse? text = some font ↔ Describes font.family.toList font.size text.toList :=
  ⟨describes_of_parse?, Describes.parse?⟩

/-! ### Writing a description -/

/-- What stands behind the family in the description of a font. -/
def sizeChars : Option Int32 → List Char
  | none => []
  | some size => ' ' :: (toString size.toInt).toList

/-- The description of a font is its family, between quotes if they are needed, and its size. -/
theorem toList_text (font : Font) :
    font.text.toList =
      if needsQuotes font.family then '\'' :: (font.family.toList ++ '\'' :: sizeChars font.size)
      else font.family.toList ++ sizeChars font.size := by
  obtain ⟨family, size⟩ := font
  rw [text]
  cases size <;> (split <;> simp [sizeChars])

/-- A family stands without quotes if there is something in it, and no blank. -/
theorem needsQuotes_eq_false_iff {family : String} :
    needsQuotes family = false ↔ family ≠ "" ∧ ∀ c ∈ family.toList, Text.isBlank c = false := by
  simp [needsQuotes]

/-- The text of a size is read as the size. -/
theorem parseSize?_sizeChars (size : Option Int32) : parseSize? (sizeChars size) = some size := by
  rw [parseSize?_eq_some_iff]
  cases size with
  | none => rfl
  | some number =>
    have denotes := Text.denotes_toString number.toInt
    obtain ⟨first, rest, shape⟩ := List.exists_cons_of_ne_nil denotes.ne_nil
    have solid : Text.isBlank first = false :=
      denotes.solid (by rw [shape]; exact List.mem_cons_self)
    have trimmed : Text.trimStartChars (sizeChars (some number)) =
        (toString number.toInt).toList := by
      rw [sizeChars, shape]
      exact Text.trimStartChars_of_head solid
    simpa only [trimmed] using denotes

/-- There is no quote in the text of a size. -/
theorem parseSize?_eq_none_of_quote (quoted : '\'' ∈ rest) : parseSize? rest = none := by
  have left : '\'' ∈ Text.trimStartChars rest := Text.mem_trimStartChars quoted rfl
  by_contra readable
  obtain ⟨size, read⟩ := Option.ne_none_iff_exists'.mp readable
  rw [parseSize?_eq_some_iff] at read
  cases size with
  | none => simp [show Text.trimStartChars rest = [] from read] at left
  | some number =>
    rcases Text.Denotes.sign_or_digit read left with sign | sign | digit
    · cases sign
    · cases sign
    · cases digit

/-! ### Describing and reading -/

/-- A restorable family comes back from the description of its font. -/
theorem parse?_text_of_restorable (restorable : Restorable font.family) :
    parse? font.text = some font := by
  rw [parse?_eq_some_iff, toList_text]
  by_cases quotes : needsQuotes font.family = true
  · have whole : '\'' ∉ font.family.toList := by
      rcases restorable with unquoted | ⟨filled, solid, -⟩
      · exact unquoted
      · simp [needsQuotes_eq_false_iff.mpr ⟨filled, solid⟩] at quotes
    rw [if_pos quotes]
    exact .quoted whole (parseSize?_sizeChars font.size)
  · obtain ⟨named, solid⟩ := needsQuotes_eq_false_iff.mp (by simpa using quotes)
    have filled : font.family.toList ≠ [] := mt String.toList_eq_nil_iff.mp named
    have start : font.family.toList.head? ≠ some '\'' := by
      rcases restorable with unquoted | ⟨-, -, start⟩
      · exact fun opened => unquoted (List.mem_of_head? opened)
      · exact start
    have whole : ' ' ∉ font.family.toList := fun inside =>
      absurd (solid ' ' inside) (by decide)
    have apart : ∀ c ∈ (sizeChars font.size).head?, c = ' ' := by
      cases font.size <;> simp [sizeChars]
    rw [if_neg quotes]
    exact .bare (List.append_ne_nil_of_left_ne_nil filled _)
      (by rwa [List.head?_append_of_ne_nil _ filled]) whole apart (parseSize?_sizeChars font.size)

/-- A family that comes back from the description of its font is restorable. -/
theorem restorable_of_parse?_text (read : parse? font.text = some font) :
    Restorable font.family := by
  have describes := parse?_eq_some_iff.mp read
  generalize shape : font.text.toList = characters at describes
  cases describes with
  | quoted whole => exact .inl whole
  | bare filled start whole apart sized =>
    rw [toList_text] at shape
    by_cases quotes : needsQuotes font.family = true
    · rw [if_pos quotes] at shape
      simp [← shape] at start
    · obtain ⟨named, solid⟩ := needsQuotes_eq_false_iff.mp (by simpa using quotes)
      rw [List.head?_append_of_ne_nil _ (mt String.toList_eq_nil_iff.mp named)] at start
      exact .inr ⟨named, solid, start⟩

/-- The description of a font with a torn family is not read as a font: something with a quote in it
is left where the size has to be. -/
theorem parse?_text_of_torn (torn : Torn font.family) : parse? font.text = none := by
  obtain ⟨quoted, blank⟩ := torn
  have quotes : needsQuotes font.family = true := by
    rw [needsQuotes, blank, Bool.or_true]
  obtain ⟨before, behind, shape, whole⟩ := List.eq_append_cons_of_mem quoted
  have left : '\'' ∈ behind ++ '\'' :: sizeChars font.size := by simp
  have description : font.text.toList =
      '\'' :: (before ++ '\'' :: (behind ++ '\'' :: sizeChars font.size)) := by
    rw [toList_text, if_pos quotes, shape, List.append_assoc, List.cons_append]
  rw [parse?, description]
  simp only [Text.splitOnceChars_append whole, ofParts?, parseSize?_eq_none_of_quote left]
  rfl

/-- A family that was read is restorable, unless it is torn. -/
theorem Describes.restorable {family : String} {characters : List Char}
    (describes : Describes family.toList size characters) (sound : ¬ Torn family) :
    Restorable family := by
  by_cases quoted : '\'' ∈ family.toList
  · have filled : family.toList ≠ [] := List.ne_nil_of_mem quoted
    have solid : ∀ c ∈ family.toList, Text.isBlank c = false := by
      intro c inside
      by_contra blank
      exact sound ⟨quoted, List.any_eq_true.mpr ⟨c, inside, by simpa using blank⟩⟩
    cases describes with
    | quoted whole => exact absurd quoted whole
    | bare _ start =>
      rw [List.head?_append_of_ne_nil _ filled] at start
      exact .inr ⟨mt String.toList_eq_nil_iff.mpr filled, solid, start⟩
  · exact .inl quoted

/-- The description of a font is never empty. -/
theorem text_ne_empty (font : Font) : font.text ≠ "" := by
  intro empty
  have characters := toList_text font
  rw [empty] at characters
  split at characters
  next => cases characters
  next bare =>
    have named := (needsQuotes_eq_false_iff.mp (by simpa using bare)).1
    have nothing := (List.append_eq_nil_iff.mp characters.symm).1
    exact named (String.toList_eq_nil_iff.mp nothing)

/-- A font that was read is read back from its description, unless its family is torn. -/
theorem parse?_text_of_parse? (read : parse? text = some font) :
    parse? font.text = if Torn font.family then none else some font := by
  split
  next torn => exact parse?_text_of_torn torn
  next sound => exact parse?_text_of_restorable ((parse?_eq_some_iff.mp read).restorable sound)

/-! ### Main results -/

/-- A font comes back from its description exactly if its family is restorable: if there is no quote
in it, or if it can stand without quotes and does not start with one. A window has the font that it
was given in the same cases. -/
theorem parse?_text_iff (font : Font) :
    (parse? font.text = some font ↔ Restorable font.family) ∧
      ∀ window : Window,
        (window.withFont font).font? = some (.ok font) ↔ Restorable font.family := by
  have returns : parse? font.text = some font ↔ Restorable font.family :=
    ⟨restorable_of_parse?_text, parse?_text_of_restorable⟩
  refine ⟨returns, fun window => ?_⟩
  rw [Window.font?_eq_ok_iff, ← returns]
  rfl

/-- A font that was read from a text is read back from its description, unless there are both a
quote and a blank in its family; then no font at all is read from it. So a valid window stays valid
with the same font when its font is read and set again, or it becomes invalid for that font. -/
theorem described_again (read : parse? text = some font) :
    parse? font.text = (if Torn font.family then none else some font) ∧
      ∀ window : Window, window.font = text → window.validate = .ok () →
        (window.withFont font).font? =
            (if Torn font.family then some (.error (.invalidFont font.text)) else window.font?) ∧
          (window.withFont font).validate =
            (if Torn font.family then .error (.invalidFont font.text) else .ok ()) := by
  have again := parse?_text_of_parse? read
  refine ⟨again, ?_⟩
  rintro window rfl valid
  have type : window.kind = windowType := by
    by_contra other
    rw [Window.validate, if_pos other] at valid
    cases valid
  by_cases torn : Torn font.family
  · rw [if_pos torn] at again
    rw [if_pos torn, if_pos torn]
    exact ⟨Window.font?_of_unreadable (window.withFont font) font.text_ne_empty again,
      Window.validate_of_noFont type font.text_ne_empty again⟩
  · rw [if_neg torn] at again
    rw [if_neg torn, if_neg torn, (Window.font?_eq_ok_iff window).mpr read, ← valid,
      Window.validate_of_font type (.inr ⟨font, read⟩)]
    exact ⟨(window.withFont font).font?_eq_ok_iff.mpr again,
      Window.validate_of_font type (.inr ⟨font, again⟩)⟩

/-- A tab does not end a family, and neither does a quote inside it; but for the tab the family is
quoted when it is written. -/
theorem described_again_tab :
    let font : Font := ⟨"Sans\t'Mono'", some 12⟩
    let window : Window := { Window.empty with font := "Sans\t'Mono'  +12" }
    parse? window.font = some font ∧ window.validate = .ok () ∧ parse? font.text = none ∧
      (window.withFont font).validate = .error (.invalidFont "'Sans\t'Mono'' 12") := by
  intro font window
  have read : parse? window.font = some font := by decide +kernel
  have valid : window.validate = .ok () := by decide +kernel
  have torn : Torn font.family := by decide +kernel
  have description : font.text = "'Sans\t'Mono'' 12" := by decide +kernel
  obtain ⟨again, windows⟩ := described_again read
  obtain ⟨-, verdict⟩ := windows window rfl valid
  rw [if_pos torn] at again verdict
  rw [description] at verdict
  exact ⟨read, valid, again, verdict⟩

/-- Not every font that was read is read back: a tab belongs to the family, and so does a quote that
is not at its start. -/
theorem not_described_again :
    ∃ text font, parse? text = some font ∧ parse? font.text ≠ some font :=
  ⟨"\t'", ⟨"\t'", none⟩, by decide +kernel, by decide +kernel⟩

end Font

end Dialogs
