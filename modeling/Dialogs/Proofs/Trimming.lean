import Mathlib.Data.List.DropRight
import Mathlib.Data.List.TakeWhile
import Dialogs.Text.Blank

/-!
# Trimming at both ends

The two ends of a text are trimmed independently: it does not matter which comes first, and what is
trimmed stays as it is. A blank at the end of a line, such as the carriage return in front of a line
break, makes no difference to the trimmed line.
-/

namespace Dialogs.Text

/-- Trimming the end is what the library knows as dropping from the right. -/
theorem trimEndChars_eq (text : List Char) : trimEndChars text = text.rdropWhile isBlank := rfl

/-- A blank at the end of a text is trimmed. -/
theorem trimEndChars_concat {c : Char} (blank : isBlank c = true) (text : List Char) :
    trimEndChars (text ++ [c]) = trimEndChars text := by
  rw [trimEndChars_eq, List.rdropWhile_concat_pos _ _ _ blank, trimEndChars_eq]

/-- A character at the start of a text is trimmed at the end only if it is a blank in front of
blanks. -/
theorem trimEndChars_cons (c : Char) (rest : List Char) :
    trimEndChars (c :: rest) =
      if trimEndChars rest = [] ∧ isBlank c = true then [] else c :: trimEndChars rest := by
  simp only [trimEndChars, List.reverse_cons, List.reverse_eq_nil_iff, List.dropWhile_append,
    List.isEmpty_iff]
  by_cases nothing : rest.reverse.dropWhile isBlank = []
  · by_cases blank : isBlank c = true <;> simp [nothing, blank]
  · simp [nothing]

/-- The two ends of a text are trimmed in either order. -/
theorem trimStartChars_trimEndChars (text : List Char) :
    trimStartChars (trimEndChars text) = trimChars text := by
  unfold trimChars
  induction text with
  | nil => rfl
  | cons c rest inductionHypothesis =>
    by_cases blank : isBlank c = true
    · have skipped : trimStartChars (c :: rest) = trimStartChars rest := by
        simp [trimStartChars, blank]
      rw [skipped, ← inductionHypothesis, trimEndChars_cons]
      by_cases nothing : trimEndChars rest = []
      · simp [nothing, blank]
      · simp [nothing, blank, trimStartChars]
    · have solid : isBlank c = false := by simpa using blank
      rw [trimStartChars_of_head solid, trimEndChars_cons]
      simp [solid, trimStartChars_of_head]

/-- A trimmed text starts with the first character that is no blank. -/
theorem head?_trimChars (text : List Char) :
    (trimChars text).head? = text.find? fun c => !isBlank c := by
  have started : text.find? (fun c => !isBlank c) = (trimStartChars text).head? :=
    List.find?_not_eq_head?_dropWhile isBlank text
  rw [started, trimChars]
  cases shape : trimStartChars text with
  | nil => rfl
  | cons c rest =>
    have solid : isBlank c = false := isBlank_head_trimStartChars shape
    rw [trimEndChars_cons]
    simp [solid]

/-- Trimming a line at its end and then at its start is trimming it. -/
theorem trimStart_trimEnd (line : String) : trimStart (trimEnd line) = trim line := by
  rw [trimStart, trimEnd, trim, String.toList_ofList, trimStartChars_trimEndChars]

/-- A blank at the end of a text makes no difference to the trimmed text. -/
theorem trimChars_concat {c : Char} (blank : isBlank c = true) (text : List Char) :
    trimChars (text ++ [c]) = trimChars text := by
  rw [← trimStartChars_trimEndChars, trimEndChars_concat blank, trimStartChars_trimEndChars]

/-- Nor do several. -/
theorem trimChars_append {after : List Char} (blank : ∀ c ∈ after, isBlank c = true)
    (text : List Char) : trimChars (text ++ after) = trimChars text := by
  induction after using List.reverseRecOn with
  | nil => rw [List.append_nil]
  | append_singleton after c inductionHypothesis =>
    have last : isBlank c = true := blank c (by simp)
    rw [← List.append_assoc, trimChars_concat last]
    exact inductionHypothesis fun d inside => blank d (List.mem_append_left _ inside)

/-- Blanks around a text make no difference to the trimmed text. -/
theorem trimChars_surrounded {before after : List Char}
    (blankBefore : ∀ c ∈ before, isBlank c = true) (blankAfter : ∀ c ∈ after, isBlank c = true)
    (text : List Char) : trimChars (before ++ text ++ after) = trimChars text := by
  have started : trimStartChars (before ++ text) = trimStartChars text :=
    List.dropWhile_append_of_pos blankBefore
  rw [trimChars_append blankAfter, trimChars, started, trimChars]

/-- A text is trimmed exactly when there is no blank at either end of it. -/
theorem trimChars_eq_self_iff {text : List Char} :
    trimChars text = text ↔
      (∀ c ∈ text.head?, isBlank c = false) ∧ ∀ c ∈ text.getLast?, isBlank c = false := by
  have started : trimStartChars text = text ↔ ∀ c ∈ text.head?, isBlank c = false := by
    cases text <;> simp [trimStartChars, List.dropWhile_eq_self_iff]
  have ended : trimEndChars text = text ↔ ∀ c ∈ text.getLast?, isBlank c = false := by
    rw [trimEndChars_eq, List.rdropWhile_eq_self_iff]
    cases text <;> simp [List.getLast?_cons, List.getLast_eq_getLastD]
  rw [← started, ← ended]
  constructor
  · intro same
    have atStart : trimStartChars text <:+ text := List.dropWhile_suffix _
    have atEnd : trimChars text <+: trimStartChars text := List.rdropWhile_prefix _ _
    have length := atEnd.length_le
    rw [same] at length
    have unchanged : trimStartChars text = text :=
      atStart.eq_of_length (Nat.le_antisymm atStart.length_le length)
    refine ⟨unchanged, ?_⟩
    rwa [trimChars, unchanged] at same
  · rintro ⟨start, finish⟩
    rw [trimChars, start, finish]

/-- A text between two characters that are no blanks is trimmed. -/
theorem trimChars_of_solid {first last : Char} (solidFirst : isBlank first = false)
    (solidLast : isBlank last = false) (inner : List Char) :
    trimChars (first :: (inner ++ [last])) = first :: (inner ++ [last]) := by
  rw [trimChars_eq_self_iff, ← List.cons_append, List.getLast?_concat, List.cons_append,
    List.head?_cons]
  simp [solidFirst, solidLast]

/-- A trimmed text is trimmed already. -/
theorem trimChars_trimChars (text : List Char) : trimChars (trimChars text) = trimChars text := by
  have started : trimStartChars (trimStartChars text) = trimStartChars text :=
    List.dropWhile_idempotent _ _
  have ended : trimEndChars (trimEndChars (trimStartChars text)) =
      trimEndChars (trimStartChars text) := List.rdropWhile_idempotent _ _
  calc
    trimChars (trimChars text)
      = trimEndChars (trimEndChars (trimStartChars (trimStartChars text))) := by
        rw [trimChars, trimChars, trimStartChars_trimEndChars, trimChars]
    _ = trimChars text := by
        rw [started, ended, trimChars]

/-- Trimming takes nothing but blanks, so what is left was there. -/
theorem mem_of_mem_trimChars {c : Char} {text : List Char} (inside : c ∈ trimChars text) :
    c ∈ text :=
  (List.dropWhile_suffix _).mem ((List.rdropWhile_prefix _ _).mem inside)

/-- Trimming the start of a text leaves every character that is no blank. -/
theorem mem_trimStartChars {c : Char} {text : List Char} (inside : c ∈ text)
    (solid : isBlank c = false) : c ∈ trimStartChars text := by
  rw [← List.takeWhile_append_dropWhile (p := isBlank) (l := text), List.mem_append] at inside
  rcases inside with skipped | left
  · have blank : isBlank c = true := List.mem_takeWhile_imp skipped
    simp [solid] at blank
  · exact left

/-- Nothing is left of a text exactly when there are only blanks in it. -/
theorem isAllBlank_iff {text : String} : isAllBlank text = true ↔ trimChars text.toList = [] := by
  simp only [isAllBlank, List.all_eq_true, trimChars, trimEndChars_eq, List.rdropWhile_eq_nil_iff]
  constructor
  · intro blank c inside
    exact blank c (List.IsSuffix.mem inside (List.dropWhile_suffix _))
  · intro blank
    cases shape : trimStartChars text.toList with
    | nil => exact fun c inside => List.dropWhile_eq_nil_iff.mp shape c inside
    | cons c rest =>
      have solid := isBlank_head_trimStartChars shape
      have first : isBlank c = true := blank c (by simp [shape])
      simp [solid] at first

/-- Trimming does not make a text blank. -/
theorem isAllBlank_trim (text : String) : isAllBlank (trim text) = isAllBlank text := by
  rw [Bool.eq_iff_iff, isAllBlank_iff, isAllBlank_iff, trim, String.toList_ofList,
    trimChars_trimChars]

end Dialogs.Text
