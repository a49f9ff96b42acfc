/-!
# Pieces and lines

Cutting a text at a separator, and cutting it into lines. A separator stands between two pieces,
so there is always one piece more than there are separators; a line break ends a line, so a text
that ends with one has no empty line after it. A carriage return right before a line break belongs
to the break.

Main statements: joining the pieces with the separator gives the text back, no piece contains the
separator, and at each separator the pieces in front of it are cut from those behind it. A text that
is cut once is cut at the first separator.
-/

namespace Dialogs.Text

/-- The pieces of a text between the occurrences of `separator`. -/
def piecesChars (separator : Char) : List Char → List (List Char)
  | [] => [[]]
  | c :: rest =>
    if c = separator then [] :: piecesChars separator rest
    else match piecesChars separator rest with
      | [] => [[c]]
      | piece :: pieces => (c :: piece) :: pieces

/-- The pieces of a text between the occurrences of `separator`. -/
def pieces (separator : Char) (text : String) : List String :=
  (piecesChars separator text.toList).map String.ofList

/-- The two parts of a text around the first occurrence of `separator`. -/
def splitOnceChars (separator : Char) : List Char → Option (List Char × List Char)
  | [] => none
  | c :: rest =>
    if c = separator then some ([], rest)
    else (splitOnceChars separator rest).map fun (before, behind) => (c :: before, behind)

/-- The lines of a text. `line` is the part of the current line that has been read, reversed. -/
def linesFrom (line : List Char) : List Char → List (List Char)
  | [] => if line.isEmpty then [] else [line.reverse]
  | '\n' :: rest =>
    (match line with
      | '\r' :: body => body.reverse
      | body => body.reverse) :: linesFrom [] rest
  | c :: rest => linesFrom (c :: line) rest

/-- The lines of a text, without their breaks: `\n`, or `\r\n`. -/
def lines (text : String) : List String := (linesFrom [] text.toList).map String.ofList

/-- There is a piece before the first separator, even if it is empty. -/
theorem piecesChars_ne_nil (separator : Char) (text : List Char) :
    piecesChars separator text ≠ [] := by
  cases text with
  | nil => simp [piecesChars]
  | cons c rest =>
    simp only [piecesChars]
    split
    · simp
    · split <;> simp

/-- Joining the pieces with the separator gives the text back. -/
theorem intercalate_piecesChars (separator : Char) (text : List Char) :
    [separator].intercalate (piecesChars separator text) = text := by
  induction text with
  | nil => rfl
  | cons c rest inductionHypothesis =>
    simp only [piecesChars]
    split
    · rename_i same
      subst same
      cases shape : piecesChars c rest with
      | nil => exact absurd shape (piecesChars_ne_nil c rest)
      | cons piece pieces =>
        rw [shape] at inductionHypothesis
        rw [← inductionHypothesis]
        simp [List.intercalate]
    · cases shape : piecesChars separator rest with
      | nil => exact absurd shape (piecesChars_ne_nil separator rest)
      | cons piece pieces =>
        rw [shape] at inductionHypothesis
        rw [← inductionHypothesis]
        cases pieces <;> simp [List.intercalate]

/-- No piece contains the separator. -/
theorem not_mem_of_mem_piecesChars {separator : Char} {text piece : List Char}
    (member : piece ∈ piecesChars separator text) : separator ∉ piece := by
  induction text generalizing piece with
  | nil =>
    obtain rfl := List.mem_singleton.mp member
    simp
  | cons c rest inductionHypothesis =>
    simp only [piecesChars] at member
    split at member
    · rcases List.mem_cons.mp member with rfl | later
      · simp
      · exact inductionHypothesis later
    · rename_i different
      cases shape : piecesChars separator rest with
      | nil => exact absurd shape (piecesChars_ne_nil separator rest)
      | cons first others =>
        simp only [shape, List.mem_cons] at member
        rcases member with rfl | later
        · have apart : separator ∉ first := inductionHypothesis (by simp [shape])
          intro inside
          rcases List.mem_cons.mp inside with same | deeper
          · exact different same.symm
          · exact apart deeper
        · exact inductionHypothesis (by simp [shape, later])

/-- A text without the separator is one piece. -/
theorem piecesChars_of_not_mem {separator : Char} {text : List Char}
    (absent : separator ∉ text) : piecesChars separator text = [text] := by
  induction text with
  | nil => rfl
  | cons c rest inductionHypothesis =>
    have different : c ≠ separator := fun same => absent (by simp [same])
    have later : separator ∉ rest := fun inside => absent (by simp [inside])
    simp [piecesChars, different, inductionHypothesis later]

/-- A separator cuts what stands in front of it from what stands behind. -/
theorem piecesChars_append (separator : Char) (before behind : List Char) :
    piecesChars separator (before ++ separator :: behind) =
      piecesChars separator before ++ piecesChars separator behind := by
  induction before with
  | nil => simp [piecesChars]
  | cons c rest inductionHypothesis =>
    simp only [List.cons_append, piecesChars, inductionHypothesis]
    split
    · rfl
    · cases shape : piecesChars separator rest with
      | nil => exact absurd shape (piecesChars_ne_nil separator rest)
      | cons piece pieces => rfl

/-- The pieces of a text have no characters that the text does not have. -/
theorem mem_of_mem_piecesChars {separator c : Char} {text piece : List Char}
    (member : piece ∈ piecesChars separator text) (inside : c ∈ piece) : c ∈ text := by
  induction text generalizing piece with
  | nil =>
    obtain rfl := List.mem_singleton.mp member
    exact inside
  | cons d rest inductionHypothesis =>
    simp only [piecesChars] at member
    split at member
    · rcases List.mem_cons.mp member with rfl | later
      · cases inside
      · exact List.mem_cons_of_mem _ (inductionHypothesis later inside)
    · cases shape : piecesChars separator rest with
      | nil => exact absurd shape (piecesChars_ne_nil separator rest)
      | cons first others =>
        simp only [shape, List.mem_cons] at member
        rcases member with rfl | later
        · rcases List.mem_cons.mp inside with rfl | deeper
          · exact List.mem_cons_self
          · exact List.mem_cons_of_mem _ (inductionHypothesis (by simp [shape]) deeper)
        · exact List.mem_cons_of_mem _ (inductionHypothesis (by simp [shape, later]) inside)

/-- A text is cut at the first separator in it. -/
theorem splitOnceChars_append {separator : Char} {before : List Char} (absent : separator ∉ before)
    (behind : List Char) :
    splitOnceChars separator (before ++ separator :: behind) = some (before, behind) := by
  induction before with
  | nil => simp [splitOnceChars]
  | cons c rest inductionHypothesis =>
    have different : c ≠ separator := fun same => absent (by simp [same])
    have later : separator ∉ rest := fun inside => absent (by simp [inside])
    rw [List.cons_append, splitOnceChars, if_neg different, inductionHypothesis later,
      Option.map_some]

/-- The two parts of a text stand around a separator, and there is none in front of it. -/
theorem eq_append_of_splitOnceChars {separator : Char} {text before behind : List Char}
    (cut : splitOnceChars separator text = some (before, behind)) :
    text = before ++ separator :: behind ∧ separator ∉ before := by
  induction text generalizing before with
  | nil => simp [splitOnceChars] at cut
  | cons c rest inductionHypothesis =>
    rw [splitOnceChars] at cut
    split at cut
    · rename_i same
      obtain ⟨rfl, rfl⟩ := Prod.mk.inj (Option.some.inj cut)
      exact ⟨by rw [same, List.nil_append], List.not_mem_nil⟩
    · rename_i different
      obtain ⟨⟨first, second⟩, deeper, joined⟩ := Option.map_eq_some_iff.mp cut
      obtain ⟨rfl, rfl⟩ := Prod.mk.inj joined
      obtain ⟨shape, absent⟩ := inductionHypothesis deeper
      refine ⟨by rw [shape, List.cons_append], ?_⟩
      rw [List.mem_cons, not_or]
      exact ⟨Ne.symm different, absent⟩

end Dialogs.Text
