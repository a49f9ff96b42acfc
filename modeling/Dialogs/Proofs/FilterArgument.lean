import Dialogs.Command
import Dialogs.Proofs.FilterText

/-!
# The filters of a file dialog

A file dialog is asked for with filters that were read from a text, and passes them on as a text of
its own, its second positional argument. This module says when the renderer finds the same filters
there. Texts that were read stand for themselves, so all that can go wrong is a filter without
extensions, read from a list of nothing but semicolons and blanks: it has a name in the new text but
no part for its extensions, and from there on names and extensions are paired the wrong way.
-/

namespace Dialogs

namespace Command

/-- A value that is given stands at its own place among the positional arguments; at the place of
one that is absent there is the empty text, or nothing any more. -/
theorem getElem?_positionals (values : List (Option String)) (place : Nat) :
    ((positionals values)[place]?).getD "" = ((values[place]?).join).getD "" := by
  induction values generalizing place with
  | nil => rfl
  | cons value rest inductionHypothesis =>
    rw [positionals.eq_def]
    dsimp only
    split
    next nothing =>
      cases place with
      | zero => rfl
      | succ place => simpa [nothing] using inductionHypothesis place
    next =>
      cases place with
      | zero => simp
      | succ place => exact inductionHypothesis place

/-- The filters that the renderer finds in a command for a file dialog: those in its second
positional argument, and none if there is no such argument. -/
def shownFilters (command : Command) : List Filter :=
  Filter.parse ((command.arguments[1]?).getD "")

/-- The text of filters is passed on, or nothing if it is empty. -/
theorem getD_filterArgument (filters : List Filter) :
    (filterArgument filters).getD "" = Filter.formatAll filters := by
  cases filters <;> rfl

/-- The renderer finds the filters in the text of those that it is asked with. -/
theorem shownFilters_eq {command : Command} {filters : List Filter} (title dir : Option String)
    (fileDialog : command.arguments = positionals [title, filterArgument filters, dir]) :
    command.shownFilters = Filter.parse (Filter.formatAll filters) := by
  rw [shownFilters, fileDialog, getElem?_positionals, ← getD_filterArgument]
  rfl

end Command

namespace Filter

/-- Filters that were read from a text come back from their own text, and the renderer finds them in
the command for a file dialog, exactly if each of them has an extension. -/
theorem parse_formatAll_parse_iff (text : String) :
    (parse (formatAll (parse text)) = parse text ↔
        ∀ filter ∈ parse text, filter.extensions ≠ []) ∧
      ∀ title dir : Option String,
        ((Command.loadFile title (parse text) dir).shownFilters = parse text ↔
            ∀ filter ∈ parse text, filter.extensions ≠ []) ∧
          ((Command.saveFile title (parse text) dir).shownFilters = parse text ↔
            ∀ filter ∈ parse text, filter.extensions ≠ []) := by
  have returns : parse (formatAll (parse text)) = parse text ↔
      ∀ filter ∈ parse text, filter.extensions ≠ [] :=
    parse_formatAll_iff_of_worded fun _ member => worded_of_mem_parse member
  refine ⟨returns, fun title dir => ⟨?_, ?_⟩⟩
  · rwa [Command.shownFilters_eq title dir rfl]
  · rwa [Command.shownFilters_eq title dir rfl]

/-- A list of nothing but a semicolon leaves a filter without extensions, and the next name takes
the place of the list. -/
theorem parse_formatAll_parse_shifted :
    parse "A|;|B|*.b" = [⟨"A", []⟩, ⟨"B", ["*.b"]⟩] ∧
      parse (formatAll (parse "A|;|B|*.b")) = [⟨"A", ["B"]⟩] := by
  decide +kernel

end Filter

end Dialogs
