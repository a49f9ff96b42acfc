import Dialogs.Proofs.Trimming
import Dialogs.Transcript

/-!
# Event lines

A line of output is an event line if the first character on it that is no blank opens an object. The
line itself decides, and not what is made of it: on an event line stands an event, or an error that
tells why there is none, and every other line is passed over.

The events on lines are those on the event lines among them, up to the first that cannot be decoded.
-/

namespace Dialogs

namespace Event

variable {line : String}

/-- Whether the first character of a line that is no blank opens an object. -/
def opensObject (line : String) : Bool :=
  (line.toList.find? fun c => !Text.isBlank c) == some '\x7b'

/-- The event that a line spells between the blanks around it. -/
def spelled (line : String) : Except Json.Error Event :=
  Json.decodeText record.decode (Text.trim line)

/-- Whether a line spells an event. -/
def Decodes (line : String) : Prop := ∃ event, spelled line = .ok event

/-- A line is meant as an event exactly if it opens an object. -/
theorem isEventLine_eq (line : String) : isEventLine line = opensObject line := by
  rw [isEventLine, Text.trim, String.toList_ofList, Text.head?_trimChars, opensObject]

/-- On a line that opens an object stands what it spells, and on every other line nothing. -/
theorem ofLine?_eq (line : String) :
    ofLine? line = if opensObject line then some (spelled line) else none := by
  rw [ofLine?, isEventLine_eq, spelled]

/-- A line that opens an object gives what it spells. -/
theorem ofLine?_of_opens (opens : opensObject line = true) :
    ofLine? line = some (spelled line) := by
  rw [ofLine?_eq, if_pos opens]

/-- A blank line opens no object. -/
theorem opensObject_of_blank (blank : Text.trim line = "") : opensObject line = false := by
  rw [← isEventLine_eq, isEventLine, blank]
  rfl

/-- Whether a line opens an object does not depend on the blanks around it. -/
theorem opensObject_congr {other : String} (same : Text.trim other = Text.trim line) :
    opensObject other = opensObject line := by
  rw [← isEventLine_eq, ← isEventLine_eq, isEventLine, isEventLine, same]

/-- Nor does what it spells. -/
theorem spelled_congr {other : String} (same : Text.trim other = Text.trim line) :
    spelled other = spelled line := by
  rw [spelled, spelled, same]

end Event

/-- The event lines of an output. -/
def eventLines (stdout : String) : List String := (Text.lines stdout).filter Event.opensObject

/-- The events on lines are those on the event lines among them. -/
theorem eventsOfLines_filter (lines : List String) :
    eventsOfLines (lines.filter Event.opensObject) = eventsOfLines lines := by
  induction lines with
  | nil => rfl
  | cons line rest inductionHypothesis =>
    by_cases opens : Event.opensObject line = true
    · rw [List.filter_cons_of_pos opens, eventsOfLines, eventsOfLines, inductionHypothesis]
    · have silent : Event.ofLine? line = none := by rw [Event.ofLine?_eq, if_neg opens]
      rw [List.filter_cons_of_neg opens, eventsOfLines, silent, inductionHypothesis]

/-- The events of an output are those on its event lines. -/
theorem eventsOf_eq (stdout : String) : eventsOf stdout = eventsOfLines (eventLines stdout) := by
  rw [eventsOf, eventLines, eventsOfLines_filter]

/-- Event lines that can be decoded give their events, in front of what comes behind them. -/
theorem eventsOfLines_append {before : List String}
    (opening : ∀ line ∈ before, Event.opensObject line = true)
    (decoded : ∀ line ∈ before, Event.Decodes line) (rest : List String) :
    ∃ events, eventsOfLines (before ++ rest) = (eventsOfLines rest).map (events ++ ·) := by
  induction before with
  | nil => exact ⟨[], by cases shape : eventsOfLines rest <;> simp [shape, Except.map]⟩
  | cons line before inductionHypothesis =>
    obtain ⟨opens, others⟩ := List.forall_mem_cons.mp opening
    obtain ⟨⟨event, here⟩, later⟩ := List.forall_mem_cons.mp decoded
    obtain ⟨events, read⟩ := inductionHypothesis others later
    refine ⟨event :: events, ?_⟩
    rw [List.cons_append, eventsOfLines, Event.ofLine?_of_opens opens, here, read]
    cases eventsOfLines rest <;> rfl

/-- Behind event lines that can be decoded, the next one decides how an output is read on. -/
theorem eventsOf_split {stdout line : String} {before after : List String}
    (shape : eventLines stdout = before ++ line :: after)
    (decoded : ∀ earlier ∈ before, Event.Decodes earlier) :
    ∃ events, eventsOf stdout = (eventsOfLines (line :: after)).map (events ++ ·) ∧
      Event.ofLine? line = some (Event.spelled line) := by
  have opening : ∀ found ∈ eventLines stdout, Event.opensObject found = true :=
    fun found inside => (List.mem_filter.mp inside).2
  rw [shape, List.forall_mem_append, List.forall_mem_cons] at opening
  obtain ⟨earlier, opens, -⟩ := opening
  obtain ⟨events, read⟩ := eventsOfLines_append earlier decoded (line :: after)
  exact ⟨events, by rw [eventsOf_eq, shape, read], Event.ofLine?_of_opens opens⟩

/-- Either all lines can be decoded, or there is a first one that cannot. -/
theorem decodes_or_first_not (lines : List String) :
    (∀ line ∈ lines, Event.Decodes line) ∨
      ∃ before line after, lines = before ++ line :: after ∧
        (∀ earlier ∈ before, Event.Decodes earlier) ∧ ¬ Event.Decodes line := by
  induction lines with
  | nil => exact .inl (by simp)
  | cons line rest inductionHypothesis =>
    by_cases here : Event.Decodes line
    · rcases inductionHypothesis with all | ⟨before, bad, after, rfl, decoded, broken⟩
      · exact .inl (List.forall_mem_cons.mpr ⟨here, all⟩)
      · have longer := List.forall_mem_cons.mpr ⟨here, decoded⟩
        exact .inr ⟨line :: before, bad, after, rfl, longer, broken⟩
    · exact .inr ⟨[], line, rest, rfl, by simp, here⟩

end Dialogs
