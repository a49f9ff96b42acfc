import Dialogs.Cli.Program
import Dialogs.Proofs.ReplyReading

/-!
# Listings of backends

The renderer lists its backends on lines among others, and the program lists them again. This module
says which backends come back from their line: those without a colon in the name and without blanks
at the ends of the name and the version. Such backends come back from a listing, in order and none
besides, whatever lines without a colon stand around them and however the lines are broken.

What was read from a listing is always of this kind, so it is not changed by listing it again.
-/

namespace Dialogs

namespace Text

variable {text : String} {solid : Char}

/-- A text with no blank at either end of it. -/
def Trimmed (text : String) : Prop :=
  (∀ c ∈ text.toList.head?, isBlank c = false) ∧ ∀ c ∈ text.toList.getLast?, isBlank c = false

/-- A text is trimmed if trimming does not change it. -/
theorem trimmed_iff : Trimmed text ↔ trimChars text.toList = text.toList :=
  trimChars_eq_self_iff.symm

instance (text : String) : Decidable (Trimmed text) :=
  decidable_of_iff _ trimmed_iff.symm

/-- Trimming stops at a character that is no blank: it is left, and the text on either side of it is
trimmed on that side. -/
theorem trimChars_append_cons (kept : isBlank solid = false) (before behind : List Char) :
    trimChars (before ++ solid :: behind) =
      trimStartChars before ++ solid :: trimEndChars behind := by
  have started : trimStartChars (before ++ solid :: behind) =
      trimStartChars before ++ solid :: behind := by
    induction before with
    | nil => exact trimStartChars_of_head kept
    | cons c before inductionHypothesis =>
      rw [List.cons_append, trimStartChars, trimStartChars, List.dropWhile_cons,
        List.dropWhile_cons]
      split
      · exact inductionHypothesis
      · rfl
  rw [trimChars, started]
  -- Nothing in front of the solid character is at the end, so none of it is trimmed there.
  induction trimStartChars before with
  | nil => rw [List.nil_append, List.nil_append, trimEndChars_cons, if_neg (by simp [kept])]
  | cons c first inductionHypothesis =>
    rw [List.cons_append, trimEndChars_cons, inductionHypothesis, if_neg (by simp),
      List.cons_append]

/-- What is left of a text by trimming its start is trimmed like the text. -/
theorem trimChars_trimStartChars (text : List Char) :
    trimChars (trimStartChars text) = trimChars text := by
  rw [trimChars, trimStartChars, trimStartChars, List.dropWhile_idempotent, ← trimStartChars,
    trimChars]

/-- What is left of a text by trimming its end is trimmed like the text. -/
theorem trimChars_trimEndChars (text : List Char) :
    trimChars (trimEndChars text) = trimChars text := by
  rw [← trimStartChars_trimEndChars, ← trimStartChars_trimEndChars, trimEndChars_eq,
    trimEndChars_eq, List.rdropWhile_idempotent]

/-- There is no newline in a line, once it is trimmed. -/
theorem newline_not_mem_trim_line {line : String} (inside : line ∈ lines text) :
    '\n' ∉ (trim line).toList := by
  obtain ⟨shown, cut, rfl⟩ := List.mem_map.mp inside
  obtain ⟨ending, -, same⟩ := trimmed_lines text.toList
  have piece : trimChars shown ∈ (piecesChars '\n' text.toList).map trimChars := by
    rw [same]
    exact List.mem_append_left _ (List.mem_map_of_mem cut)
  obtain ⟨found, cutFound, trimmed⟩ := List.mem_map.mp piece
  rw [trim, String.toList_ofList, String.toList_ofList, ← trimmed]
  exact fun newline => not_mem_of_mem_piecesChars cutFound (mem_of_mem_trimChars newline)

end Text

namespace Backend

variable {backend : Backend} {line : String}

/-- A backend that its line gives back. -/
structure Restorable (backend : Backend) : Prop where
  whole : ':' ∉ backend.name.toList
  name : Text.Trimmed backend.name
  version : Text.Trimmed backend.version

/-- What stands on a line of a listing. -/
inductive Entry where
  | backend (backend : Backend)
  | noise (text : String)

namespace Entry

/-- The text of an entry. -/
def text : Entry → String
  | .backend backend => backend.line
  | .noise text => text

/-- The backend of an entry, if it has one. -/
def backend? : Entry → Option Backend
  | .backend backend => some backend
  | .noise _ => none

/-- An entry stands on one line. A backend can be read from it, and noise does not look like one. -/
def Fair : Entry → Prop
  | .backend backend =>
    backend.Restorable ∧ '\n' ∉ backend.name.toList ∧ '\n' ∉ backend.version.toList
  | .noise text => ':' ∉ text.toList ∧ '\n' ∉ text.toList

end Entry

/-- The text of a listing: its entries, each with the break of its line. -/
def listing (lines : List (Entry × LineBreak)) : String :=
  String.join (lines.map fun (entry, lineBreak) => entry.text ++ lineBreak.text)

/-! ### One line -/

/-- A backend is read from a line with a colon: the name is what stands in front of the first colon,
and the version is what stands behind it, both trimmed. -/
theorem ofLine?_eq_some_iff :
    ofLine? line = some backend ↔
      ∃ name version, line.toList = name ++ ':' :: version ∧ ':' ∉ name ∧
        backend.name.toList = Text.trimChars name ∧
        backend.version.toList = Text.trimChars version := by
  rw [ofLine?, Option.map_eq_some_iff]
  constructor
  · rintro ⟨⟨name, version⟩, cut, rfl⟩
    obtain ⟨shape, whole⟩ := Text.eq_append_of_splitOnceChars cut
    exact ⟨name, version, shape, whole, String.toList_ofList, String.toList_ofList⟩
  · rintro ⟨name, version, shape, whole, named, versioned⟩
    refine ⟨(name, version), by rw [shape, Text.splitOnceChars_append whole], ?_⟩
    simp only [← named, ← versioned, String.ofList_toList]

/-- No backend is read from a line without a colon. -/
theorem ofLine?_eq_none (absent : ':' ∉ line.toList) : ofLine? line = none := by
  by_contra readable
  obtain ⟨backend, read⟩ := Option.ne_none_iff_exists'.mp readable
  obtain ⟨name, version, shape, -⟩ := ofLine?_eq_some_iff.mp read
  exact absent (by simp [shape])

/-- Blanks around a line make no difference to the backend on it. -/
theorem ofLine?_trim (line : String) : ofLine? (Text.trim line) = ofLine? line := by
  by_cases coloned : ':' ∈ line.toList
  -- A colon is no blank, so the first one survives and the line is cut at the same place.
  · obtain ⟨name, version, shape, whole⟩ := List.eq_append_cons_of_mem coloned
    have wholeTrimmed : ':' ∉ Text.trimStartChars name := fun inside =>
      whole ((List.dropWhile_suffix _).mem inside)
    rw [ofLine?, ofLine?, Text.trim, String.toList_ofList, shape,
      Text.trimChars_append_cons rfl, Text.splitOnceChars_append whole,
      Text.splitOnceChars_append wholeTrimmed]
    simp only [Option.map_some, Text.trimChars_trimStartChars, Text.trimChars_trimEndChars]
  · have absent : ':' ∉ (Text.trim line).toList := by
      rw [Text.trim, String.toList_ofList]
      exact fun inside => coloned (Text.mem_of_mem_trimChars inside)
    rw [ofLine?_eq_none absent, ofLine?_eq_none coloned]

/-- What is read from a line is restorable. -/
theorem restorable_of_ofLine? (read : ofLine? line = some backend) : backend.Restorable := by
  obtain ⟨name, version, -, whole, named, versioned⟩ := ofLine?_eq_some_iff.mp read
  refine ⟨?_, ?_, ?_⟩
  · rw [named]
    exact fun inside => whole (Text.mem_of_mem_trimChars inside)
  · rw [Text.trimmed_iff, named, Text.trimChars_trimChars]
  · rw [Text.trimmed_iff, versioned, Text.trimChars_trimChars]

/-- A restorable backend comes back from its line. -/
theorem Restorable.ofLine?_line (restorable : backend.Restorable) :
    ofLine? backend.line = some backend := by
  rw [ofLine?_eq_some_iff]
  refine ⟨backend.name.toList, ' ' :: backend.version.toList, ?_, restorable.whole, ?_, ?_⟩
  · rw [line, String.toList_append, String.toList_append, List.append_assoc]
    rfl
  · exact (Text.trimmed_iff.mp restorable.name).symm
  · have spaced : Text.trimChars (' ' :: backend.version.toList) =
        Text.trimChars backend.version.toList := rfl
    rw [spaced]
    exact (Text.trimmed_iff.mp restorable.version).symm

/-! ### All lines -/

/-- No backend is read from a blank line, so passing such lines over changes nothing. -/
theorem ofTranscript_eq (stdout : String) :
    ofTranscript stdout = (Text.lines stdout).filterMap ofLine? := by
  rw [ofTranscript, List.filterMap_filter]
  refine List.filterMap_congr fun line _ => ?_
  by_cases blank : Text.isAllBlank line = true
  · have absent : ':' ∉ line.toList := fun inside =>
      absurd (List.all_eq_true.mp blank ':' inside) (by decide)
    rw [blank, ofLine?_eq_none absent]
    rfl
  · rw [if_pos (by simpa using blank)]

namespace Entry

variable {entry : Entry}

/-- An entry is read from its line as what it is. -/
theorem Fair.ofLine?_text (fair : entry.Fair) : ofLine? entry.text = entry.backend? := by
  cases entry with
  | backend backend => exact fair.1.ofLine?_line
  | noise text => exact ofLine?_eq_none fair.1

/-- No line is broken by its entry. -/
theorem Fair.newline_not_mem (fair : entry.Fair) : '\n' ∉ entry.text.toList := by
  cases entry with
  | backend backend =>
    obtain ⟨-, name, version⟩ := fair
    simp [text, line, name, version]
  | noise text => exact fair.2

end Entry

/-- The backends of a listing are those of its entries.

Proof: by induction over the lines. A line with its break is one line of the transcript, up to a
blank, and blanks at its ends make no difference to what is read from it. -/
theorem ofTranscript_listing {lines : List (Entry × LineBreak)}
    (fair : ∀ line ∈ lines, line.1.Fair) :
    ofTranscript (listing lines) = lines.filterMap (·.1.backend?) := by
  induction lines with
  | nil => rfl
  | cons head rest inductionHypothesis =>
    obtain ⟨entry, lineBreak⟩ := head
    obtain ⟨fairEntry, fairRest⟩ := List.forall_mem_cons.mp fair
    have later := inductionHypothesis fairRest
    obtain ⟨shown, cut, same⟩ :=
      Text.lines_broken fairEntry.newline_not_mem lineBreak (listing rest)
    have read : ofLine? shown = entry.backend? := by
      rw [← ofLine?_trim, same, ofLine?_trim, fairEntry.ofLine?_text]
    rw [ofTranscript_eq] at later ⊢
    rw [listing, List.map_cons, String.join_cons, ← listing, cut, List.filterMap_cons, read,
      later, List.filterMap_cons]

/-- A backend of a transcript can be listed. -/
theorem fair_of_mem_ofTranscript {stdout : String} (inside : backend ∈ ofTranscript stdout) :
    (Entry.backend backend).Fair := by
  rw [ofTranscript_eq] at inside
  obtain ⟨line, listed, read⟩ := List.mem_filterMap.mp inside
  -- A line may end with a carriage return, but what was read from it was read from it trimmed.
  have unbroken := Text.newline_not_mem_trim_line listed
  rw [← ofLine?_trim] at read
  obtain ⟨name, version, shape, -, named, versioned⟩ := ofLine?_eq_some_iff.mp read
  simp only [shape, List.mem_append, List.mem_cons, not_or] at unbroken
  obtain ⟨unbrokenName, -, unbrokenVersion⟩ := unbroken
  refine ⟨restorable_of_ofLine? read, ?_, ?_⟩
  · rw [named]
    exact fun newline => unbrokenName (Text.mem_of_mem_trimChars newline)
  · rw [versioned]
    exact fun newline => unbrokenVersion (Text.mem_of_mem_trimChars newline)

/-- The program lists backends each on its own line, also if there are none. -/
theorem stdout_ofBackends (backends : List Backend) :
    (Cli.Outcome.ofBackends backends).stdout =
      listing (backends.map fun backend => (.backend backend, .newline)) := by
  rw [listing, List.map_map]
  cases backends <;> rfl

/-- Restorable backends come back from the listing of the program. -/
theorem ofTranscript_ofBackends {backends : List Backend}
    (fair : ∀ backend ∈ backends, (Entry.backend backend).Fair) :
    ofTranscript (Cli.Outcome.ofBackends backends).stdout = backends := by
  have lines : ∀ line ∈ backends.map fun backend => (Entry.backend backend, LineBreak.newline),
      line.1.Fair := by
    simpa using fair
  rw [stdout_ofBackends, ofTranscript_listing lines, List.filterMap_map]
  exact List.filterMap_some

/-! ### Main result -/

/-- A backend comes back from its line exactly if there is no colon in its name and no blank at
either end of its name and its version. Listed among lines without a colon, such backends are what
the client lists, in order. And what the client lists for any output, it lists again for the output
of the program that prints the list. -/
theorem listing_returns :
    (∀ backend : Backend, ofLine? backend.line = some backend ↔ backend.Restorable) ∧
      (∀ lines : List (Entry × LineBreak), (∀ line ∈ lines, line.1.Fair) →
        ∀ (options : GlobalOptions) (stderr : String),
          options.listBackends.run (fun _ => .ok ⟨listing lines, stderr⟩) =
            .ok (lines.filterMap (·.1.backend?))) ∧
      ∀ (options : GlobalOptions) (stdout stderr : String),
        ∃ backends, options.listBackends.run (fun _ => .ok ⟨stdout, stderr⟩) = .ok backends ∧
          options.listBackends.run
              (fun _ => .ok ⟨(Cli.Outcome.ofBackends backends).stdout, stderr⟩) =
            .ok backends := by
  refine ⟨fun backend => ⟨restorable_of_ofLine?, Restorable.ofLine?_line⟩, ?_, ?_⟩
  · intro lines fair options stderr
    exact congrArg Except.ok (ofTranscript_listing fair)
  · intro options stdout stderr
    refine ⟨ofTranscript stdout, rfl, congrArg Except.ok (ofTranscript_ofBackends ?_)⟩
    exact fun backend inside => fair_of_mem_ofTranscript inside

/-- A version with colons in it, a name and a version that are empty, a carriage return inside a
name, and noise around them. -/
theorem listing_returns_mixed :
    let lines : List (Entry × LineBreak) :=
      [(.noise "backends", .newline), (.backend ⟨"gtk", "4.12: beta:1"⟩, .carriageReturn),
        (.noise " \t", .carriageReturn), (.backend ⟨"", ""⟩, .newline), (.noise "", .newline),
        (.backend ⟨"a\rb", ""⟩, .carriageReturn), (.noise "done\r", .newline)]
    (⟨none, false⟩ : GlobalOptions).listBackends.run (fun _ => .ok ⟨listing lines, ""⟩) =
      .ok [⟨"gtk", "4.12: beta:1"⟩, ⟨"", ""⟩, ⟨"a\rb", ""⟩] := by
  intro lines
  have gtk : (⟨"gtk", "4.12: beta:1"⟩ : Backend).Restorable := ⟨by decide, by decide, by decide⟩
  have empty : (⟨"", ""⟩ : Backend).Restorable := ⟨by decide, by decide, by decide⟩
  have returned : (⟨"a\rb", ""⟩ : Backend).Restorable := ⟨by decide, by decide, by decide⟩
  obtain ⟨-, listed, -⟩ := listing_returns
  refine (listed lines ?_ ⟨none, false⟩ "").trans rfl
  simp only [lines, List.forall_mem_cons]
  refine ⟨?_, ?_, ?_, ?_, ?_, ?_, ?_, by simp⟩
  · exact ⟨by decide, by decide⟩
  · exact ⟨gtk, by decide, by decide⟩
  · exact ⟨by decide, by decide⟩
  · exact ⟨empty, by decide, by decide⟩
  · exact ⟨by decide, by decide⟩
  · exact ⟨returned, by decide, by decide⟩
  · exact ⟨by decide, by decide⟩

end Backend

end Dialogs
