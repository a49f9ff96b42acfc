import Dialogs.Proofs.FilterPairing

/-!
# Filters that their text gives back

The text of filters marks nothing as text: what a name or an extension has in common with the signs
around it is lost. A bar in a name cuts it, blanks at its ends are dropped, and a filter without
extensions leaves its name to be paired with whatever comes next. This module says exactly which
filters come back from their text.

A text that is joined from parts has the segments of its parts, whatever they are. So nothing has to
be known of filters to say what the segments of their text are, and both directions start there.
-/

namespace Dialogs.Filter

/-- A text that stands for itself between separators: there is something in it, there is no blank at
either end of it, and it has none of the separators in it. -/
structure Solid (separators text : List Char) : Prop where
  filled : text ≠ []
  start : ∀ c ∈ text.head?, Text.isBlank c = false
  finish : ∀ c ∈ text.getLast?, Text.isBlank c = false
  whole : ∀ separator ∈ separators, separator ∉ text

/-- The texts of a filter stand for themselves: its name between bars, and each of its extensions
between bars and semicolons. A name may have semicolons in it. -/
structure Worded (filter : Filter) : Prop where
  name : Solid ['|'] filter.name.toList
  extensions : ∀ extension ∈ filter.extensions, Solid [';', '|'] extension.toList

/-- A filter that can be written down: its texts stand for themselves, and it has extensions. -/
structure Spelled (filter : Filter) : Prop extends filter.Worded where
  listed : filter.extensions ≠ []

variable {marks fewer : List Char} {separator : Char} {text other segment : List Char}
  {texts : List (List Char)} {filter : Filter} {filters : List Filter}

/-! ### Segments -/

/-- There are no segments in an empty text. -/
theorem segments_nil (separator : Char) : segments separator [] = [] := rfl

/-- A text that is joined from parts has the segments of its parts. -/
theorem segments_intercalate (separator : Char) (texts : List (List Char)) :
    segments separator ([separator].intercalate texts) = texts.flatMap (segments separator) := by
  induction texts with
  | nil => exact segments_nil separator
  | cons first rest inductionHypothesis =>
    cases rest with
    | nil => rw [List.intercalate_singleton, List.flatMap_singleton]
    | cons second later =>
      rw [List.intercalate_cons_cons, List.append_assoc, List.singleton_append, segments_append,
        inductionHypothesis]
      rfl

/-! ### Solid texts -/

/-- Fewer separators cut less. -/
theorem Solid.of_fewer (solid : Solid marks text) (fewer_subset : fewer ⊆ marks) :
    Solid fewer text :=
  { solid with whole := fun mark inside => solid.whole mark (fewer_subset inside) }

/-- A solid text is its only segment. -/
theorem Solid.segments (solid : Solid marks text) (mark : separator ∈ marks) :
    segments separator text = [text] := by
  have trimmed : Text.trimChars text = text :=
    Text.trimChars_eq_self_iff.mpr ⟨solid.start, solid.finish⟩
  have filled : Text.trimChars text ≠ [] := by
    rw [trimmed]
    exact solid.filled
  rw [segments_of_not_mem (solid.whole separator mark) filled, trimmed]

/-- Solid texts around a character that is no separator make a solid text. -/
theorem Solid.join (first : Solid marks text) (second : Solid marks other)
    (plain : separator ∉ marks) : Solid marks (text ++ separator :: other) where
  filled := by simp
  start := by
    rw [List.head?_append_of_ne_nil _ first.filled]
    exact first.start
  finish := by
    rw [← List.singleton_append, ← List.append_assoc,
      List.getLast?_append_of_ne_nil _ second.filled]
    exact second.finish
  whole := by
    intro mark inside
    rw [List.mem_append, List.mem_cons]
    rintro (before | here | behind)
    · exact first.whole mark inside before
    · exact plain (here ▸ inside)
    · exact second.whole mark inside behind

/-- So do many. -/
theorem solid_intercalate (listed : texts ≠ []) (solid : ∀ text ∈ texts, Solid marks text)
    (plain : separator ∉ marks) : Solid marks ([separator].intercalate texts) := by
  induction texts with
  | nil => exact absurd rfl listed
  | cons first rest inductionHypothesis =>
    have firstSolid : Solid marks first := solid first List.mem_cons_self
    cases rest with
    | nil => rwa [List.intercalate_singleton]
    | cons second later =>
      rw [List.intercalate_cons_cons, List.append_assoc, List.singleton_append]
      refine firstSolid.join (inductionHypothesis (List.cons_ne_nil _ _) ?_) plain
      exact fun text inside => solid text (List.mem_cons_of_mem _ inside)

/-- A segment is solid: between the separators that it was cut at, and between all others that were
not there. -/
theorem solid_of_mem_segments (member : segment ∈ segments separator text)
    (absent : ∀ mark ∈ marks, mark ∉ text) : Solid (separator :: marks) segment := by
  obtain ⟨cut, filled⟩ := List.mem_filter.mp member
  obtain ⟨piece, pieces, rfl⟩ := List.mem_map.mp cut
  obtain ⟨start, finish⟩ :=
    Text.trimChars_eq_self_iff.mp (Text.trimChars_trimChars piece)
  refine ⟨by simpa using filled, start, finish, ?_⟩
  intro mark inside found
  have within : mark ∈ piece := Text.mem_of_mem_trimChars found
  rcases List.mem_cons.mp inside with rfl | unused
  · exact Text.not_mem_of_mem_piecesChars pieces within
  · exact absent mark unused (Text.mem_of_mem_piecesChars pieces within)

/-! ### The text of filters -/

/-- The text of the extensions of a filter. -/
def extensionText (filter : Filter) : List Char :=
  [';'].intercalate (filter.extensions.map String.toList)

/-- The text of a filter is its name and the text of its extensions around a bar. -/
theorem toList_format (filter : Filter) :
    filter.format.toList = filter.name.toList ++ '|' :: filter.extensionText := by
  simp [format, extensionText, String.toList_intercalate]

/-- The segments of the text of filters are those of their names and extension texts. -/
theorem segments_formatAll (filters : List Filter) :
    segments '|' (formatAll filters).toList = filters.flatMap fun filter =>
      segments '|' filter.name.toList ++ segments '|' filter.extensionText := by
  have parts : (formatAll filters).toList =
      ['|'].intercalate (filters.map fun filter => filter.format.toList) := by
    simp [formatAll, String.toList_intercalate, Function.comp_def]
  rw [parts, segments_intercalate, List.flatMap_map]
  refine List.flatMap_congr fun filter _ => ?_
  rw [toList_format, segments_append]

/-- The segment of the name of a filter. -/
theorem Worded.segments_name (worded : filter.Worded) :
    segments '|' filter.name.toList = [filter.name.toList] :=
  worded.name.segments (List.mem_singleton.mpr rfl)

/-- The extension text of a filter with extensions is solid between bars. -/
theorem Worded.segments_extensionText (worded : filter.Worded) (listed : filter.extensions ≠ []) :
    segments '|' filter.extensionText = [filter.extensionText] := by
  have solid : ∀ text ∈ filter.extensions.map String.toList, Solid ['|'] text := by
    intro text inside
    obtain ⟨extension, member, rfl⟩ := List.mem_map.mp inside
    exact (worded.extensions extension member).of_fewer (List.subset_cons_self _ _)
  have joined : Solid ['|'] filter.extensionText :=
    solid_intercalate (by simpa using listed) solid (by decide)
  exact joined.segments (List.mem_singleton.mpr rfl)

/-! ### What is written down comes back -/

/-- The texts of a filter give the filter back. -/
theorem Worded.ofSegments_eq (worded : filter.Worded) :
    ofSegments filter.name.toList filter.extensionText = filter := by
  have extensions : segments ';' filter.extensionText = filter.extensions.map String.toList := by
    have single : ∀ text ∈ filter.extensions.map String.toList, segments ';' text = [text] := by
      intro text inside
      obtain ⟨extension, member, rfl⟩ := List.mem_map.mp inside
      exact (worded.extensions extension member).segments List.mem_cons_self
    rw [extensionText, segments_intercalate, List.flatMap_congr single, List.flatMap_singleton']
  rw [ofSegments, extensions, List.map_map]
  simp [Function.comp_def]

/-- Filters that can be written down come back from their text. -/
theorem parse_formatAll (spelled : ∀ filter ∈ filters, filter.Spelled) :
    parse (formatAll filters) = filters := by
  have alternating : segments '|' (formatAll filters).toList =
      filters.flatMap fun filter => [filter.name.toList, filter.extensionText] := by
    rw [segments_formatAll]
    refine List.flatMap_congr fun filter member => ?_
    have here := spelled filter member
    rw [here.segments_name, here.segments_extensionText here.listed, List.singleton_append]
  have paired := pairs_flatMap (·.name.toList) extensionText filters none
  rw [Option.toList_none, List.append_nil] at paired
  rw [parse_eq, alternating, paired, List.map_map]
  refine (List.map_congr_left fun filter member => ?_).trans (List.map_id filters)
  exact (spelled filter member).ofSegments_eq

/-! ### What comes back was written down -/

/-- Both elements of a pair are among those that were paired. -/
theorem mem_pairs {α : Type} {elements : List α} {first second : α}
    (member : (first, second) ∈ pairs elements) : first ∈ elements ∧ second ∈ elements := by
  obtain ⟨place, found⟩ := List.mem_iff_getElem?.mp member
  obtain ⟨atFirst, atSecond⟩ := getElem?_pairs found
  exact ⟨List.mem_of_getElem? atFirst, List.mem_of_getElem? atSecond⟩

/-- The texts of a filter that was read stand for themselves. -/
theorem worded_of_mem_parse {text : String} (member : filter ∈ parse text) : filter.Worded := by
  rw [parse_eq] at member
  obtain ⟨⟨name, extensions⟩, paired, rfl⟩ := List.mem_map.mp member
  obtain ⟨named, listed⟩ := mem_pairs paired
  have nameSolid : Solid ['|'] name := solid_of_mem_segments named (by simp)
  have barless : ∀ mark ∈ ['|'], mark ∉ extensions :=
    (solid_of_mem_segments listed (by simp : ∀ mark ∈ [], mark ∉ text.toList)).whole
  refine ⟨by simpa [ofPair, ofSegments] using nameSolid, ?_⟩
  intro extension inside
  obtain ⟨segment, cut, rfl⟩ := List.mem_map.mp inside
  rw [String.toList_ofList]
  exact solid_of_mem_segments cut barless

/-- Each filter whose texts stand for themselves has a segment for its name, and if it has
extensions, another one for them. -/
theorem length_segments_formatAll (worded : ∀ filter ∈ filters, filter.Worded) :
    (segments '|' (formatAll filters).toList).length =
      filters.length + filters.countP fun filter => !filter.extensions.isEmpty := by
  rw [segments_formatAll]
  induction filters with
  | nil => rfl
  | cons filter rest inductionHypothesis =>
    have here : filter.Worded := worded filter List.mem_cons_self
    have later :=
      inductionHypothesis fun other inside => worded other (List.mem_cons_of_mem _ inside)
    have own : (segments '|' filter.extensionText).length =
        if !filter.extensions.isEmpty then 1 else 0 := by
      by_cases unlisted : filter.extensions = []
      · have nothing : filter.extensionText = [] := by simp [extensionText, unlisted]
        rw [nothing, segments_nil, unlisted]
        rfl
      · rw [here.segments_extensionText unlisted]
        simp [unlisted]
    rw [List.flatMap_cons, List.length_append, later, List.length_append, here.segments_name, own,
      List.countP_cons, List.length_singleton, List.length_cons]
    omega

/-- Filters whose texts stand for themselves come back exactly if all of them have extensions: it
takes two segments for a filter to come back, and one without extensions has one. -/
theorem parse_formatAll_iff_of_worded (worded : ∀ filter ∈ filters, filter.Worded) :
    parse (formatAll filters) = filters ↔ ∀ filter ∈ filters, filter.extensions ≠ [] := by
  constructor
  · intro returned
    have length := congrArg List.length returned
    rw [length_parse, length_segments_formatAll worded] at length
    have most := List.countP_le_length (p := fun filter : Filter => !filter.extensions.isEmpty)
      (l := filters)
    have all := List.countP_eq_length.mp (Nat.le_antisymm most (by omega))
    intro filter member
    simpa using all filter member
  · intro listed
    exact parse_formatAll fun filter member =>
      { worded filter member with listed := listed filter member }

/-- Filters come back from their text exactly when each of them has a name and extensions, all of
which stand for themselves.

Proof: what comes back is worded. Each of the filters then has one segment in the text, or two if it
has extensions, and it takes two segments a filter for all of them to come back. -/
theorem parse_formatAll_iff (filters : List Filter) :
    parse (formatAll filters) = filters ↔ ∀ filter ∈ filters, filter.Spelled := by
  refine ⟨?_, parse_formatAll⟩
  intro returned
  have worded : ∀ filter ∈ filters, filter.Worded := by
    intro filter member
    rw [← returned] at member
    exact worded_of_mem_parse member
  have listed := (parse_formatAll_iff_of_worded worded).mp returned
  exact fun filter member => { worded filter member with listed := listed filter member }

end Dialogs.Filter
