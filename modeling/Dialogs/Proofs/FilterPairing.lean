import Mathlib.Algebra.Ring.Parity
import Dialogs.Filter
import Dialogs.Proofs.Trimming

/-!
# Names and extensions in turn

A filter text is read segment by segment. A name waits until the extensions for it come, and a name
that still waits at the end is dropped. This module follows the reading: the filters that are
complete and the name that waits account for all segments that have been read. So the filters are
those of neighbours in pairs, and the number of segments that were read says whether a name waits,
and that it is the last of them.

What has been paired is never touched again. Of everything that was read before a bar, only the
name that waits there matters for what is read behind it, and so a text can be read in two halves.
-/

namespace Dialogs

namespace Text

/-- A text is cut into pieces: at least one, none with the separator in it, and the text is what
they make with a separator between any two neighbours. -/
structure Cut (separator : Char) (text : String) (pieces : List String) : Prop where
  filled : pieces ≠ []
  apart : ∀ piece ∈ pieces, separator ∉ piece.toList
  joined : (String.singleton separator).intercalate pieces = text

variable {separator : Char} {text : String}

/-- Pieces without the separator are found again in what they make. -/
theorem piecesChars_intercalate {texts : List (List Char)} (filled : texts ≠ [])
    (apart : ∀ piece ∈ texts, separator ∉ piece) :
    piecesChars separator ([separator].intercalate texts) = texts := by
  induction texts with
  | nil => exact absurd rfl filled
  | cons first rest inductionHypothesis =>
    have firstApart : separator ∉ first := apart first List.mem_cons_self
    cases rest with
    | nil => rw [List.intercalate_singleton, piecesChars_of_not_mem firstApart]
    | cons second later =>
      have laterApart : ∀ piece ∈ second :: later, separator ∉ piece :=
        fun piece inside => apart piece (List.mem_cons_of_mem _ inside)
      rw [List.intercalate_cons_cons, List.append_assoc, List.singleton_append, piecesChars_append,
        piecesChars_of_not_mem firstApart, inductionHypothesis (List.cons_ne_nil _ _) laterApart,
        List.singleton_append]

/-- The pieces of a text are a way to cut it. -/
theorem cut_pieces (separator : Char) (text : String) :
    Cut separator text (pieces separator text) where
  filled := by simp [pieces, piecesChars_ne_nil]
  apart := by
    intro piece inside
    obtain ⟨chars, member, rfl⟩ := List.mem_map.mp inside
    rw [String.toList_ofList]
    exact not_mem_of_mem_piecesChars member
  joined := by
    have chars : (pieces separator text).map String.toList = piecesChars separator text.toList := by
      simp [pieces, Function.comp_def]
    rw [← String.toList_inj, String.toList_intercalate, chars, String.toList_singleton,
      intercalate_piecesChars]

/-- There is no other. -/
theorem cut_iff {found : List String} :
    Cut separator text found ↔ found = pieces separator text := by
  constructor
  · rintro ⟨filled, apart, rfl⟩
    have joined : ((String.singleton separator).intercalate found).toList =
        [separator].intercalate (found.map String.toList) := by
      rw [String.toList_intercalate, String.toList_singleton]
    have again : piecesChars separator ([separator].intercalate (found.map String.toList)) =
        found.map String.toList := by
      refine piecesChars_intercalate (by simpa using filled) ?_
      intro chars inside
      obtain ⟨piece, member, rfl⟩ := List.mem_map.mp inside
      exact apart piece member
    simp [pieces, joined, again, Function.comp_def]
  · rintro rfl
    exact cut_pieces separator text

end Text

namespace Filter

/-! ### Parts and places -/

/-- The pieces that count: those with more than blanks in them. -/
def filledPieces (pieces : List String) : List String :=
  pieces.filter fun piece => !Text.isAllBlank piece

/-- The parts that pieces stand for: the pieces that count, without the blanks around them. -/
def parts (pieces : List String) : List String := (filledPieces pieces).map Text.trim

/-- A filter stands at a place among the filters of parts: its name is the part at twice the place,
and its extensions are the parts of the next one between semicolons. -/
structure StandsAt (filter : Filter) (place : Nat) (parts : List String) : Prop where
  name : parts[2 * place]? = some filter.name
  extensions : ∃ list pieces, parts[2 * place + 1]? = some list ∧ Text.Cut ';' list pieces ∧
    filter.extensions = Filter.parts pieces

/-! ### Segments -/

/-- A separator cuts what stands in front of it from what stands behind. -/
theorem segments_append (separator : Char) (before behind : List Char) :
    segments separator (before ++ separator :: behind) =
      segments separator before ++ segments separator behind := by
  rw [segments, Text.piecesChars_append, List.map_append, List.filter_append, segments, segments]

/-- A text without the separator is one segment, without the blanks around it, unless there are only
blanks in it. -/
theorem segments_of_not_mem {separator : Char} {text : List Char} (absent : separator ∉ text)
    (filled : Text.trimChars text ≠ []) : segments separator text = [Text.trimChars text] := by
  have counts : (!(Text.trimChars text).isEmpty) = true := by simpa using filled
  rw [segments, Text.piecesChars_of_not_mem absent, List.map_singleton, List.filter_singleton,
    counts, cond_true]

/-! ### Neighbours in pairs -/

/-- Neighbours of a list in pairs. A last element without a neighbour is left out. -/
def pairs {α : Type} : List α → List (α × α)
  | [] => []
  | [_] => []
  | first :: second :: rest => (first, second) :: pairs rest

/-- Pairing takes two elements at a time. -/
theorem length_pairs {α : Type} (elements : List α) :
    (pairs elements).length = elements.length / 2 := by
  fun_induction pairs elements with
  | case1 => simp
  | case2 element => simp
  | case3 first second rest inductionHypothesis =>
    rw [List.length_cons, inductionHypothesis, List.length_cons, List.length_cons]
    omega

/-- The elements of a pair are neighbours. -/
theorem getElem?_pairs {α : Type} {elements : List α} {place : Nat} {first second : α}
    (found : (pairs elements)[place]? = some (first, second)) :
    elements[2 * place]? = some first ∧ elements[2 * place + 1]? = some second := by
  fun_induction pairs elements generalizing place with
  | case1 => cases found
  | case2 element => cases found
  | case3 head neighbour rest inductionHypothesis =>
    cases place with
    | zero =>
      obtain ⟨rfl, rfl⟩ := Prod.mk.inj (Option.some.inj found)
      exact ⟨rfl, rfl⟩
    | succ place => exact inductionHypothesis found

/-- Alternating elements are paired as they were put, and a last one without a neighbour makes no
difference. -/
theorem pairs_flatMap {α β : Type} (first second : α → β) (elements : List α) (last : Option β) :
    pairs ((elements.flatMap fun element => [first element, second element]) ++ last.toList) =
      elements.map fun element => (first element, second element) := by
  induction elements with
  | nil => cases last <;> rfl
  | cons element rest inductionHypothesis =>
    rw [List.flatMap_cons, List.map_cons, ← inductionHypothesis]
    rfl

/-! ### Reading segment by segment -/

/-- The filter of a pair of segments. -/
def ofPair (pair : List Char × List Char) : Filter := ofSegments pair.1 pair.2

namespace Pairing

/-- A pairing accounts for the segments that were read: each filter took two neighbours, and a name
that waits is the last of them. -/
def Accounts (pairing : Pairing) (taken : List (List Char)) : Prop :=
  ∃ complete : List (List Char × List Char),
    pairing.filters = complete.map ofPair ∧
      taken = (complete.flatMap fun pair => [pair.1, pair.2]) ++ pairing.waiting.toList

/-- The same behind filters that were complete before. -/
def behind (pairing : Pairing) (before : List Filter) : Pairing :=
  { pairing with filters := before ++ pairing.filters }

/-- What matters for the segments that come next: the name that waits. -/
def carried (pairing : Pairing) : Pairing := { pairing with filters := [] }

variable {pairing : Pairing} {taken : List (List Char)} {name : List Char}

/-- At the start, nothing has been read. -/
theorem accounts_start : start.Accounts [] := ⟨[], rfl, rfl⟩

/-- A segment that is read comes after those that were read before it. -/
theorem Accounts.take (accounts : pairing.Accounts taken) (segment : List Char) :
    (pairing.take segment).Accounts (taken ++ [segment]) := by
  obtain ⟨complete, filters, rfl⟩ := accounts
  obtain ⟨waiting, done⟩ := pairing
  obtain rfl : done = complete.map ofPair := filters
  cases waiting with
  | none => exact ⟨complete, rfl, by simp [Pairing.take]⟩
  | some name =>
    exact ⟨complete ++ [(name, segment)], by simp [Pairing.take, ofPair], by simp [Pairing.take]⟩

/-- No segment is lost in a run, and none is added. -/
theorem Accounts.run (accounts : pairing.Accounts taken) (segments : List (List Char)) :
    (pairing.run segments).Accounts (taken ++ segments) := by
  induction segments generalizing pairing taken with
  | nil => rwa [List.append_nil]
  | cons segment rest inductionHypothesis =>
    have later := inductionHypothesis (accounts.take segment)
    rwa [List.append_assoc, List.singleton_append] at later

/-- From the start, all that was read are the segments. -/
theorem accounts_run (segments : List (List Char)) : (start.run segments).Accounts segments :=
  accounts_start.run segments

/-- The filters that are complete are those of neighbours. -/
theorem Accounts.filters_eq (accounts : pairing.Accounts taken) :
    pairing.filters = (pairs taken).map ofPair := by
  obtain ⟨complete, filters, rfl⟩ := accounts
  rw [pairs_flatMap, filters, List.map_id']

/-- Every filter took two segments, and the name that waits is one. -/
theorem Accounts.length_eq (accounts : pairing.Accounts taken) :
    taken.length = 2 * pairing.filters.length + pairing.waiting.toList.length := by
  obtain ⟨complete, filters, rfl⟩ := accounts
  simp [filters, List.length_flatMap, Nat.mul_comm]

/-- No name waits behind an even number of segments. -/
theorem Accounts.waiting_of_even (accounts : pairing.Accounts taken) (even : Even taken.length) :
    pairing.waiting = none := by
  rw [accounts.length_eq] at even
  cases shape : pairing.waiting with
  | none => rfl
  | some name =>
    rw [shape, Option.toList_some, List.length_singleton, Nat.even_iff] at even
    omega

/-- Behind an odd number of segments the last of them waits. -/
theorem Accounts.waiting_of_odd (accounts : pairing.Accounts taken) (odd : Odd taken.length) :
    pairing.waiting = taken.getLast? := by
  have length := accounts.length_eq
  obtain ⟨complete, -, rfl⟩ := accounts
  cases shape : pairing.waiting with
  | none =>
    rw [length, shape, Option.toList_none, List.length_nil, Nat.odd_iff] at odd
    omega
  | some name => rw [Option.toList_some, List.getLast?_concat]

/-- A run can stop between any two segments and go on from there. -/
theorem run_append (pairing : Pairing) (front rest : List (List Char)) :
    pairing.run (front ++ rest) = (pairing.run front).run rest :=
  List.foldl_append

/-- A step adds to the filters that are complete, and does not look at them. -/
theorem take_behind (pairing : Pairing) (before : List Filter) (segment : List Char) :
    (pairing.behind before).take segment = (pairing.take segment).behind before := by
  obtain ⟨waiting, filters⟩ := pairing
  cases waiting <;> simp [take, behind]

/-- Nor does a run of them. -/
theorem run_behind (pairing : Pairing) (before : List Filter) (segments : List (List Char)) :
    (pairing.behind before).run segments = (pairing.run segments).behind before := by
  induction segments generalizing pairing with
  | nil => rfl
  | cons segment rest inductionHypothesis =>
    simp only [run, List.foldl_cons, take_behind] at inductionHypothesis ⊢
    exact inductionHypothesis (pairing.take segment)

/-- Segments that are read add filters to those that are complete, and which ones they add depends
on the name that waits and on nothing else. -/
theorem filters_run (pairing : Pairing) (segments : List (List Char)) :
    (pairing.run segments).filters = pairing.filters ++ (pairing.carried.run segments).filters := by
  have whole : pairing = pairing.carried.behind pairing.filters := by simp [carried, behind]
  calc (pairing.run segments).filters
    _ = ((pairing.carried.run segments).behind pairing.filters).filters := by
      rw [← run_behind, ← whole]
    _ = pairing.filters ++ (pairing.carried.run segments).filters := rfl

/-- Nothing is carried over from an even number of segments. -/
theorem carried_of_even {segments : List (List Char)} (even : Even segments.length) :
    (start.run segments).carried = start := by
  rw [carried, (accounts_run segments).waiting_of_even even, start]

/-- From an odd number of segments the last one is carried over. -/
theorem carried_of_odd {segments : List (List Char)} (odd : Odd segments.length)
    (last : segments.getLast? = some name) : (start.run segments).carried = ⟨some name, []⟩ := by
  rw [carried, (accounts_run segments).waiting_of_odd odd, last]

end Pairing

/-! ### Reading a filter text -/

variable {name piece text : String}

/-- The filters of a text are those of neighbours among its segments. -/
theorem parse_eq (text : String) : parse text = (pairs (segments '|' text.toList)).map ofPair :=
  (Pairing.accounts_run _).filters_eq

/-- Two segments make a filter. -/
theorem length_parse (text : String) :
    (parse text).length = (segments '|' text.toList).length / 2 := by
  rw [parse_eq, List.length_map, length_pairs]

/-- Reading goes on behind a bar with the name that waits there. -/
theorem parse_bar (text behind : String) :
    parse (text ++ "|" ++ behind) =
      parse text ++ (Pairing.run (Pairing.start.run (segments '|' text.toList)).carried
        (segments '|' behind.toList)).filters := by
  have chars : (text ++ "|" ++ behind).toList = text.toList ++ '|' :: behind.toList := by simp
  rw [parse, chars, segments_append, Pairing.run_append, Pairing.filters_run, ← parse]

/-- A name in front of a bar waits, without the blanks around it. -/
theorem parse_name_bar (barless : '|' ∉ name.toList) (solid : Text.isAllBlank name = false)
    (behind : String) :
    parse (name ++ "|" ++ behind) =
      (Pairing.run ⟨some (Text.trimChars name.toList), []⟩
        (segments '|' behind.toList)).filters := by
  have filled : Text.trimChars name.toList ≠ [] := by
    rw [Ne, ← Text.isAllBlank_iff, solid]
    exact Bool.false_ne_true
  rw [parse_bar, parse, segments_of_not_mem barless filled]
  rfl

/-! ### The parts of a filter text -/

/-- The parts of the pieces of a text are its segments. -/
theorem parts_pieces (separator : Char) (text : String) :
    parts (Text.pieces separator text) = (segments separator text.toList).map String.ofList := by
  have counts : ∀ piece : List Char,
      Text.isAllBlank (String.ofList piece) = (Text.trimChars piece).isEmpty := by
    intro piece
    rw [Bool.eq_iff_iff, Text.isAllBlank_iff, String.toList_ofList, List.isEmpty_iff]
  simp only [parts, filledPieces, Text.pieces, segments, List.filter_map, List.map_map,
    Function.comp_def, counts, Text.trim, String.toList_ofList]

/-- There are as many parts as segments. -/
theorem length_parts (text : String) :
    (parts (Text.pieces '|' text)).length = (segments '|' text.toList).length := by
  rw [parts_pieces, List.length_map]

/-- The last segment stands in the last piece that counts. -/
theorem getLast?_segments (last : (filledPieces (Text.pieces '|' text)).getLast? = some piece) :
    (segments '|' text.toList).getLast? = some (Text.trimChars piece.toList) := by
  have same := congrArg List.getLast? (parts_pieces '|' text)
  rw [parts, List.getLast?_map, last, Option.map_some, List.getLast?_map] at same
  obtain ⟨segment, found, spelled⟩ := Option.map_eq_some_iff.mp same.symm
  rw [found, ← String.toList_ofList (l := segment), spelled, Text.trim, String.toList_ofList]

/-- A filter that was read stands at its place among the parts. -/
theorem standsAt_of_getElem? {place : Nat} {filter : Filter}
    (found : (parse text)[place]? = some filter) :
    filter.StandsAt place (parts (Text.pieces '|' text)) := by
  rw [parse_eq, List.getElem?_map] at found
  obtain ⟨⟨name, list⟩, complete, rfl⟩ := Option.map_eq_some_iff.mp found
  obtain ⟨atName, atList⟩ := getElem?_pairs complete
  rw [parts_pieces]
  refine ⟨?_, String.ofList list, Text.pieces ';' (String.ofList list), ?_,
    Text.cut_pieces ';' (String.ofList list), ?_⟩
  · rw [List.getElem?_map, atName]
    rfl
  · rw [List.getElem?_map, atList, Option.map_some]
  · rw [parts_pieces, String.toList_ofList]
    rfl

/-- The last piece that counts is as good a name as the part in it. -/
theorem parse_last_bar (last : (filledPieces (Text.pieces '|' text)).getLast? = some piece)
    (same : name = piece ∨ name = Text.trim piece) (behind : String) :
    parse (name ++ "|" ++ behind) =
      (Pairing.run ⟨some (Text.trimChars piece.toList), []⟩
        (segments '|' behind.toList)).filters := by
  obtain ⟨inside, counts⟩ := List.mem_filter.mp (List.mem_of_getLast? last)
  have barless : '|' ∉ piece.toList := (Text.cut_pieces '|' text).apart piece inside
  have solid : Text.isAllBlank piece = false := by simpa using counts
  rcases same with rfl | rfl
  · exact parse_name_bar barless solid behind
  · have trimmed : (Text.trim piece).toList = Text.trimChars piece.toList := by
      rw [Text.trim, String.toList_ofList]
    have trimmedBarless : '|' ∉ (Text.trim piece).toList := by
      rw [trimmed]
      exact fun bar => barless (Text.mem_of_mem_trimChars bar)
    have trimmedSolid : Text.isAllBlank (Text.trim piece) = false := by rwa [Text.isAllBlank_trim]
    rw [parse_name_bar trimmedBarless trimmedSolid, trimmed, Text.trimChars_trimChars]

/-- A filter text has one filter for every two of its parts: at each place, the part at twice the
place is the name, and the next one holds the extensions. If the number of parts in front of a bar
is even, what stands in front of it and what stands behind can be read apart; if it is odd, the last
part in front of the bar is the first name behind it, with the blanks around it or without them.

Proof: the parts that have been read are the complete pairs and the name that waits, so a name waits
exactly behind an odd number of parts. It is all that is carried over the bar. -/
theorem paired_and_composed (text : String) :
    ∃ pieces, (∀ cut, Text.Cut '|' text cut ↔ cut = pieces) ∧
      (parse text).length = (parts pieces).length / 2 ∧
      (∀ place (filter : Filter), (parse text)[place]? = some filter →
        filter.StandsAt place (parts pieces)) ∧
      ∀ behind,
        (Even (parts pieces).length →
          parse (text ++ "|" ++ behind) = parse text ++ parse behind) ∧
        (Odd (parts pieces).length →
          ∃ piece, (filledPieces pieces).getLast? = some piece ∧
            ∀ name ∈ [piece, Text.trim piece],
              parse (text ++ "|" ++ behind) = parse text ++ parse (name ++ "|" ++ behind)) := by
  refine ⟨Text.pieces '|' text, fun cut => Text.cut_iff, ?_,
    fun place filter => standsAt_of_getElem?, fun behind => ⟨?_, ?_⟩⟩
  · rw [length_parse, length_parts]
  · intro even
    rw [length_parts] at even
    rw [parse_bar, Pairing.carried_of_even even, parse, parse]
  · intro odd
    -- No parts at all would be an even number of them.
    have counted : filledPieces (Text.pieces '|' text) ≠ [] := by
      intro nothing
      simp [parts, nothing] at odd
    have last := List.getLast?_eq_some_getLast counted
    rw [length_parts] at odd
    refine ⟨_, last, fun name same => ?_⟩
    rw [parse_bar, Pairing.carried_of_odd odd (getLast?_segments last),
      parse_last_bar last (by simpa using same)]

/-- A name without extensions in front of a bar takes those behind it, and a filter that is complete
does not. -/
theorem paired_and_composed_orphan :
    parse ("Text|*.txt| |Orphan " ++ "|" ++ "; *.md |All|*") =
        parse "Text|*.txt| |Orphan " ++ parse ("Orphan" ++ "|" ++ "; *.md |All|*") ∧
      parse ("Text|*.txt| " ++ "|" ++ "All|*") = parse "Text|*.txt| " ++ parse "All|*" := by
  constructor
  · obtain ⟨pieces, cut, -, -, composed⟩ := paired_and_composed "Text|*.txt| |Orphan "
    obtain rfl := (cut ["Text", "*.txt", " ", "Orphan "]).mp (Text.cut_iff.mpr (by decide +kernel))
    obtain ⟨piece, last, again⟩ := (composed "; *.md |All|*").2 (by decide +kernel)
    have orphan : filledPieces ["Text", "*.txt", " ", "Orphan "] =
        ["Text", "*.txt", "Orphan "] := by
      decide +kernel
    obtain rfl : "Orphan " = piece := by simpa [orphan] using last
    have trimmed : Text.trim "Orphan " = "Orphan" := by decide +kernel
    exact again "Orphan" (by simp [trimmed])
  · obtain ⟨pieces, cut, -, -, composed⟩ := paired_and_composed "Text|*.txt| "
    obtain rfl := (cut ["Text", "*.txt", " "]).mp (Text.cut_iff.mpr (by decide +kernel))
    exact (composed "All|*").1 (by decide +kernel)

end Filter

end Dialogs
