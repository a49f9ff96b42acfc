import Dialogs.Proofs.Trimming
import Dialogs.Renderer
import Dialogs.Text.Pieces

/-!
# The lines of an output

A session cuts an output into lines as it arrives, and keeps the carriage return in front of a line
break; the lines of a text are cut from the whole of it, and do not have it. Line by line, both are
the same up to that carriage return, also where the last line has no break.

What has been printed is not taken back. A renderer sees its document only when it is handed over,
so the lines that were there before are lines of the whole output, whatever the document is.
-/

namespace Dialogs

namespace Line

/-- The lines of what arrives, behind glyphs of a line that has begun, last first. -/
def cutFrom (closes : Option Nat) (begun : List Text.Glyph) : List Arrival → List Line
  | [] =>
    match begun, closes with
    | _ :: _, some time => [⟨time, begun.reverse⟩]
    | _, _ => []
  | arrival :: rest =>
    if arrival.glyph = .char '\n' then ⟨arrival.time, begun.reverse⟩ :: cutFrom closes [] rest
    else cutFrom closes (arrival.glyph :: begun) rest

/-- The state of cutting after one more arrival: the lines that are complete, last first, and the
glyphs of the line that has begun, last first. -/
def cutStep (state : List Line × List Text.Glyph) (arrival : Arrival) :
    List Line × List Text.Glyph :=
  if arrival.glyph = .char '\n' then (⟨arrival.time, state.2.reverse⟩ :: state.1, [])
  else (state.1, arrival.glyph :: state.2)

/-- Cutting from the start of what arrives adds to the lines that are complete. -/
theorem cutFrom_foldl (closes : Option Nat) (arrivals : List Arrival)
    (state : List Line × List Text.Glyph) :
    (arrivals.foldl cutStep state).1.reverse ++ cutFrom closes (arrivals.foldl cutStep state).2 [] =
      state.1.reverse ++ cutFrom closes state.2 arrivals := by
  induction arrivals generalizing state with
  | nil => rfl
  | cons arrival rest inductionHypothesis =>
    rw [List.foldl_cons, inductionHypothesis, cutFrom, cutStep]
    split
    · rw [List.reverse_cons, List.append_assoc, List.singleton_append]
    · rfl

/-- Cutting an output into lines with an accumulator, last first, is cutting it from its start. -/
theorem split_eq (closes : Option Nat) (arrivals : List Arrival) :
    split closes arrivals = cutFrom closes [] arrivals := by
  have finished : split closes arrivals = (arrivals.foldl cutStep ([], [])).1.reverse ++
      cutFrom closes (arrivals.foldl cutStep ([], [])).2 [] := by
    simp only [split]
    generalize cut : List.foldl _ ([], []) arrivals = state
    have folded : arrivals.foldl cutStep ([], []) = state := cut
    rw [folded]
    obtain ⟨lines, begun⟩ := state
    cases begun <;> cases closes <;> simp [cutFrom]
  rw [finished, cutFrom_foldl, List.reverse_nil, List.nil_append]

/-- A line without faults has the text of its characters. -/
theorem text_of_chars (time : Nat) (characters : List Char) :
    text ⟨time, characters.map .char⟩ = .ok (String.ofList characters) := by
  have nothing : (characters.map Text.Glyph.char).dropWhile Text.Glyph.isChar = [] := by
    rw [List.dropWhile_eq_nil_iff]
    intro glyph inside
    obtain ⟨_, -, rfl⟩ := List.mem_map.mp inside
    rfl
  have same : Text.Glyph.toChar ∘ Text.Glyph.char = id := rfl
  simp only [text, nothing, List.map_map, same, List.map_id]

/-- A line of an output is the line of a text when it holds the same characters, and possibly the
carriage return of the break. -/
def Shows (line : Line) (characters : List Char) : Prop :=
  ∃ shown, line.text = .ok (String.ofList shown) ∧
    (shown = characters ∨ shown = characters ++ ['\r'])

/-- The lines of an output of characters are those of the text that they spell. -/
theorem cutFrom_shows {closing : Nat} {arrivals : List Arrival} {characters : List Char}
    (begun : List Char) (spelled : arrivals.map Arrival.glyph = characters.map .char) :
    List.Forall₂ Shows (cutFrom (some closing) (begun.map .char) arrivals)
      (Text.linesFrom begun characters) := by
  induction arrivals generalizing begun characters with
  | nil =>
    obtain rfl : characters = [] := by simpa using spelled.symm
    cases begun with
    | nil => exact .nil
    | cons c rest =>
      refine .cons ⟨(c :: rest).reverse, ?_, .inl rfl⟩ .nil
      rw [← text_of_chars closing, List.map_reverse]
  | cons arrival rest inductionHypothesis =>
    cases characters with
    | nil => simp at spelled
    | cons c later =>
      simp only [List.map_cons, List.cons.injEq] at spelled
      obtain ⟨glyph, spelledLater⟩ := spelled
      by_cases broken : c = '\n'
      · subst broken
        simp only [cutFrom, glyph, if_true]
        refine .cons ?_ (inductionHypothesis [] spelledLater)
        refine ⟨begun.reverse, ?_, ?_⟩
        · rw [← text_of_chars arrival.time, List.map_reverse]
        · split
          · right
            simp
          · exact .inl rfl
      · have unbroken : arrival.glyph ≠ .char '\n' := by
          rw [glyph]
          simpa using broken
        rw [cutFrom, if_neg unbroken, glyph, Text.linesFrom]
        · exact inductionHypothesis (c :: begun) spelledLater
        · exact broken

/-- A line is complete when its break arrives or when the output is closed. -/
theorem time_of_mem_cutFrom {closes : Option Nat} {begun : List Text.Glyph}
    {arrivals : List Arrival} {line : Line} (member : line ∈ cutFrom closes begun arrivals) :
    closes = some line.time ∨ ∃ arrival ∈ arrivals, arrival.time = line.time := by
  induction arrivals generalizing begun with
  | nil =>
    left
    simp only [cutFrom] at member
    split at member
    · obtain rfl := List.mem_singleton.mp member
      rfl
    · cases member
  | cons arrival rest inductionHypothesis =>
    rw [cutFrom] at member
    have later : ∀ {begun}, line ∈ cutFrom closes begun rest →
        closes = some line.time ∨ ∃ found ∈ arrival :: rest, found.time = line.time := by
      intro begun inside
      rcases inductionHypothesis inside with closed | ⟨found, inRest, same⟩
      · exact .inl closed
      · exact .inr ⟨found, List.mem_cons_of_mem _ inRest, same⟩
    split at member
    · rcases List.mem_cons.mp member with rfl | inside
      · exact .inr ⟨arrival, List.mem_cons_self, rfl⟩
      · exact later inside
    · exact later member

/-- No line is complete before anything has arrived and while the output is open. -/
theorem eq_nil_of_late {closes : Option Nat} {begun : List Text.Glyph} {arrivals : List Arrival}
    {lines : List Line} {time : Nat} (first : lines <+: cutFrom closes begun arrivals)
    (complete : ∀ line ∈ lines, line.time ≤ time)
    (opened : ∀ closing, closes = some closing → time < closing)
    (late : ∀ arrival ∈ arrivals, time < arrival.time) : lines = [] := by
  cases lines with
  | nil => rfl
  | cons line rest =>
    have reached : line.time ≤ time := complete line List.mem_cons_self
    have member : line ∈ cutFrom closes begun arrivals := first.subset List.mem_cons_self
    rcases time_of_mem_cutFrom member with closed | ⟨arrival, inside, same⟩
    · have waiting : time < line.time := opened _ closed
      omega
    · have waiting : time < arrival.time := late arrival inside
      omega

/-- Lines that are complete at a time, while the output is open, are the first lines of every output
that goes on from what has arrived by then. -/
theorem prefix_cutFrom {closes otherCloses : Option Nat} {begun : List Text.Glyph}
    {arrivals others : List Arrival} {lines : List Line} {time : Nat}
    (first : lines <+: cutFrom closes begun arrivals) (complete : ∀ line ∈ lines, line.time ≤ time)
    (ordered : arrivals.Pairwise fun earlier later => earlier.time ≤ later.time)
    (opened : ∀ closing, closes = some closing → time < closing)
    (arrived : arrivals.takeWhile (·.time ≤ time) <+: others) :
    lines <+: cutFrom otherCloses begun others := by
  induction arrivals generalizing begun others lines with
  | nil =>
    rw [eq_nil_of_late first complete opened (by simp)]
    exact List.nil_prefix
  | cons arrival rest inductionHypothesis =>
    obtain ⟨behind, restOrdered⟩ := List.pairwise_cons.mp ordered
    by_cases here : arrival.time ≤ time
    · simp only [List.takeWhile_cons, here, decide_true, if_true] at arrived
      obtain ⟨more, rfl⟩ := arrived
      rw [List.cons_append, cutFrom]
      rw [cutFrom] at first
      split
      · rename_i broken
        rw [if_pos broken] at first
        cases lines with
        | nil => exact List.nil_prefix
        | cons line lines =>
          obtain ⟨same, others⟩ := List.cons_prefix_cons.mp first
          rw [same, List.cons_prefix_cons]
          refine ⟨rfl, inductionHypothesis others ?_ restOrdered (List.prefix_append _ _)⟩
          exact fun line inside => complete line (List.mem_cons_of_mem _ inside)
      · rename_i unbroken
        rw [if_neg unbroken] at first
        exact inductionHypothesis first complete restOrdered (List.prefix_append _ _)
    · have late : ∀ found ∈ arrival :: rest, time < found.time := by
        intro found inside
        rcases List.mem_cons.mp inside with rfl | later
        · omega
        · have order := behind found later
          omega
      rw [eq_nil_of_late first complete opened late]
      exact List.nil_prefix

end Line

namespace Behaviour

/-- Glyphs are printed in the order of time, and none on a closed output. -/
structure Chronological (behaviour : Behaviour) : Prop where
  printed : behaviour.stdout.Pairwise fun earlier later => earlier.time ≤ later.time
  closed : ∀ closing, behaviour.closes = some closing →
    ∀ arrival ∈ behaviour.stdout, arrival.time ≤ closing

/-- The output spells a text, and is then closed. -/
structure Prints (behaviour : Behaviour) (text : String) (closing : Nat) : Prop where
  spelled : behaviour.stdout.map Arrival.glyph = text.toList.map .char
  closed : behaviour.closes = some closing

/-- The lines of an output that spells a text are the lines of the text. -/
theorem Prints.lines_show {behaviour : Behaviour} {text : String} {closing : Nat}
    (prints : behaviour.Prints text closing) :
    List.Forall₂ Line.Shows behaviour.lines (Text.linesFrom [] text.toList) := by
  rw [lines, Line.split_eq, prints.closed]
  exact Line.cutFrom_shows [] prints.spelled

/-- No line of an output is later than its end. -/
theorem Prints.time_le {behaviour : Behaviour} {text : String} {closing : Nat} {line : Line}
    (prints : behaviour.Prints text closing) (order : behaviour.Chronological)
    (inside : line ∈ behaviour.lines) : line.time ≤ closing := by
  rw [lines, Line.split_eq] at inside
  rcases Line.time_of_mem_cutFrom inside with closed | ⟨arrival, printed, same⟩
  · rw [prints.closed] at closed
    exact Nat.le_of_eq (Option.some.inj closed).symm
  · exact same ▸ order.closed closing prints.closed arrival printed

end Behaviour

/-- A renderer does not foresee its document: what it has printed when the document is handed over
is the beginning of all that it prints, whatever the document is, and an output that it has closed
by then is all. -/
structure Renderer.Causal (renderer : Renderer) : Prop where
  chronological : ∀ feed, (renderer feed).Chronological
  printed : ∀ time document,
    (renderer .awaited).stdout.takeWhile (·.time ≤ time) <+:
      (renderer (.handed time document)).stdout
  closed : ∀ time document closing, (renderer .awaited).closes = some closing → closing ≤ time →
    (renderer (.handed time document)).stdout = (renderer .awaited).stdout ∧
      (renderer (.handed time document)).closes = some closing

/-- Lines that are complete when the document is handed over are the first lines of the output. -/
theorem Renderer.Causal.prefix_lines {renderer : Renderer} {time : Nat} {document : String}
    {lines : List Line} (causal : renderer.Causal)
    (first : lines <+: (renderer .awaited).lines) (complete : ∀ line ∈ lines, line.time ≤ time) :
    lines <+: (renderer (.handed time document)).lines := by
  by_cases closed : ∃ closing, (renderer .awaited).closes = some closing ∧ closing ≤ time
  · obtain ⟨closing, closes, early⟩ := closed
    obtain ⟨sameOutput, sameEnd⟩ := causal.closed time document closing closes early
    rwa [Behaviour.lines, sameOutput, sameEnd, ← closes]
  · have opened : ∀ closing, (renderer .awaited).closes = some closing → time < closing := by
      intro closing closes
      by_contra early
      exact closed ⟨closing, closes, Nat.le_of_not_lt early⟩
    rw [Behaviour.lines, Line.split_eq] at first ⊢
    exact Line.prefix_cutFrom first complete (causal.chronological _).printed opened
      (causal.printed time document)

end Dialogs
