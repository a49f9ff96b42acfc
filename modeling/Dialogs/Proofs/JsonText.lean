import Dialogs.Proofs.JsonLexemes
import Dialogs.Json.Decode

/-!
# Reading compact text back

The compact text of a value without doubles is read as the draft of that value, and the text stays
on one line.

What carries the proof is said of a value anywhere in a text: where a value is wanted, its characters
take the pass over the lexemes to the state behind a complete value, whatever is open around it and
whatever follows.
-/

namespace Dialogs.Json

/-! ## Values without doubles -/

mutual

/-- Every number in the value is an integer. -/
def Integral : Json → Prop
  | .number (.double _) => False
  | .array elements => ElementsIntegral elements
  | .object members => MembersIntegral members
  | _ => True

/-- Every number in the elements is an integer. -/
def ElementsIntegral : List Json → Prop
  | [] => True
  | element :: rest => element.Integral ∧ ElementsIntegral rest

/-- Every number in the members is an integer. -/
def MembersIntegral : List (String × Json) → Prop
  | [] => True
  | member :: rest => MemberIntegral member ∧ MembersIntegral rest

/-- Every number in the member is an integer. -/
def MemberIntegral : String × Json → Prop
  | (_, value) => value.Integral

end

/-! ## The pass over the lexemes -/

namespace Draft

/-- What the pass over the lexemes gives from a state on. -/
def Progress.resume : Progress → List Lexeme → Draft × List Lexeme
  | .finished document, rest => (document, rest)
  | .open frames wanted, rest => ofLexemes frames wanted rest

/-- The pass takes one step for each lexeme. -/
theorem ofLexemes_cons (frames : List Frame) (wanted : Wanted) (lexeme : Lexeme)
    (rest : List Lexeme) :
    ofLexemes frames wanted (lexeme :: rest) =
      (Progress.step frames wanted lexeme).resume rest := by
  rw [ofLexemes]
  cases Progress.step frames wanted lexeme <;> rfl

/-- Where a value may stand. -/
inductive Wanted.TakesValue : Wanted → Prop
  | value : Wanted.TakesValue .value
  | firstElement : Wanted.TakesValue .firstElement

/-- Where a key may stand. -/
inductive Wanted.TakesKey : Wanted → Prop
  | firstKey : Wanted.TakesKey .firstKey
  | laterKey : Wanted.TakesKey .laterKey

/-- Further elements and the end of an array may follow a value. -/
theorem closes_elements (elements : List Json) (rest : List Char) :
    Closes (laterElementsChars elements ++ ']' :: rest) := by
  intro c first
  cases elements with
  | nil =>
    cases first
    exact .inr (.inl rfl)
  | cons element elements =>
    cases first
    exact .inl rfl

/-- Further members and the end of an object may follow a value. -/
theorem closes_members (members : List (String × Json)) (rest : List Char) :
    Closes (laterMembersChars members ++ '\x7d' :: rest) := by
  intro c first
  cases members with
  | nil =>
    cases first
    exact .inr (.inr rfl)
  | cons member members =>
    cases first
    exact .inl rfl

mutual

/-- The characters of a value take the pass to the state behind the value.

Proof: by induction over the value. The first element of an array may be its end instead, so it is
taken apart from the others; these stand behind a comma each and have an induction of their own,
with the drafts that have been read as they are put into the array. So it is with an object. -/
theorem ofLexemes_value {wanted : Wanted} (takes : wanted.TakesValue) {rest : List Char}
    (closes : Closes rest) (frames : List Frame) : (value : Json) → value.Integral →
      ofLexemes frames wanted (lexemes (value.chars ++ rest)) =
        (Progress.afterValue value.draft frames).resume (lexemes rest)
  | .null, _ => by
    rw [chars, lexemes_word (c := 'n') rfl, ofLexemes_cons]
    cases takes <;> rfl
  | .bool true, _ => by
    rw [chars, lexemes_word (c := 't') rfl, ofLexemes_cons]
    cases takes <;> rfl
  | .bool false, _ => by
    rw [chars, lexemes_word (c := 'f') rfl, ofLexemes_cons]
    cases takes <;> rfl
  | .number (.integer value lower upper), _ => by
    rw [chars, lexemes_integer lower upper closes, ofLexemes_cons]
    cases takes <;> rfl
  | .number (.double _), integral => integral.elim
  | .string text, _ => by
    rw [chars, lexemes_string, ofLexemes_cons]
    cases takes <;> rfl
  | .array [], _ => by
    rw [chars, List.cons_append, lexemes_punctuation rfl, ofLexemes_cons, elementsChars,
      List.nil_append, List.cons_append, lexemes_punctuation rfl]
    cases takes <;> exact ofLexemes_cons _ .firstElement .closeArray _
  | .array (element :: elements), integral => by
    have first := ofLexemes_value .firstElement (closes_elements elements rest)
      (.array [] :: frames) element integral.1
    have later := ofLexemes_elements rest [element.draft] frames elements integral.2
    have opened : Progress.step frames wanted .openArray =
        .open (.array [] :: frames) .firstElement := by cases takes <;> rfl
    rw [chars, List.cons_append, lexemes_punctuation rfl, ofLexemes_cons, opened, elementsChars]
    simp only [List.append_assoc, List.singleton_append]
    exact first.trans later
  | .object [], _ => by
    rw [chars, List.cons_append, lexemes_punctuation rfl, ofLexemes_cons, membersChars,
      List.nil_append, List.cons_append, lexemes_punctuation rfl]
    cases takes <;> exact ofLexemes_cons _ .firstKey .closeObject _
  | .object (member :: members), integral => by
    have first := ofLexemes_member .firstKey (closes_members members rest) [] frames member
      integral.1
    have later := ofLexemes_members rest [memberDraft member] frames members integral.2
    have opened : Progress.step frames wanted .openObject =
        .open (.object [] :: frames) .firstKey := by cases takes <;> rfl
    rw [chars, List.cons_append, lexemes_punctuation rfl, ofLexemes_cons, opened, membersChars]
    simp only [List.append_assoc, List.singleton_append]
    exact first.trans later

/-- Further elements and the end of the array take the pass to the state behind the array. -/
theorem ofLexemes_elements (rest : List Char) (read : List Draft) (frames : List Frame) :
    (elements : List Json) → ElementsIntegral elements →
      ofLexemes (.array read :: frames) .separator
          (lexemes (laterElementsChars elements ++ ']' :: rest)) =
        (Progress.afterValue (.array (read.reverse ++ elementsDrafts elements) none)
          frames).resume (lexemes rest)
  | [], _ => by
    rw [laterElementsChars, List.nil_append, lexemes_punctuation rfl, ofLexemes_cons,
      elementsDrafts, List.append_nil]
    rfl
  | element :: elements, integral => by
    have next := ofLexemes_value .value (closes_elements elements rest)
      (.array read :: frames) element integral.1
    have later := ofLexemes_elements rest (element.draft :: read) frames elements integral.2
    rw [laterElementsChars, List.cons_append, lexemes_punctuation rfl, ofLexemes_cons,
      List.append_assoc, elementsDrafts]
    rw [List.reverse_cons, List.append_assoc] at later
    exact next.trans later

/-- The characters of a member put it into the innermost object. -/
theorem ofLexemes_member {wanted : Wanted} (takes : wanted.TakesKey) {rest : List Char}
    (closes : Closes rest) (read : List (Except SyntaxError String × Draft))
    (frames : List Frame) : (member : String × Json) → MemberIntegral member →
      ofLexemes (.object read :: frames) wanted (lexemes (memberChars member ++ rest)) =
        ofLexemes (.object (memberDraft member :: read) :: frames) .separator (lexemes rest)
  | (key, value), integral => by
    have held := ofLexemes_value .value closes (.member read (.ok key) :: frames) value integral
    have named : Progress.step (.object read :: frames) wanted (.string (.ok key)) =
        .open (.member read (.ok key) :: frames) .colon := by cases takes <;> rfl
    rw [memberChars, List.append_assoc, lexemes_string, ofLexemes_cons, named, List.cons_append,
      lexemes_punctuation rfl]
    exact (ofLexemes_cons _ .colon .colon _).trans held

/-- Further members and the end of the object take the pass to the state behind the object. -/
theorem ofLexemes_members (rest : List Char) (read : List (Except SyntaxError String × Draft))
    (frames : List Frame) : (members : List (String × Json)) → MembersIntegral members →
      ofLexemes (.object read :: frames) .separator
          (lexemes (laterMembersChars members ++ '\x7d' :: rest)) =
        (Progress.afterValue (.object (read.reverse ++ membersDrafts members) none)
          frames).resume (lexemes rest)
  | [], _ => by
    rw [laterMembersChars, List.nil_append, lexemes_punctuation rfl, ofLexemes_cons,
      membersDrafts, List.append_nil]
    rfl
  | member :: members, integral => by
    have next := ofLexemes_member .laterKey (closes_members members rest) read frames member
      integral.1
    have later := ofLexemes_members rest (memberDraft member :: read) frames members integral.2
    rw [laterMembersChars, List.cons_append, lexemes_punctuation rfl, ofLexemes_cons,
      List.append_assoc, membersDrafts]
    rw [List.reverse_cons, List.append_assoc] at later
    exact next.trans later

end

end Draft

/-- The compact text of a value without doubles is read as its draft, and nothing follows. -/
theorem read_compact {value : Json} (integral : value.Integral) :
    read value.compact = ⟨value.draft, false⟩ := by
  have closes : Closes [] := fun c first => by cases first
  have whole := Draft.ofLexemes_value .value closes [] value integral
  rw [List.append_nil, lexemes] at whole
  simp only [read, compact, String.toList_ofList, whole]
  rfl

/-! ## One line -/

/-- No form of a character inside a string breaks the line. -/
theorem newline_not_mem_escapeChar (c : Char) : '\n' ∉ escapeChar c := by
  unfold escapeChar
  split
  case h_8 notNewline _ _ =>
    split
    · have digits : ∀ code < 32, '\n' ∉ '\\' :: 'u' :: controlDigits code := by decide
      rename_i control
      exact digits c.toNat control
    · simpa using Ne.symm notNewline
  all_goals decide

/-- No string breaks the line. -/
theorem newline_not_mem_stringChars (text : String) : '\n' ∉ stringChars text := by
  simp [stringChars, newline_not_mem_escapeChar]

mutual

/-- The compact text of a value without doubles does not break the line. -/
theorem newline_not_mem_chars : (value : Json) → value.Integral → '\n' ∉ value.chars
  | .null, _ => by decide
  | .bool true, _ => by decide
  | .bool false, _ => by decide
  | .number (.integer value lower upper), _ => by
    intro inside
    rcases integer_chars lower upper inside with sign | digit
    · cases sign
    · cases digit
  | .number (.double _), integral => integral.elim
  | .string text, _ => newline_not_mem_stringChars text
  | .array [], _ => by decide
  | .array (element :: elements), integral => by
    simp [chars, elementsChars, newline_not_mem_chars element integral.1,
      newline_not_mem_laterElements elements integral.2]
  | .object [], _ => by decide
  | .object (member :: members), integral => by
    simp [chars, membersChars, newline_not_mem_member member integral.1,
      newline_not_mem_laterMembers members integral.2]

/-- Nor do further elements. -/
theorem newline_not_mem_laterElements : (elements : List Json) → ElementsIntegral elements →
    '\n' ∉ laterElementsChars elements
  | [], _ => List.not_mem_nil
  | element :: elements, integral => by
    simp [laterElementsChars, newline_not_mem_chars element integral.1,
      newline_not_mem_laterElements elements integral.2]

/-- Nor does a member. -/
theorem newline_not_mem_member : (member : String × Json) → MemberIntegral member →
    '\n' ∉ memberChars member
  | (key, value), integral => by
    simp [memberChars, newline_not_mem_stringChars, newline_not_mem_chars value integral]

/-- Nor do further members. -/
theorem newline_not_mem_laterMembers : (members : List (String × Json)) →
    MembersIntegral members → '\n' ∉ laterMembersChars members
  | [], _ => List.not_mem_nil
  | member :: members, integral => by
    simp [laterMembersChars, newline_not_mem_member member integral.1,
      newline_not_mem_laterMembers members integral.2]

end

end Dialogs.Json
