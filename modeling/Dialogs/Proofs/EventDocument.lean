import Dialogs.Event
import Dialogs.Proofs.RecordFields

/-!
# Events and their documents

An event is an object with a type and a sender, which are strings, and possibly with a detail, which
is anything. Decoding such an object and encoding the event again leaves these members as they are
and drops all others, and a detail that is null.

Encoding an event and decoding its document gives the event back, with two exceptions: a kind that
is not known by itself but has the name of a known one becomes that kind, and a null for a detail
becomes no detail. No event that has been decoded, from whatever source, has such a kind or such a
detail, so decoded events always come back.
-/

namespace Dialogs

open Json (member? Distinct)

namespace Json

/-- Whether a value is null. -/
def isNull : Json → Bool
  | .null => true
  | _ => false

/-- Exactly the null is null. -/
theorem isNull_iff {value : Json} : value.isNull = true ↔ value = .null := by
  cases value <;> simp [isNull]

/-- A value that may be absent is the document of its value, and absent if that is null. -/
theorem toOption_toDocument (value : Json) :
    value.draft.toOption (Draft.toDocument .value) =
      .ok (if value.isNull then none else some value.document) := by
  by_cases null : value = .null
  · subst null
    rfl
  · have present : value.draft ≠ .null := by
      cases value <;> simp [draft] at null ⊢
    rw [Draft.toOption_of_ne_null present, Draft.toDocument, Draft.toJson_draft,
      if_neg (mt isNull_iff.mp null)]
    rfl

/-- A detail is the document of its member, and absent if there is no member or it is null. -/
theorem holds_detail {held : Option Json} {detail : Option Document} :
    Holds (fun draft => draft.toOption (Draft.toDocument .value)) none held detail ↔
      detail = (held.filter (!·.isNull)).map document := by
  cases held with
  | none => simp
  | some value =>
    rw [holds_some, toOption_toDocument, Except.ok.injEq, eq_comm]
    cases null : value.isNull <;> simp [Option.filter_some, null]

/-- Nothing but a null reads as a null, from whatever source. -/
theorem Draft.eq_null_of_toJson {origin : Origin} {held : Draft}
    (read : held.toJson origin = .ok .null) : held = .null := by
  cases held with
  | null => rfl
  | array elements ending | object members ending =>
    rw [toJson] at read
    obtain ⟨_, -, read⟩ := ok_of_bind read
    obtain ⟨_, -, read⟩ := ok_of_bind read
    obtain ⟨_, -, same⟩ := ok_of_bind read
    cases same
  | _ => cases read

/-- A detail that has been read is not a null, from whatever source. -/
theorem ne_null_of_toOption {origin : Origin} {held : Draft} {detail : Document}
    (read : held.toOption (Draft.toDocument origin) = .ok (some detail)) : detail.json ≠ .null := by
  intro null
  have present : held ≠ .null := by
    rintro rfl
    cases read
  rw [Draft.toOption_of_ne_null present] at read
  obtain ⟨_, decoded, same⟩ := ok_of_map read
  obtain rfl := Option.some.inj same
  obtain ⟨value, spelled, rfl⟩ := ok_of_map decoded
  cases value with
  | null => exact present (Draft.eq_null_of_toJson spelled)
  | _ => cases null

/-- Of the members that stay, those are held at a key that were held there before. -/
theorem member?_filter {α : Type} (stays : String → α → Bool) (sought : String)
    {members : List (String × α)} (distinct : Distinct members) :
    member? sought (members.filter fun member => stays member.1 member.2) =
      (member? sought members).filter (stays sought) := by
  have asMap : (members.filter fun member => stays member.1 member.2) =
      members.filterMap fun member =>
        (if stays member.1 member.2 then some member.2 else none).map (member.1, ·) := by
    rw [← List.filterMap_eq_filter]
    refine List.filterMap_congr fun member _ => ?_
    by_cases kept : stays member.1 member.2 <;> simp [kept, Option.guard]
  rw [asMap, member?_filterMap (fun key value => if stays key value then some value else none)
    sought distinct]
  cases member? sought members <;> simp [Option.filter]

end Json

namespace EventKind

/-- The kinds that this library knows. -/
def known : List EventKind := [.clicked, .selected, .changed, .doubleClicked]

/-- The kind that a kind stands for: a known one, if it has the name of that under the guise of an
unknown one. -/
def unmasked : EventKind → EventKind
  | .other name => (known.find? (·.name == name)).getD (.other name)
  | kind => kind

/-- The kind with the name of a kind is the one that this stands for. -/
theorem ofName_name (kind : EventKind) : ofName kind.name = kind.unmasked := by
  cases kind with
  | other name =>
    simp only [EventKind.name, ofName, unmasked, known]
    by_cases clicked : name = "clicked"
    · subst clicked; rfl
    by_cases selected : name = "selected"
    · subst selected; rfl
    by_cases changed : name = "changed"
    · subst changed; rfl
    by_cases doubleClicked : name = "doubleclicked"
    · subst doubleClicked; rfl
    simp [clicked, selected, changed, doubleClicked, Ne.symm]
  | _ => rfl

/-- A kind stands for itself unless it is a known one under the guise of an unknown one. -/
theorem unmasked_eq_self_iff {kind : EventKind} :
    kind.unmasked = kind ↔ ∀ plain ∈ known, kind ≠ .other plain.name := by
  cases kind with
  | other name =>
    rw [unmasked]
    cases found : known.find? (·.name == name) with
    | none =>
      simp only [Option.getD_none, true_iff]
      intro plain inside same
      have named : plain.name = name := (EventKind.other.inj same).symm
      exact List.find?_eq_none.mp found plain inside (beq_iff_eq.mpr named)
    | some plain =>
      have inside := List.mem_of_find?_eq_some found
      have same : plain.name = name := by simpa using List.find?_some found
      simp only [Option.getD_some]
      constructor
      · rintro rfl
        simp [known] at inside
      · intro apart
        exact absurd (congrArg EventKind.other same.symm) (apart plain inside)
  | _ => simp [unmasked]

/-- A kind that has been found by its name stands for itself. -/
theorem unmasked_ofName (name : String) : (ofName name).unmasked = ofName name := by
  rw [← ofName_name, name_ofName]

end EventKind

namespace Event

/-! ### The document of an event -/

/-- The members of the document of an event. -/
def members (event : Event) : List (String × Json) :=
  [("type", .string event.kind.name), ("from", .string event.source)] ++
    (event.detail.map fun detail => ("detail", detail.json)).toList

/-- The document of an event is the object of its members. -/
theorem toJson_eq (event : Event) : event.toJson = .object event.members := by
  obtain ⟨kind, source, detail⟩ := event
  cases detail <;> rfl

/-- What is held at each key of the document of an event. -/
def held (event : Event) (key : String) : Option Json :=
  if key = "type" then some (.string event.kind.name)
  else if key = "from" then some (.string event.source)
  else if key = "detail" then event.detail.map (·.json)
  else none

/-- The document of an event is an object that holds the members of the event at their keys. -/
theorem document_toJson (event : Event) :
    ∃ members, event.toJson.document.json = .object members ∧ Json.Increasing members ∧
      ∀ key, member? key members = event.held key := by
  have distinct : Distinct event.members := by
    cases detail : event.detail <;> simp [members, Distinct, detail]
  refine ⟨_, by rw [toJson_eq]; rfl, Json.increasing_sortMembers _, fun key => ?_⟩
  rw [Json.member?_sorted key distinct, members, Json.member?_append, held]
  by_cases typed : key = "type"
  · subst typed
    rfl
  by_cases sent : key = "from"
  · subst sent
    rfl
  cases event.detail with
  | none => simp [Json.member?_cons, typed, sent, Ne.symm]
  | some detail =>
    have sorted := Json.sorted_of_isSorted detail.json detail.isSorted
    by_cases detailed : key = "detail" <;>
      simp [Json.member?_cons, typed, sent, detailed, sorted, Ne.symm]

/-! ### What an object says of an event -/

variable {event : Event} {members : List (String × Json)}

/-- What is held at each key is what the event has in each field, where a field without a member has
its initial value. The kind is the one with its name. -/
structure Describes (held : String → Option Json) (event : Event) : Prop where
  kind : EventKind.ofName event.kind.name = event.kind
  name : Json.Holds Json.Draft.toText "" (held "type") event.kind.name
  source : Json.Holds Json.Draft.toText "" (held "from") event.source
  detail : Json.Holds (fun draft => draft.toOption (Json.Draft.toDocument .value)) none
    (held "detail") event.detail

/-- Every field of an event is read into its own place. -/
theorem keeps_describes : record.Keeps Describes := by
  constructor
  case initial => exact ⟨rfl, rfl, rfl, rfl⟩
  case field =>
    intro field inside held value set target read described
    simp only [record, List.mem_cons, List.not_mem_nil, or_false] at inside
    rcases inside with rfl | rfl | rfl
    all_goals
      obtain ⟨single, decoded, rfl⟩ := Json.ok_of_map read
      constructor <;>
        simp [Json.Field.plain, EventKind.name_ofName, decoded, described.kind, described.name,
          described.source, described.detail]
  case other =>
    intro key unknown held value target described
    simp only [Json.Record.keys, record, Json.Field.plain, List.map_cons, List.map_nil,
      List.mem_cons, List.not_mem_nil, or_false, not_or] at unknown
    constructor <;>
      simp [unknown, Ne.symm, described.kind, described.name, described.source, described.detail]

/-- The members of an object determine the event that it is read as. -/
theorem determines_describes : record.Determines Describes where
  toKeeps := keeps_describes
  unique := by
    rintro held ⟨kind, source, detail⟩ ⟨otherKind, otherSource, otherDetail⟩ left right
    have name : kind.name = otherKind.name := left.name.unique right.name
    have same : kind = otherKind :=
      left.kind.symm.trans ((congrArg EventKind.ofName name).trans right.kind)
    rw [mk.injEq]
    exact ⟨same, left.source.unique right.source, left.detail.unique right.detail⟩
  readable := by
    rintro held event ⟨kind, name, source, detail⟩ field inside found present
    simp only [record, List.mem_cons, List.not_mem_nil, or_false] at inside
    rcases inside with rfl | rfl | rfl
    all_goals
      simp only [Json.Field.plain] at present
      simp_all [Json.Field.plain, Except.map]

/-- What an object that decodes as an event holds. -/
theorem held_of_ofJson (distinct : Distinct members)
    (decoded : ofJson (.object members) = .ok event) :
    member? "type" members = some (.string event.kind.name) ∧
      member? "from" members = some (.string event.source) ∧
      event = ⟨.ofName event.kind.name, event.source,
        ((member? "detail" members).filter (!·.isNull)).map Json.document⟩ := by
  obtain ⟨⟨kind, name, source, detail⟩, -, required⟩ :=
    (determines_describes.decode_object_iff distinct).mp decoded
  obtain ⟨typed, foundType, readType⟩ :=
    Json.Holds.of_present name (required _ List.mem_cons_self rfl)
  obtain ⟨sent, foundFrom, readFrom⟩ :=
    Json.Holds.of_present source (required _ (List.mem_cons_of_mem _ List.mem_cons_self) rfl)
  rw [Json.toText_draft.mp readType] at foundType
  rw [Json.toText_draft.mp readFrom] at foundFrom
  refine ⟨foundType, foundFrom, ?_⟩
  rw [kind, ← Json.holds_detail.mp detail]

/-- An object decodes as an event exactly if its type and its sender are strings. The event has
these, and the detail of the object unless that is null. -/
theorem ofJson_object_iff (distinct : Distinct members) :
    ofJson (.object members) = .ok event ↔
      ∃ name source, member? "type" members = some (.string name) ∧
        member? "from" members = some (.string source) ∧
        event = ⟨.ofName name, source,
          ((member? "detail" members).filter (!·.isNull)).map Json.document⟩ := by
  constructor
  · exact fun decoded => ⟨_, _, held_of_ofJson distinct decoded⟩
  · rintro ⟨name, source, typed, sent, rfl⟩
    refine (determines_describes.decode_object_iff distinct).mpr ⟨⟨?_, ?_, ?_, ?_⟩, nofun, ?_⟩
    · rw [EventKind.name_ofName]
    · rw [typed, EventKind.name_ofName]
      exact Json.toText_draft.mpr rfl
    · rw [sent]
      exact Json.toText_draft.mpr rfl
    · exact Json.holds_detail.mpr rfl
    · intro field inRecord required
      simp only [record, List.mem_cons, List.not_mem_nil, or_false] at inRecord
      rcases inRecord with rfl | rfl | rfl
      · exact List.mem_map_of_mem (f := (·.1)) (Json.mem_of_member? typed)
      · exact List.mem_map_of_mem (f := (·.1)) (Json.mem_of_member? sent)
      · cases required

/-! ### Decoding and encoding -/

/-- Whether an event keeps a member of its object. -/
def stays (key : String) (value : Json) : Bool :=
  key == "type" || key == "from" || (key == "detail" && !value.isNull)

/-- The document of a decoded event holds the members of the object that the event keeps. -/
theorem document_of_ofJson (sorted : (Json.object members).IsSorted)
    (decoded : ofJson (.object members) = .ok event) :
    event.toJson.document.json =
      .object (members.filter fun member => stays member.1 member.2) := by
  obtain ⟨ordered, inside⟩ := sorted
  obtain ⟨typed, sent, whole⟩ := held_of_ofJson ordered.distinct decoded
  obtain ⟨written, document, increasing, held⟩ := event.document_toJson
  rw [document]
  refine congrArg Json.object (Json.eq_of_member?_eq increasing (ordered.filter _) fun key => ?_)
  rw [held, Json.member?_filter stays key ordered.distinct, Event.held]
  by_cases isType : key = "type"
  · simp [isType, typed, stays, Option.filter_some]
  by_cases isFrom : key = "from"
  · simp [isFrom, sent, stays, Option.filter_some]
  by_cases isDetail : key = "detail"
  · have detail : event.detail =
        ((member? "detail" members).filter (!·.isNull)).map Json.document :=
      congrArg Event.detail whole
    subst isDetail
    cases found : member? "detail" members with
    | none => simp [detail, found]
    | some value =>
      have valueSorted : value.IsSorted :=
        Json.membersSorted_iff.mp inside _ (Json.mem_of_member? found)
      have unchanged := Json.sorted_of_isSorted value valueSorted
      cases null : value.isNull <;>
        simp [detail, found, null, stays, Option.filter_some, Json.document, unchanged]
  · cases member? key members <;> simp [isType, isFrom, isDetail, stays, Option.filter_some]

/-- The event that an event stands for: a known kind under the guise of an unknown one is that kind,
and a null for a detail is no detail. -/
def plain (event : Event) : Event :=
  ⟨event.kind.unmasked, event.source, event.detail.filter (!·.json.isNull)⟩

/-- An event stands for itself unless its kind is a known one under the guise of an unknown one, or
its detail is a null. -/
theorem plain_eq_self_iff :
    event.plain = event ↔
      (∀ plain ∈ EventKind.known, event.kind ≠ .other plain.name) ∧
        ∀ detail ∈ event.detail, detail.json ≠ .null := by
  obtain ⟨kind, source, detail⟩ := event
  rw [plain, Event.mk.injEq, EventKind.unmasked_eq_self_iff]
  cases detail with
  | none => simp
  | some detail => simp [Option.filter_some, ← Json.isNull_iff]

/-- The document of an event decodes as the event that this stands for. -/
theorem ofJson_document (event : Event) : ofJson event.toJson.document.json = .ok event.plain := by
  obtain ⟨members, document, increasing, held⟩ := event.document_toJson
  rw [document, ofJson_object_iff increasing.distinct]
  refine ⟨event.kind.name, event.source, by rw [held]; rfl, by rw [held]; rfl, ?_⟩
  have detail : member? "detail" members = event.detail.map (·.json) := by rw [held]; rfl
  rw [plain, EventKind.ofName_name, detail]
  cases event.detail with
  | none => rfl
  | some found =>
    cases null : found.json.isNull <;> simp [Option.filter_some, null, Json.document_json]

/-- No event that has been decoded has a known kind under the guise of an unknown one, or a null for
a detail. -/
theorem preserves_plain : record.Preserves fun event =>
    event.kind.unmasked = event.kind ∧ ∀ detail ∈ event.detail, detail.json ≠ .null := by
  constructor
  case initial => exact ⟨rfl, nofun⟩
  case field =>
    intro field inside origin held set target read invariant
    simp only [record, List.mem_cons, List.not_mem_nil, or_false] at inside
    rcases inside with rfl | rfl | rfl
    · obtain ⟨name, -, rfl⟩ := Json.ok_of_map read
      exact ⟨EventKind.unmasked_ofName name, invariant.2⟩
    · obtain ⟨source, -, rfl⟩ := Json.ok_of_map read
      exact invariant
    · obtain ⟨detail, decoded, same⟩ := Json.ok_of_bind read
      obtain rfl := Except.ok.inj same
      refine ⟨invariant.1, fun found present => ?_⟩
      obtain rfl : detail = some found := present
      exact Json.ne_null_of_toOption decoded

/-- Decoding and encoding events. An object decodes as an event exactly if its type and its sender
are strings, and the document of the event is then the object restricted to the type, the sender and
a detail that is not null. The document of an event decodes as the event that this stands for, so
exactly the events that stand for themselves come back. Every decoded event does, from whatever
source it has been decoded.

Proof: the members of both documents are in increasing order of their keys, so it is enough to
compare what they hold at each key. What is held at the keys of an event determines it. That a
decoded event stands for itself is an invariant of reading its fields. -/
theorem decodes_and_returns :
    (∀ (document : Json.Document) (members : List (String × Json)),
      document.json = .object members →
        ((∃ event, ofJson document.json = .ok event) ↔
          (∃ name, member? "type" members = some (.string name)) ∧
            ∃ source, member? "from" members = some (.string source)) ∧
        ∀ event, ofJson document.json = .ok event →
          event.toJson.document.json =
            .object (members.filter fun member => stays member.1 member.2)) ∧
      (∀ event : Event, ofJson event.toJson.document.json = .ok event.plain ∧
        (ofJson event.toJson.document.json = .ok event ↔
          (∀ plain ∈ EventKind.known, event.kind ≠ .other plain.name) ∧
            ∀ detail ∈ event.detail, detail.json ≠ .null)) ∧
      ∀ (origin : Json.Origin) (draft : Json.Draft) (event : Event),
        record.decode origin draft = .ok event →
          ofJson event.toJson.document.json = .ok event := by
  refine ⟨fun document members object => ?_, fun event => ⟨event.ofJson_document, ?_⟩,
    fun origin draft event decoded => ?_⟩
  · have sorted := document.isSorted
    rw [object] at sorted ⊢
    refine ⟨?_, fun event decoded => document_of_ofJson sorted decoded⟩
    simp only [ofJson_object_iff sorted.1.distinct]
    constructor
    · rintro ⟨_, name, source, typed, sent, -⟩
      exact ⟨⟨name, typed⟩, source, sent⟩
    · rintro ⟨⟨name, typed⟩, source, sent⟩
      exact ⟨_, name, source, typed, sent, rfl⟩
  · rw [ofJson_document, Except.ok.injEq, plain_eq_self_iff]
  · obtain ⟨kind, detail⟩ := preserves_plain.decode decoded
    rw [ofJson_document, Except.ok.injEq, plain_eq_self_iff]
    exact ⟨EventKind.unmasked_eq_self_iff.mp kind, detail⟩

/-- An event of a kind that is not known, with a null for a detail and a member that is no field:
type and sender stay, and from them the event is decoded again. -/
theorem decodes_and_returns_dragged :
    let dragged : Json := .object [("detail", .null), ("extra", .bool true),
      ("from", .string "grid"), ("type", .string "dragged")]
    ∃ event, ofJson dragged.document.json = .ok event ∧
      event.toJson.document.json =
        .object [("from", .string "grid"), ("type", .string "dragged")] ∧
      ofJson event.toJson.document.json = .ok event := by
  intro dragged
  obtain ⟨objects, -, returns⟩ := decodes_and_returns
  obtain ⟨decodes, restricted⟩ := objects dragged.document _ rfl
  obtain ⟨event, decoded⟩ := decodes.mpr ⟨⟨"dragged", rfl⟩, "grid", rfl⟩
  exact ⟨event, decoded, restricted event decoded,
    returns .value dragged.document.json.draft event decoded⟩

end Event

end Dialogs
