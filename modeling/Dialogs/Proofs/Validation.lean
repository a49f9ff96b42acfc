import Mathlib.Data.List.Basic
import Mathlib.Order.Lattice
import Dialogs.Window.Basic

/-!
# Why a window is refused

A window is refused for its type, for its font, or for the first widget of a foreign kind that the
renderer would look at. Which widgets those are, and which of them is the first, is said here
without the walk that validates: a live widget is named by its address in the body, and a widget
stands in front of its items, and what belongs to an item in front of what belongs to a later one.

The renderer does not look below a widget without a kind, and a bare text is no widget. So the
verdict depends on the type, the font and the kinds of the live widgets, and on nothing else.
-/

namespace Dialogs

/-- A kind that is named but that the library does not know. -/
def WidgetKind.Foreign (name : String) : Prop := name ≠ "" ∧ ∀ kind : WidgetKind, kind.name ≠ name

/-- Whether a name is that of a foreign kind. -/
def WidgetKind.isForeign (name : String) : Bool := !name.isEmpty && (ofName? name).isNone

/-- No kind is found under the name of a foreign kind, and under a known one there is a kind. -/
theorem WidgetKind.isForeign_iff {name : String} : isForeign name = true ↔ Foreign name := by
  have missing : (ofName? name).isNone = true ↔ ∀ kind : WidgetKind, kind.name ≠ name := by
    constructor
    · intro absent kind same
      rw [← same, ofName?_name] at absent
      cases absent
    · intro unknown
      cases found : ofName? name with
      | none => rfl
      | some kind => exact absurd (name_of_ofName? found) (unknown kind)
  simp only [isForeign, Foreign, Bool.and_eq_true, Bool.not_eq_true', missing, ne_eq,
    ← String.isEmpty_iff, Bool.not_eq_true]

namespace Widget

/-- The widgets that the renderer looks at, by their address: the body itself, and each widget among
the items of one that has a kind. The address is the way down, each step the place of an item. -/
inductive LiveAt (body : Widget) : List Nat → Widget → Prop where
  | body : LiveAt body [] body
  | item {address : List Nat} {widget child : Widget} {index : Nat}
    (live : LiveAt body address widget) (typed : widget.kind ≠ "")
    (item : widget.items[index]? = some (.widget child)) : LiveAt body (address ++ [index]) child

/-- The first live widget of a foreign kind. Addresses are compared step by step, and a shorter one
comes before those that go on from it, so the widgets come in depth-first order, each in front of
its items. -/
def FirstForeign (body widget : Widget) : Prop :=
  ∃ address, LiveAt body address widget ∧ WidgetKind.Foreign widget.kind ∧
    ∀ earlier other, LiveAt body earlier other → WidgetKind.Foreign other.kind → ¬ earlier < address

mutual

/-- The kinds of the live widgets with their addresses, in depth-first order. -/
def live : Widget → List (List Nat × String)
  | ⟨_, kind, _, _, _, _, _, _, _, _, items, _⟩ =>
    ([], kind) :: if kind.isEmpty then [] else liveItems 0 items

/-- The kinds of the live widgets among items, the first of which has the place `index`. -/
def liveItems (index : Nat) : List (Item Widget) → List (List Nat × String)
  | [] => []
  | item :: rest =>
    ((liveItem item).map fun (address, kind) => (index :: address, kind)) ++
      liveItems (index + 1) rest

/-- The kinds of the live widgets of an item. -/
def liveItem : Item Widget → List (List Nat × String)
  | .widget child => child.live
  | .text _ => []

end

/-- The kinds of the live widgets, in depth-first order. -/
def liveKinds (widget : Widget) : List String := widget.live.map (·.2)

/-! ### What is live -/

variable {body child part widget : Widget} {address : List Nat} {index : Nat} {kind : String}

/-- What is live in a widget among the items of another one is live there, one step further down. -/
theorem LiveAt.through (live : LiveAt child address part) (typed : body.kind ≠ "")
    (item : body.items[index]? = some (.widget child)) : LiveAt body (index :: address) part := by
  induction live with
  | body => exact .item .body typed item
  | item _ partTyped partItem inductionHypothesis =>
    exact .item inductionHypothesis partTyped partItem

/-- A live widget is the body, or it is live in a widget among the items of the body. -/
theorem LiveAt.split (live : LiveAt body address part) :
    (address = [] ∧ part = body) ∨
      ∃ index rest child, address = index :: rest ∧ body.kind ≠ "" ∧
        body.items[index]? = some (.widget child) ∧ LiveAt child rest part := by
  induction live with
  | body => exact .inl ⟨rfl, rfl⟩
  | @item address widget child index _ typed item inductionHypothesis =>
    rcases inductionHypothesis with
      ⟨rfl, rfl⟩ | ⟨first, rest, outer, rfl, outerTyped, outerItem, inner⟩
    · exact .inr ⟨index, [], child, rfl, typed, item, .body⟩
    · exact .inr ⟨first, rest ++ [index], outer, rfl, outerTyped, outerItem,
        .item inner typed item⟩

/-- The places of items, counted from the first. -/
theorem getElem?_cons_iff {first item : Item Widget} {rest : List (Item Widget)} :
    (first :: rest)[index]? = some item ↔
      (index = 0 ∧ first = item) ∨ ∃ later, index = later + 1 ∧ rest[later]? = some item := by
  cases index <;> simp

mutual

/-- The list holds exactly the kinds of the live widgets at their addresses. -/
theorem mem_live_iff : (body : Widget) → {address : List Nat} → {kind : String} →
    ((address, kind) ∈ body.live ↔ ∃ part, LiveAt body address part ∧ part.kind = kind)
  | ⟨id, name, title, group, text, value, width, height, enabled, fill, items, properties⟩,
      address, kind => by
    rw [live, List.mem_cons]
    constructor
    · rintro (first | inside)
      · obtain ⟨rfl, rfl⟩ := Prod.mk.inj first
        exact ⟨_, .body, rfl⟩
      · split at inside
        · cases inside
        · rename_i typed
          obtain ⟨index, child, rest, part, item, rfl, below, same⟩ :=
            (mem_liveItems_iff items).mp inside
          refine ⟨part, ?_, same⟩
          rw [Nat.zero_add]
          exact below.through (by simpa using typed) item
    · rintro ⟨part, alive, same⟩
      rcases alive.split with ⟨rfl, rfl⟩ | ⟨index, rest, child, rfl, typed, item, below⟩
      · exact .inl (by rw [← same])
      · right
        rw [if_neg (by simpa using typed)]
        exact (mem_liveItems_iff items).mpr
          ⟨index, child, rest, part, item, by rw [Nat.zero_add], below, same⟩

/-- The list of items holds exactly the kinds of what is live in each widget among them. -/
theorem mem_liveItems_iff : (items : List (Item Widget)) → {start : Nat} → {address : List Nat} →
    {kind : String} →
    ((address, kind) ∈ liveItems start items ↔
      ∃ index child rest part, items[index]? = some (Item.widget child) ∧
        address = (start + index) :: rest ∧ LiveAt child rest part ∧ part.kind = kind)
  | [], start, address, kind => by simp [liveItems]
  | item :: others, start, address, kind => by
    rw [liveItems, List.mem_append, List.mem_map]
    constructor
    · rintro (⟨⟨rest, _⟩, inside, same⟩ | later)
      · obtain ⟨rfl, rfl⟩ := Prod.mk.inj same
        obtain ⟨child, part, rfl, below, same⟩ := (mem_liveItem_iff item).mp inside
        exact ⟨0, child, rest, part, rfl, rfl, below, same⟩
      · obtain ⟨index, child, rest, part, found, rfl, below, same⟩ :=
          (mem_liveItems_iff others).mp later
        exact ⟨index + 1, child, rest, part, found, by rw [Nat.add_right_comm, Nat.add_assoc],
          below, same⟩
    · rintro ⟨index, child, rest, part, found, rfl, below, same⟩
      rcases getElem?_cons_iff.mp found with ⟨rfl, rfl⟩ | ⟨later, rfl, found⟩
      · left
        exact ⟨(rest, kind), (mem_liveItem_iff _).mpr ⟨child, part, rfl, below, same⟩, rfl⟩
      · right
        exact (mem_liveItems_iff others).mpr ⟨later, child, rest, part, found,
          by rw [Nat.add_right_comm, Nat.add_assoc], below, same⟩

/-- The list of an item holds exactly the kinds of what is live in it, if it is a widget. -/
theorem mem_liveItem_iff : (item : Item Widget) → {address : List Nat} → {kind : String} →
    ((address, kind) ∈ liveItem item ↔
      ∃ child part, item = .widget child ∧ LiveAt child address part ∧ part.kind = kind)
  | .widget child, address, kind => by
    rw [liveItem, mem_live_iff child]
    simp
  | .text text, address, kind => by simp [liveItem]

end

/-! ### What comes first -/

/-- Entries in the order of their addresses. -/
def Ascending (entries : List (List Nat × String)) : Prop :=
  entries.Pairwise fun first second => first.1 < second.1

mutual

/-- The live widgets are listed in the order of their addresses. -/
theorem ascending_live : (body : Widget) → Ascending body.live
  | ⟨id, name, title, group, text, value, width, height, enabled, fill, items, properties⟩ => by
    rw [live]
    refine List.pairwise_cons.mpr ⟨?_, ?_⟩
    · rintro ⟨address, kind⟩ inside
      split at inside
      · cases inside
      · obtain ⟨index, _, rest, _, _, rfl, _⟩ := (mem_liveItems_iff items).mp inside
        exact List.nil_lt_cons _ _
    · split
      · exact List.Pairwise.nil
      · exact ascending_liveItems items 0

/-- So are those among items: the address begins with the place of the item. -/
theorem ascending_liveItems : (items : List (Item Widget)) → (start : Nat) →
    Ascending (liveItems start items)
  | [], _ => List.Pairwise.nil
  | item :: others, start => by
    rw [liveItems]
    refine List.pairwise_append.mpr ⟨?_, ascending_liveItems others (start + 1), ?_⟩
    · rw [List.pairwise_map]
      refine (ascending_liveItem item).imp ?_
      intro first second before
      exact List.cons_lt_cons_self.mpr before
    · rintro first firstInside ⟨address, kind⟩ secondInside
      obtain ⟨⟨rest, _⟩, _, rfl⟩ := List.mem_map.mp firstInside
      obtain ⟨index, _, later, _, _, rfl, _⟩ := (mem_liveItems_iff others).mp secondInside
      exact List.cons_lt_cons_iff.mpr (.inl (by omega))

/-- So are those of an item. -/
theorem ascending_liveItem : (item : Item Widget) → Ascending (liveItem item)
  | .widget child => ascending_live child
  | .text _ => List.Pairwise.nil

end

/-- Among entries in the order of their addresses, the one that is found first is the one in front
of which there is none to be found. -/
theorem find?_eq_some_iff_first {entries : List (List Nat × String)} (ascending : Ascending entries)
    {sought : List Nat × String → Bool} {entry : List Nat × String} :
    entries.find? sought = some entry ↔
      entry ∈ entries ∧ sought entry = true ∧
        ∀ other ∈ entries, sought other = true → ¬ other.1 < entry.1 := by
  constructor
  · intro found
    obtain ⟨here, before, behind, rfl, none⟩ := List.find?_eq_some_iff_append.mp found
    refine ⟨by simp, here, ?_⟩
    intro other inside wanted smaller
    rcases List.mem_append.mp inside with front | back
    · have refused := none other front
      simp [wanted] at refused
    · rcases List.mem_cons.mp back with rfl | back
      · exact List.lt_irrefl _ smaller
      · have ordered := (List.pairwise_append.mp ascending).2.1
        exact List.lt_asymm smaller ((List.pairwise_cons.mp ordered).1 other back)
  · rintro ⟨inside, wanted, first⟩
    cases found : entries.find? sought with
    | none =>
      have refused := List.find?_eq_none.mp found entry inside
      exact absurd wanted refused
    | some other =>
      obtain ⟨here, before, behind, rfl, none⟩ := List.find?_eq_some_iff_append.mp found
      rcases List.mem_append.mp inside with front | back
      · have refused := none entry front
        simp [wanted] at refused
      · rcases List.mem_cons.mp back with rfl | back
        · rfl
        · have ordered := (List.pairwise_append.mp ascending).2.1
          have smaller := (List.pairwise_cons.mp ordered).1 entry back
          exact absurd smaller (first other (by simp) here)

/-- The first foreign kind in the list is that of the first live widget of a foreign kind. -/
theorem find?_isForeign_iff :
    body.liveKinds.find? WidgetKind.isForeign = some kind ↔
      ∃ widget, FirstForeign body widget ∧ widget.kind = kind := by
  have entries : body.liveKinds.find? WidgetKind.isForeign = some kind ↔
      ∃ address, body.live.find? (fun entry => WidgetKind.isForeign entry.2) =
        some (address, kind) := by
    rw [liveKinds, List.find?_map, Option.map_eq_some_iff]
    constructor
    · rintro ⟨⟨address, _⟩, found, rfl⟩
      exact ⟨address, found⟩
    · rintro ⟨address, found⟩
      exact ⟨(address, kind), found, rfl⟩
  rw [entries]
  constructor
  · rintro ⟨address, found⟩
    obtain ⟨inside, foreign, first⟩ := (find?_eq_some_iff_first body.ascending_live).mp found
    obtain ⟨part, live, rfl⟩ := body.mem_live_iff.mp inside
    refine ⟨part, ⟨address, live, WidgetKind.isForeign_iff.mp foreign, ?_⟩, rfl⟩
    intro earlier other otherLive otherForeign
    exact first (earlier, other.kind) (body.mem_live_iff.mpr ⟨other, otherLive, rfl⟩)
      (WidgetKind.isForeign_iff.mpr otherForeign)
  · rintro ⟨part, ⟨address, live, foreign, first⟩, rfl⟩
    refine ⟨address, (find?_eq_some_iff_first body.ascending_live).mpr
      ⟨body.mem_live_iff.mpr ⟨part, live, rfl⟩, WidgetKind.isForeign_iff.mpr foreign, ?_⟩⟩
    rintro ⟨earlier, _⟩ inside otherForeign
    obtain ⟨other, otherLive, rfl⟩ := body.mem_live_iff.mp inside
    exact first earlier other otherLive (WidgetKind.isForeign_iff.mp otherForeign)

/-! ### What the walk finds -/

/-- The verdict on kinds in the order in which they are looked at. -/
def judge (kinds : List String) : Except DialogError Unit :=
  match kinds.find? WidgetKind.isForeign with
  | some kind => .error (.unknownWidget kind)
  | none => .ok ()

/-- Kinds are judged from the front. -/
theorem judge_append (first second : List String) :
    judge (first ++ second) = (do judge first; judge second) := by
  rw [judge, judge, List.find?_append]
  cases first.find? WidgetKind.isForeign <;> rfl

mutual

/-- The walk over a widget judges the kinds of its live widgets. -/
theorem validate_eq_judge : (widget : Widget) → widget.validate = judge widget.liveKinds
  | ⟨id, name, title, group, text, value, width, height, enabled, fill, items, properties⟩ => by
    rw [validate, liveKinds, live, List.map_cons]
    by_cases empty : name.isEmpty = true
    · simp [empty, judge, WidgetKind.isForeign]
    · cases known : WidgetKind.ofName? name with
      | none => simp [empty, known, judge, WidgetKind.isForeign]
      | some kind =>
        have skipped : WidgetKind.isForeign name = false := by
          simp [WidgetKind.isForeign, known]
        simp only [empty, if_false, judge, List.find?_cons, skipped, Bool.false_eq_true]
        exact validateItems_eq_judge items 0

/-- The walk over items judges the kinds of the live widgets among them. -/
theorem validateItems_eq_judge : (items : List (Item Widget)) → (start : Nat) →
    validateItems items = judge ((liveItems start items).map (·.2))
  | [], _ => rfl
  | item :: others, start => by
    have places : ((liveItem item).map fun (address, kind) => (start :: address, kind)).map (·.2) =
        (liveItem item).map (·.2) := by
      simp
    rw [validateItems, liveItems, List.map_append, judge_append, places, validateItem_eq_judge item,
      validateItems_eq_judge others (start + 1)]

/-- The walk over an item judges the kinds of its live widgets. -/
theorem validateItem_eq_judge : (item : Item Widget) →
    validateItem item = judge ((liveItem item).map (·.2))
  | .widget child => validate_eq_judge child
  | .text _ => rfl

end

end Widget

namespace Window

/-- The verdict on a window: its type is looked at first, then its font, and then the live widgets
of its body. -/
inductive Judged (window : Window) : Except DialogError Unit → Prop where
  | otherType (other : window.kind ≠ windowType) :
    Judged window (.error (.invalidWindowType window.kind))
  | noFont (type : window.kind = windowType) (named : window.font ≠ "")
    (unreadable : Font.parse? window.font = none) :
    Judged window (.error (.invalidFont window.font))
  | foreign {widget : Widget} (type : window.kind = windowType)
    (font : window.font = "" ∨ ∃ font, Font.parse? window.font = some font)
    (first : Widget.FirstForeign window.body widget) :
    Judged window (.error (.unknownWidget widget.kind))
  | valid (type : window.kind = windowType)
    (font : window.font = "" ∨ ∃ font, Font.parse? window.font = some font)
    (known : ∀ address widget, Widget.LiveAt window.body address widget →
      ¬ WidgetKind.Foreign widget.kind) :
    Judged window (.ok ())

variable {window : Window} {verdict : Except DialogError Unit}

/-- A window with a font that can be read, or with none, is judged by its body. -/
theorem validate_of_font (type : window.kind = windowType)
    (font : window.font = "" ∨ ∃ font, Font.parse? window.font = some font) :
    window.validate = window.body.validate := by
  have accepted : ∀ error, window.font? ≠ some (.error error) := by
    intro error refused
    rw [font?] at refused
    rcases font with unnamed | ⟨font, readable⟩
    · simp [unnamed] at refused
    · split at refused
      · cases refused
      · rw [readable] at refused
        cases refused
  rw [validate, if_neg (not_not.mpr type)]
  split
  · rename_i error refused
    exact absurd refused (accepted error)
  · rfl

/-- A font that is named and cannot be read is reported as a whole. -/
theorem validate_of_noFont (type : window.kind = windowType) (named : window.font ≠ "")
    (unreadable : Font.parse? window.font = none) :
    window.validate = .error (.invalidFont window.font) := by
  have refused : window.font? = some (.error (.invalidFont window.font)) := by
    rw [font?, if_neg (by simpa using named), unreadable]
  rw [validate, if_neg (not_not.mpr type), refused]

/-- The verdict is what validation gives. -/
theorem Judged.validate_eq (judged : window.Judged verdict) : window.validate = verdict := by
  cases judged with
  | otherType other => rw [validate, if_pos other]
  | noFont type named unreadable => exact validate_of_noFont type named unreadable
  | foreign type font first =>
    have found := Widget.find?_isForeign_iff.mpr ⟨_, first, rfl⟩
    rw [validate_of_font type font, Widget.validate_eq_judge, Widget.judge, found]
  | valid type font known =>
    have nothing : window.body.liveKinds.find? WidgetKind.isForeign = none := by
      by_contra something
      obtain ⟨kind, found⟩ := Option.ne_none_iff_exists'.mp something
      obtain ⟨widget, ⟨address, live, foreign, -⟩, -⟩ := Widget.find?_isForeign_iff.mp found
      exact known address widget live foreign
    rw [validate_of_font type font, Widget.validate_eq_judge, Widget.judge, nothing]

/-- Validation gives a verdict on every window. -/
theorem judged_validate (window : Window) : window.Judged window.validate := by
  by_cases type : window.kind = windowType
  · by_cases font : window.font = "" ∨ ∃ font, Font.parse? window.font = some font
    · rw [validate_of_font type font, Widget.validate_eq_judge, Widget.judge]
      split
      · rename_i kind found
        obtain ⟨widget, first, rfl⟩ := Widget.find?_isForeign_iff.mp found
        exact .foreign type font first
      · rename_i nothing
        refine .valid type font fun address widget live foreign => ?_
        have listed : widget.kind ∈ window.body.liveKinds :=
          List.mem_map_of_mem (f := (·.2)) (window.body.mem_live_iff.mpr ⟨widget, live, rfl⟩)
        exact absurd (WidgetKind.isForeign_iff.mpr foreign)
          (List.find?_eq_none.mp nothing widget.kind listed)
    · rw [not_or, not_exists] at font
      have unreadable : Font.parse? window.font = none :=
        Option.eq_none_iff_forall_ne_some.mpr font.2
      rw [validate_of_noFont type font.1 unreadable]
      exact .noFont type font.1 unreadable
  · rw [validate, if_pos type]
    exact .otherType type

/-- The verdict on a window of a type, with a font, and with live widgets of these kinds in
depth-first order. -/
def judge (type font : String) (kinds : List String) : Except DialogError Unit :=
  if type ≠ windowType then .error (.invalidWindowType type)
  else if font ≠ "" ∧ Font.parse? font = none then .error (.invalidFont font)
  else Widget.judge kinds

/-- Validation looks at the type, the font and the kinds of the live widgets. -/
theorem validate_eq_judge (window : Window) :
    window.validate = judge window.kind window.font window.body.liveKinds := by
  rw [judge]
  by_cases type : window.kind = windowType
  · rw [if_neg (not_not.mpr type)]
    by_cases refused : window.font ≠ "" ∧ Font.parse? window.font = none
    · rw [validate_of_noFont type refused.1 refused.2, if_pos refused]
    · have font : window.font = "" ∨ ∃ font, Font.parse? window.font = some font := by
        rw [not_and_or, not_not] at refused
        exact refused.imp_right Option.ne_none_iff_exists'.mp
      rw [validate_of_font type font, Widget.validate_eq_judge, if_neg refused]
  · rw [validate, if_pos type, if_pos type]

end Window

/-- Validation is exact, and it reports the first offence: a type that is not that of a window, else
a font that cannot be read, else the first live widget of a foreign kind. Without an offence the
window is valid. Nothing has a part in this but the type, the font, and the kinds of the live
widgets in depth-first order.

Proof: the walk judges the kinds of the live widgets in the order in which they are listed, and they
are listed by increasing address. -/
theorem validate_iff_judged :
    (∀ (window : Window) (verdict : Except DialogError Unit),
      window.validate = verdict ↔ window.Judged verdict) ∧
      ∃ judge : String → String → List String → Except DialogError Unit, ∀ window : Window,
        window.validate = judge window.kind window.font window.body.liveKinds := by
  refine ⟨?_, Window.judge, Window.validate_eq_judge⟩
  intro window verdict
  constructor
  · rintro rfl
    exact window.judged_validate
  · exact Window.Judged.validate_eq

end Dialogs
