import Dialogs.Runner
import Dialogs.Proofs.EventStream
import Dialogs.Proofs.FontText
import Dialogs.Proofs.WidgetMaking

/-!
# Dialogs that a program builds

A program that builds a dialog begins each widget with one of the makers and goes on edit by edit,
but it never assigns the kind of a widget as a text; the widgets that it puts in as items are built
in the same way. It begins a window with the empty one and sets what it wants to say, the body being
a widget that it has built. No quote stands in the family of a font that it sets.

Whatever is built is accepted. The kind of a widget is empty or known, since the maker names it and
no edit changes it, and the font of a window can be read, since its text is the description of a
font. So a built window is valid, its document is a request for it, and when it is shown nothing
that may go wrong is due to the dialog.
-/

namespace Dialogs

/-! ## Widgets -/

namespace Widget

variable {widget part body : Widget} {address : List Nat}

/-- The widgets that a program builds. Any edit may be made but that of the kind, and the widgets
that are put in as items are built as well. -/
inductive Built : Widget → Prop where
  | begun (maker : Maker) (items : ∀ child, Item.widget child ∈ maker.items → Built child) :
    Built maker.widget
  | edited {widget : Widget} (built : Built widget) (edit : Edit)
    (kept : ∀ kind, edit ≠ .setKind kind)
    (items : ∀ child, Item.widget child ∈ edit.newItems → Built child) : Built (edit.apply widget)

/-- A maker leaves the kind empty or names a known one. -/
theorem Maker.not_foreign_kind (maker : Maker) : ¬ WidgetKind.Foreign maker.widget.kind := by
  rw [← WidgetKind.isForeign_iff]
  cases maker with
  -- The kind is given here; every other maker names one of its own, which is looked up.
  | ofKind kind => exact fun foreign => (WidgetKind.isForeign_iff.mp foreign).2 kind rfl
  | _ => exact Bool.false_ne_true

/-- No edit changes the kind but the one that assigns it. -/
theorem Edit.kind_apply {edit : Edit} (kept : ∀ kind, edit ≠ .setKind kind) :
    (edit.apply widget).kind = widget.kind := by
  cases edit with
  | setKind kind => exact absurd rfl (kept kind)
  | setProperty key value =>
    rw [Edit.apply, setProperty_snd]
    rfl
  | _ => rfl

/-- A built widget is of no foreign kind. -/
theorem Built.not_foreign_kind (built : Built widget) : ¬ WidgetKind.Foreign widget.kind := by
  induction built with
  | begun maker => exact maker.not_foreign_kind
  | edited built edit kept items inductionHypothesis =>
    rw [Edit.kind_apply kept]
    exact inductionHypothesis

/-- The widgets among the items of a built widget are built. -/
theorem Built.child (built : Built widget) {child : Widget}
    (inside : Item.widget child ∈ widget.items) : Built child := by
  induction built with
  | begun maker items =>
    rw [maker.items_widget] at inside
    exact items child inside
  | edited built edit kept items inductionHypothesis =>
    rcases edit.mem_items_apply inside with old | new
    · exact inductionHypothesis old
    · exact items child new

/-- So is every live widget. -/
theorem Built.live (built : Built body) (live : LiveAt body address part) : Built part := by
  induction live with
  | body => exact built
  | item live typed item inductionHypothesis =>
    exact inductionHypothesis.child (List.mem_of_getElem? item)

end Widget

/-! ## Windows -/

namespace Window

variable {window : Window}

/-- The windows that a program builds, with fonts without a quote in their family and with bodies
that are built. -/
inductive Built : Window → Prop where
  | empty : Built Window.empty
  | titled {window : Window} (built : Built window) (title : String) :
    Built (window.withTitle title)
  | sized {window : Window} (built : Built window) (width height : Int64) :
    Built (window.withSize width height)
  | positioned {window : Window} (built : Built window) (x y : Int64) :
    Built (window.withPosition x y)
  | fixed {window : Window} (built : Built window) (fixed : Bool) : Built (window.withFixed fixed)
  | modelled {window : Window} (built : Built window) (model : Bool) :
    Built (window.withModel model)
  | lettered {window : Window} (built : Built window) (font : Font)
    (whole : '\'' ∉ font.family.toList) : Built (window.withFont font)
  | filled {window : Window} (built : Built window) {body : Widget} (bodyBuilt : body.Built) :
    Built (window.withBody body)

/-- What building a window preserves. -/
structure Acceptable (window : Window) : Prop where
  type : window.kind = windowType
  font : window.font = "" ∨ ∃ font, Font.parse? window.font = some font
  body : window.body.Built

/-- A built window is of the type of windows, its font can be read if it names one, and its body is
built. -/
theorem Built.acceptable (built : window.Built) : window.Acceptable := by
  induction built with
  | empty => exact ⟨rfl, .inl rfl, .begun .blank nofun⟩
  | lettered built font whole inductionHypothesis =>
    have readable : Font.parse? font.text = some font := Font.parse?_text_of_restorable (.inl whole)
    exact ⟨inductionHypothesis.type, .inr ⟨font, readable⟩, inductionHypothesis.body⟩
  | filled built bodyBuilt inductionHypothesis =>
    exact ⟨inductionHypothesis.type, inductionHypothesis.font, bodyBuilt⟩
  | titled _ _ inductionHypothesis | sized _ _ _ inductionHypothesis
  | positioned _ _ _ inductionHypothesis | fixed _ _ inductionHypothesis
  | modelled _ _ inductionHypothesis =>
    exact ⟨inductionHypothesis.type, inductionHypothesis.font, inductionHypothesis.body⟩

/-- What building preserves is enough for the renderer. -/
theorem Acceptable.validate_eq_ok (acceptable : window.Acceptable) : window.validate = .ok () := by
  refine (Judged.valid acceptable.type acceptable.font ?_).validate_eq
  intro address part live
  exact (acceptable.body.live live).not_foreign_kind

/-- The document of a valid window is a request for it. -/
theorem ofRequest_of_valid (valid : window.validate = .ok ()) :
    ofRequest window.toDocument.json = .ok (some window) := by
  have decoded : ofJson window.toDocument.json = .ok window := window.ofJson_sorted_toJson
  have document : window.toDocument.json = .object window.documentMembers := window.sorted_toJson
  rw [document] at decoded ⊢
  simp only [ofRequest, decoded, valid]
  rfl

end Window

/-! ## What may go wrong when a window is shown -/

variable {window : Window} {error : DialogError}

/-- What a renderer does is no verdict on the dialog. -/
theorem Behaviour.output_ne_invalidDialog (behaviour : Behaviour) :
    behaviour.output ≠ .error (.invalidDialog error) := by
  rw [output]
  cases taken : behaviour.uptake.result with
  | error failure =>
    rw [Uptake.result.eq_def] at taken
    split at taken
    · obtain rfl := Except.error.inj taken
      exact nofun
    · cases taken
  | ok =>
    simp only [verdict]
    split <;> exact nofun

/-- Nor is anything that goes wrong when a renderer is run. -/
theorem Runner.run_ne_invalidDialog (runner : Runner) (launcher : Launcher)
    (invocation : Invocation) :
    runner.run launcher invocation ≠ some (.error (.invalidDialog error)) := by
  rw [run, start]
  cases launcher runner.executable (runner.prefixArgs ++ invocation.args) with
  | error cause => exact nofun
  | ok renderer =>
    -- With or without a limit, the renderer ends or goes on for ever.
    simp only [Behaviour.conclude]
    split
    · split
      · exact fun same => Behaviour.output_ne_invalidDialog _ (Option.some.inj same)
      · exact nofun
    · exact fun same => Behaviour.output_ne_invalidDialog _ (Option.some.inj same)
    · exact nofun
    · exact nofun

/-- Nor is a transcript that cannot be read. -/
theorem lastEventOf_ne_invalidDialog (transcript : String) :
    lastEventOf transcript ≠ .error (.invalidDialog error) := by
  rw [lastEventOf, eventsOf]
  rcases Session.eventsOfLines_eq (Text.lines transcript) with
    ⟨events, -, read⟩ | ⟨_, output, cause, _, -, refused⟩
  · simp [read, Except.map]
  · simp [refused, Except.map]

/-- A valid window is never refused when it is shown. -/
theorem perform_showDialog_ne_invalidDialog (valid : window.validate = .ok ()) (runner : Runner)
    (launcher : Launcher) (options : GlobalOptions) :
    runner.perform launcher (options.showDialog window) ≠
      some (.error (.invalidDialog error)) := by
  rw [GlobalOptions.showDialog, valid]
  simp only [GlobalOptions.send, Runner.perform]
  intro answered
  obtain ⟨result, ran, concluded⟩ := Option.bind_eq_some_iff.mp answered
  cases result with
  | error failure =>
    obtain rfl : failure = .invalidDialog error := Except.error.inj (Option.some.inj concluded)
    exact runner.run_ne_invalidDialog launcher _ ran
  | ok output => exact lastEventOf_ne_invalidDialog output.stdout (Option.some.inj concluded)

/-! ## Main result -/

/-- A dialog that is built is accepted: the window is valid, its document is a request for this very
window, and showing it never fails for the dialog, whatever the renderer does.

Proof: by induction over the making of the window and of each widget in it. No maker names a foreign
kind, no edit changes the kind, and a font without quotes in its family is read back from its text.
-/
theorem built_accepted (built : window.Built) :
    window.validate = .ok () ∧
      Window.ofRequest window.toDocument.json = .ok (some window) ∧
      ∀ (runner : Runner) (launcher : Launcher) (options : GlobalOptions) (error : DialogError),
        runner.perform launcher (options.showDialog window) ≠
          some (.error (.invalidDialog error)) := by
  have valid := built.acceptable.validate_eq_ok
  refine ⟨valid, Window.ofRequest_of_valid valid, ?_⟩
  intro runner launcher options error
  exact perform_showDialog_ne_invalidDialog valid runner launcher options

/-- A form with a bare text, a line whose type is to be overwritten as a property, and a widget of
no kind with an item of its own, in a window with a quoted font. -/
theorem built_accepted_form :
    let line := (Widget.input "name").withProperty "type" (Json.document (.string "window"))
    let blank := Widget.blank.withItems [.widget Widget.space]
    let window := ((Window.empty.withTitle "Save").withFont ⟨"Noto Serif", some (-1)⟩).withBody
      ((Widget.form [.text "Name", .widget line]).withItem (.widget blank))
    window.font = "'Noto Serif' -1" ∧ window.validate = .ok () ∧
      Window.ofRequest window.toDocument.json = .ok (some window) := by
  intro line blank window
  have lineBuilt : line.Built :=
    .edited (.begun (.input "name") nofun) (.addProperty "type" (Json.document (.string "window")))
      nofun nofun
  have blankBuilt : blank.Built := by
    refine .edited (.begun .blank nofun) (.addItems [.widget Widget.space]) nofun ?_
    intro child inside
    obtain rfl := Item.widget.inj (List.mem_singleton.mp inside)
    exact .begun .space nofun
  have formBuilt : (Widget.form [.text "Name", .widget line]).Built := by
    refine .begun (.form [.text "Name", .widget line]) ?_
    intro child inside
    obtain rfl : child = line := by simpa [Widget.Maker.items] using inside
    exact lineBuilt
  have bodyBuilt : ((Widget.form [.text "Name", .widget line]).withItem (.widget blank)).Built := by
    refine .edited formBuilt (.addItem (.widget blank)) nofun ?_
    intro child inside
    obtain rfl := Item.widget.inj (List.mem_singleton.mp inside)
    exact blankBuilt
  have built : window.Built :=
    .filled (.lettered (.titled .empty "Save") ⟨"Noto Serif", some (-1)⟩ (by decide)) bodyBuilt
  obtain ⟨valid, requested, -⟩ := built_accepted built
  exact ⟨by decide +kernel, valid, requested⟩

end Dialogs
