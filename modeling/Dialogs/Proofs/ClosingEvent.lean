import Dialogs.Proofs.PrintedEvents

/-!
# The event that closed a window

A window closes after a click, and after the selection of a row; other events, such as a change, are
reported while it stays open. A client that shows a dialog wants to know which event closed it, and
it results in the last one that was reported. That is the same thing only if the last event closed
the window: a window that is closed without an event leaves the last change behind, and the client
results in that.
-/

namespace Dialogs

/-- The event that closed the window, if one did: the last of those after which a window closes. -/
def closingEvent? (events : List Event) : Option Event := (events.filter Event.isTerminal).getLast?

variable {events : List Event} {event : Event}

/-- The event that closed the window was reported, and it is one after which a window closes. -/
theorem mem_of_closingEvent? (closed : closingEvent? events = some event) :
    event ∈ events ∧ event.isTerminal = true :=
  List.mem_filter.mp (List.mem_of_getLast? closed)

/-- Of reported events the last is looked at first. -/
theorem closingEvent?_concat (earlier : List Event) (last : Event) :
    closingEvent? (earlier ++ [last]) =
      if last.isTerminal then some last else closingEvent? earlier := by
  by_cases closes : last.isTerminal = true
  · simp [closingEvent?, closes]
  · simp [closingEvent?, closes]

/-- The last event closed the window exactly if it is one after which a window closes. -/
theorem getLast?_eq_closingEvent?_iff :
    events.getLast? = closingEvent? events ↔
      ∀ last ∈ events.getLast?, last.isTerminal = true := by
  constructor
  · intro same last reported
    rw [same] at reported
    exact (mem_of_closingEvent? reported).2
  · intro terminal
    rcases List.eq_nil_or_concat' events with rfl | ⟨earlier, last, rfl⟩
    · rfl
    · have closes : last.isTerminal = true := terminal last List.getLast?_concat
      rw [closingEvent?_concat, if_pos closes, List.getLast?_concat]

/-- If nothing is reported after the window has closed, the last event closed it as soon as any of
the events did. -/
theorem getLast?_eq_closingEvent?_iff_of_orderly
    (orderly : ∀ event ∈ events.dropLast, event.isTerminal = false) :
    events.getLast? = closingEvent? events ↔
      events = [] ∨ ∃ event ∈ events, event.isTerminal = true := by
  rw [getLast?_eq_closingEvent?_iff]
  rcases List.eq_nil_or_concat' events with rfl | ⟨earlier, last, rfl⟩
  · simp
  · rw [List.dropLast_concat] at orderly
    rw [List.getLast?_concat]
    constructor
    · intro terminal
      exact .inr ⟨last, by simp, terminal last rfl⟩
    · rintro (nothing | ⟨event, reported, closes⟩) _ ⟨⟩
      · simp at nothing
      · rcases List.mem_append.mp reported with before | here
        · rw [orderly event before] at closes
          cases closes
        · rwa [List.mem_singleton.mp here] at closes

/-- A client that shows a valid window results in the last event on the output. This is the event
that closed the window exactly if it is one after which a window closes, or if there is no event at
all. With a renderer that reports nothing after the window has closed, the client goes wrong exactly
when events were reported and the window was then closed without one. -/
theorem showDialog_closing_iff (options : GlobalOptions) (window : Window) (output : Output)
    (script : List (Except Failure Output)) (valid : window.validate = .ok ())
    (decoded : eventsOf output.stdout = .ok events) :
    ((options.showDialog window).play (.ok output :: script)).1 = .ok events.getLast? ∧
      (((options.showDialog window).play (.ok output :: script)).1 = .ok (closingEvent? events) ↔
        ∀ last ∈ events.getLast?, last.isTerminal = true) ∧
      ((∀ event ∈ events.dropLast, event.isTerminal = false) →
        (((options.showDialog window).play (.ok output :: script)).1 =
            .ok (closingEvent? events) ↔
          events = [] ∨ ∃ event ∈ events, event.isTerminal = true)) := by
  have answer : ((options.showDialog window).play (.ok output :: script)).1 =
      .ok events.getLast? := by
    rw [GlobalOptions.showDialog, valid]
    exact congrArg (Except.map List.getLast?) decoded
  simp only [answer, Except.ok.injEq]
  exact ⟨trivial, getLast?_eq_closingEvent?_iff, getLast?_eq_closingEvent?_iff_of_orderly⟩

/-- A change and then a click, each printed on a line: the client results in the click, and the
click closed the window. -/
theorem showDialog_closing_iff_clicked :
    let changed : Event := ⟨.changed, "name", none⟩
    let clicked : Event := ⟨.clicked, "ok", none⟩
    let output : Output :=
      ⟨transcriptOf [(⟨"", .event changed, ""⟩, .newline)] (some ⟨"", .event clicked, ""⟩), ""⟩
    Window.empty.validate = .ok () ∧ eventsOf output.stdout = .ok [changed, clicked] ∧
      (((⟨none, false⟩ : GlobalOptions).showDialog .empty).play [.ok output]).1 =
        .ok (closingEvent? [changed, clicked]) ∧
      closingEvent? [changed, clicked] = some clicked := by
  intro changed clicked output
  have decoded : eventsOf output.stdout = .ok [changed, clicked] := by
    refine eventsOf_printed _ _ fun line inside => ?_
    simp only [List.map_cons, List.map_nil, Option.toList_some, List.cons_append,
      List.nil_append, List.mem_cons, List.not_mem_nil, or_false] at inside
    rcases inside with rfl | rfl
    · exact ⟨rfl, ⟨by simp [changed], nofun⟩, rfl⟩
    · exact ⟨rfl, ⟨by simp [clicked], nofun⟩, rfl⟩
  obtain ⟨-, closed, -⟩ := showDialog_closing_iff ⟨none, false⟩ .empty output [] rfl decoded
  refine ⟨rfl, decoded, closed.mpr ?_, rfl⟩
  rintro _ ⟨⟩
  rfl

/-- After a change the window is closed without an event, and the client results in the change. -/
theorem showDialog_stale :
    ∃ event : Event,
      (((⟨none, false⟩ : GlobalOptions).showDialog .empty).play
        [.ok ⟨"\x7b\"type\":\"changed\",\"from\":\"name\"\x7d\n", ""⟩]).1 = .ok (some event) ∧
      event.isTerminal = false :=
  ⟨⟨.changed, "name", none⟩, by with_unfolding_all rfl, rfl⟩

end Dialogs
