import Dialogs.Cli.Program

/-!
# Deadlines of sessions

A configuration admits any limit of the unsigned 64-bit range, in seconds. Running a renderer once
copes with all of them, since only the time that has passed is compared with the limit. A session
has a deadline instead: it adds the limit to the time at which it starts, and a clock holds no more
seconds than the signed 64-bit range has. A run that follows a session is aborted there after the
renderer has been started, where the same configuration shows the dialog in one run.

This module says exactly which limits abort a session that starts at a given time.
-/

namespace Dialogs

/-! ### Limits and deadlines -/

namespace Session

/-- A session can start under a limit exactly if its deadline is in the range of the clock. -/
theorem fits_iff (now limit : Nat) : fits now (some limit) = true ↔ now + limit ≤ lastInstant := by
  rw [fits, Option.all_some, deadline?]
  -- Only the name of the bound matters here, and its value is too large to compute with.
  generalize lastInstant = last
  split <;> simp_all

/-- A limit of whole seconds leads to a deadline exactly if the whole seconds of the clock and those
of the limit together are in the range of the clock. The rest of a second makes no difference. -/
theorem fits_seconds (now seconds : Nat) :
    fits now (some (seconds * 1000000000)) = true ↔ now / 1000000000 + seconds < 9223372036854775808 := by
  have range : lastInstant + 1 = 9223372036854775808 * 1000000000 := by decide
  rw [fits_iff, ← Nat.lt_succ_iff, Nat.succ_eq_add_one, range,
    ← Nat.div_lt_iff_lt_mul (by decide), Nat.add_mul_div_right _ _ (by decide)]

end Session

/-- A single run under a limit always comes to an end: with what the renderer made of it, if all of
that took less than the limit, or else because of the limit. -/
theorem Runner.run_limited {runner : Runner} {launcher : Launcher} {invocation : Invocation}
    {renderer : Renderer} {limit : Nat} (limited : runner.limit = some limit)
    (started : runner.start launcher invocation.args = .ok renderer) :
    let behaviour := renderer (Feed.ofInput invocation.input)
    runner.run launcher invocation =
      some (if behaviour.finish.any (· < limit) then behaviour.output
        else .error (.timeout limit)) := by
  intro behaviour
  have concluded : runner.run launcher invocation = behaviour.conclude (some limit) := by
    rw [Runner.run, started, ← limited]
  rw [concluded]
  cases finished : behaviour.finish <;> simp [Behaviour.conclude, finished]

namespace Cli

variable {connection : Connection} {config : Config} {launcher : Launcher} {outcome : Outcome}
  {json : Bool}

/-! ### Runs that are not aborted -/

/-- A call that is concluded without aborting does not abort the run. -/
theorem Connection.finish_conclude {α : Type} {call : Call α} {conclude : α → Outcome}
    (concluded : ∀ value, (conclude value).finish ≠ .aborted) :
    (connection.conclude call conclude).map Outcome.finish ≠ some .aborted := by
  rw [Connection.conclude, Option.map_map, Ne, Option.map_eq_some_iff]
  rintro ⟨result, -, aborted⟩
  cases result with
  | ok value => exact concluded value aborted
  | error failure => cases aborted

/-- Printing the last event does not abort a run. -/
theorem Outcome.finish_ofLastEvent (json : Bool) (event : Option Event) :
    (Outcome.ofLastEvent json event).finish ≠ .aborted := by
  cases event <;> exact nofun

/-- A document that is shown in a single run does not abort it, whatever the limit. -/
theorem Connection.finish_showDocument (connection : Connection) (now : Nat) (document : Json)
    (json unchecked : Bool) :
    (connection.showDocument now document false json unchecked).map Outcome.finish ≠
      some .aborted := by
  have concluded := Outcome.finish_ofLastEvent json
  rw [Connection.showDocument]
  split
  · exact Connection.finish_conclude concluded
  · split
    · exact nofun
    · exact nofun
    · exact Connection.finish_conclude concluded

/-- Following a session that has started does not abort the run. -/
theorem Connection.finish_follow (fuel : Nat) (printed : String) (session : Session) :
    (Connection.follow json fuel printed session).map Outcome.finish ≠ some .aborted := by
  induction fuel generalizing printed session with
  | zero => exact nofun
  | succ fuel inductionHypothesis =>
    rw [Connection.follow]
    cases session.next with
    | none => exact nofun
    | some step =>
      obtain ⟨result, after⟩ := step
      match result with
      | .error failure => exact nofun
      | .ok (some event) => exact inductionHypothesis _ after
      | .ok none =>
        cases waited : after.wait with
        | none => simp [waited]
        | some verdict =>
          match verdict with
          | .ok () => simp [waited]
          | .error failure => cases failure <;> simp [waited]

/-! ### Runs that are aborted -/

/-- A run that follows a session is aborted exactly if the renderer can be started and the limit
leads beyond the range of the clock. -/
theorem Connection.finish_showFollowingFrom_iff (now : Nat) (window : Window) :
    (connection.showFollowingFrom now window json).map Outcome.finish = some .aborted ↔
      (∃ renderer, connection.runner.start connection.launcher
        (Command.stdin.args connection.options) = .ok renderer) ∧
      Session.fits now connection.runner.limit = false := by
  rw [Connection.showFollowingFrom]
  cases connection.runner.start connection.launcher (Command.stdin.args connection.options) with
  | error failure => simp [Outcome.failed]
  | ok renderer =>
    by_cases fits : Session.fits now connection.runner.limit = true
    · cases sent : (Session.start renderer connection.runner.limit true).send window with
      | none => simp [fits, sent]
      | some step =>
        obtain ⟨result, session⟩ := step
        cases result with
        | error failure => simp [fits, sent]
        | ok done =>
          have goesOn : (Connection.follow json (session.unread.length + 2) "" session).map
              Outcome.finish ≠ some .aborted := Connection.finish_follow _ _ _
          simpa [fits, sent] using goesOn
    · simp [fits]

/-- The connection of a configuration starts the renderer of the configuration, under its limit.
There is none if the executable is blank. -/
theorem Connection.ofConfig_eq_ok_iff :
    Connection.ofConfig config launcher = .ok connection ↔
      Text.isAllBlank config.executable = false ∧
        connection =
          ⟨⟨config.executable, config.args, config.timeoutNanos⟩, config.options, launcher⟩ := by
  rw [Connection.ofConfig, Runner.ofConfig, Config.requireExecutable]
  cases Text.isAllBlank config.executable <;>
    simp [bind, Except.bind, pure, Except.pure, eq_comm]

/-! ### Main result -/

/-- A resolved configuration may have any limit. Shown in a single run, a document never aborts the
program, and the run of a renderer that starts is concluded in time or by the limit. Followed in a
session that starts `now`, a window aborts the program exactly if the renderer starts, there is a
limit, and the whole seconds of the clock and of the limit together do not fit 63 bits. -/
theorem session_aborts_iff {flags : Flags} {settings : Settings} {base : Config}
    {launcher : Launcher} {connection : Connection}
    (connected : Connection.ofConfig (flags.resolve settings base) launcher = .ok connection) :
    (∀ (now : Nat) (document : Json) (json unchecked : Bool),
        (connection.showDocument now document false json unchecked).map Outcome.finish ≠
          some .aborted) ∧
      (∀ (seconds : UInt64) (invocation : Invocation) (renderer : Renderer),
        (flags.resolve settings base).timeoutSecs = some seconds →
          connection.runner.start launcher invocation.args = .ok renderer →
            let behaviour := renderer (Feed.ofInput invocation.input)
            let limit := seconds.toNat * 1000000000
            connection.runner.run launcher invocation =
              some (if behaviour.finish.any (· < limit) then behaviour.output
                else .error (.timeout limit))) ∧
      ∀ (now : Nat) (window : Window) (json : Bool),
        (connection.showFollowingFrom now window json).map Outcome.finish = some .aborted ↔
          (∃ renderer, connection.runner.start launcher
            (Command.stdin.args connection.options) = .ok renderer) ∧
          ∃ seconds, (flags.resolve settings base).timeoutSecs = some seconds ∧
            9223372036854775808 ≤ now / 1000000000 + seconds.toNat := by
  obtain ⟨-, same⟩ := Connection.ofConfig_eq_ok_iff.mp connected
  have limit : connection.runner.limit = (flags.resolve settings base).timeoutNanos := by rw [same]
  have launched : connection.launcher = launcher := by rw [same]
  refine ⟨connection.finish_showDocument, ?_, ?_⟩
  · intro seconds invocation renderer limited started
    exact Runner.run_limited (by rw [limit, Config.timeoutNanos, limited, Option.map_some]) started
  · intro now window json
    rw [Connection.finish_showFollowingFrom_iff, launched, limit, Config.timeoutNanos]
    cases (flags.resolve settings base).timeoutSecs with
    | none => simp [Session.fits]
    | some seconds =>
      rw [Option.map_some, ← Bool.not_eq_true, Session.fits_seconds, Nat.not_lt]
      simp

/-- A renderer that takes its document, prints nothing and ends well, all at once. -/
def silentRenderer : Renderer := fun _ => ⟨[], [], some 0, some ⟨0, some 0⟩, .taken 0⟩

/-- Just before the clock shows two seconds, the longest limit that does not abort a session is one
of `2 ^ 63 - 2` seconds. -/
theorem session_aborts_iff_longest :
    let config (seconds : UInt64) : Config :=
      (⟨none, none, false, some seconds, none⟩ : Flags).resolve .empty .default
    let connection (seconds : UInt64) : Connection :=
      ⟨⟨"tanto", [], some (seconds.toNat * 1000000000)⟩, ⟨none, false⟩,
        fun _ _ => .ok silentRenderer⟩
    (Connection.ofConfig (config 9223372036854775806) (fun _ _ => .ok silentRenderer) =
        .ok (connection 9223372036854775806) ∧
      ((connection 9223372036854775806).showFollowingFrom 1999999999 .empty false).map
        Outcome.finish ≠ some .aborted) ∧
      Connection.ofConfig (config 9223372036854775807) (fun _ _ => .ok silentRenderer) =
        .ok (connection 9223372036854775807) ∧
      ((connection 9223372036854775807).showFollowingFrom 1999999999 .empty false).map
        Outcome.finish = some .aborted := by
  intro config connection
  have connected (seconds : UInt64) : Connection.ofConfig (config seconds)
      (fun _ _ => .ok silentRenderer) = .ok (connection seconds) :=
    have usable : Text.isAllBlank Config.defaultExecutable = false := by decide
    Connection.ofConfig_eq_ok_iff.mpr ⟨usable, rfl⟩
  obtain ⟨-, -, fits⟩ := session_aborts_iff (connected 9223372036854775806)
  obtain ⟨-, -, aborts⟩ := session_aborts_iff (connected 9223372036854775807)
  refine ⟨⟨connected _, ?_⟩, connected _, (aborts _ _ _).mpr ⟨⟨silentRenderer, rfl⟩, _, rfl, ?_⟩⟩
  · rw [Ne, fits]
    rintro ⟨-, seconds, limited, beyond⟩
    obtain rfl := Option.some.inj limited
    exact absurd beyond (by decide)
  · decide

/-- The longest limit of all aborts the program when it follows the dialog, where the dialog is
shown without fault in a single run. -/
theorem longest_limit_aborts :
    let arguments := ["--timeout", "18446744073709551615"]
    ∃ shown followed : CommandLine, ∃ connection : Connection,
      CommandLine.parse ("show" :: arguments) = .ok shown ∧
      CommandLine.parse ("show" :: "--follow" :: arguments) = .ok followed ∧
      shown.flags = followed.flags ∧
      Connection.ofConfig (shown.flags.resolve .empty .default)
        (fun _ _ => .ok silentRenderer) = .ok connection ∧
      connection.showDocument 1000000000 (.object [("type", .string "window")]) false false false =
        some { stderr := "Window closed without an event\n" } ∧
      connection.showDocument 1000000000 (.object [("type", .string "window")]) true false false =
        some { finish := .aborted } := by
  refine ⟨_, _, _, rfl, rfl, rfl, Connection.ofConfig_eq_ok_iff.mpr ⟨by decide, rfl⟩, ?_, ?_⟩
  · decide +kernel
  · decide +kernel

end Cli

end Dialogs
