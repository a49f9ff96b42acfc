import Dialogs.Cli.Program

/-!
# The demonstration

A program that shows three buttons and prints which of them was clicked.
-/

namespace Dialogs.Cli.Buttons

/-- The dialog of the demonstration. -/
def dialog : Window :=
  ((Window.empty.withSize 500 400).withFixed true).withBody
    (Widget.column
      [.widget (.button "mybutton1" "Click 1"), .widget (.button "mybutton2" "Click 2"),
       .widget (.button "mybutton3" "Click 3")])

/-- What the demonstration prints. -/
def conclude : Except Failure (Option Event) → Outcome
  | .ok (some event) => .line event.message
  | .ok none => .line Outcome.withoutEvent
  | .error failure =>
    .failed ((Report.ofFailure failure).within "failed to show the buttons dialog")

/-- Shows the dialog. -/
def perform (surroundings : Surroundings) : Option Outcome :=
  match surroundings.withVariableFile? with
  | none => some { finish := .aborted }
  | some complete =>
    match complete.config with
    | .error _ => some { finish := .aborted }
    | .ok config =>
      match Connection.ofConfig config complete.setting.launcher with
      | .error failure => some (.failed (.ofFailure failure))
      | .ok connection =>
        (connection.runner.perform connection.launcher (connection.options.showDialog dialog)).map
          conclude

/-- Runs the demonstration. First it complains about the filter of the log. -/
def run (surroundings : Surroundings) : Option Outcome :=
  match LogFilter.complaints ((surroundings.lookup "RUST_LOG").getD "") with
  | none => some { finish := .aborted }
  | some complaints =>
    (perform surroundings).map fun outcome => { outcome with stderr := complaints ++ outcome.stderr }

end Dialogs.Cli.Buttons
