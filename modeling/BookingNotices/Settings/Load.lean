import BookingNotices.Settings.Basic
import BookingNotices.Settings.Lenient
import BookingNotices.Settings.Variables

/-!
# Settings that a process starts with

* `Settings.load`        : the settings in an environment, if they are complete and fit;
* `Settings.LoadProblem` : why there are none.
-/

namespace BookingNotices.Settings

/-- Why a process has no settings to start with. -/
inductive LoadProblem where
  /-- a variable means an item before the first one -/
  | misplaced
  | unreadable (p : Lenient.Problem)
  | invalid (p : Problem)

def LoadProblem.message : LoadProblem → String
  | .misplaced => "Configuration loading failed: no item stands before the first one"
  | .unreadable p => "Configuration loading failed: " ++ p.message
  | .invalid p => "Validation failed: " ++ p.message

/-- The settings in an environment. -/
def load (environment : List (String × String)) : Except LoadProblem Settings :=
  match Variables.ofEnvironment environment with
  | none => .error .misplaced
  | some e =>
    match shape.ofEntry [] e with
    | .error p => .error (.unreadable p)
    | .ok v =>
      let settings : Settings := .ofValue v
      match settings.validate with
      | .error p => .error (.invalid p)
      | .ok () => .ok settings

end BookingNotices.Settings
