import Inertial.Demo.JsonLines
import Inertial.Demo.Listing
import Inertial.Demo.Spin

/-! The demonstration programs by name. -/

namespace Inertial.Demo

/-- The outcome of a program, if there is one of this name and its outcome hangs on nothing but
the settings.
-/
def outcome? (program : String) (environment : Environment) : Option Outcome :=
  match program with
  | "enumerate" => some Listing.outcome
  | "stream_json" => some (JsonLines.outcome .standard environment)
  | "stream" => Spin.outcome? environment
  | _ => none

end Inertial.Demo
