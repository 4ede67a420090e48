import Inertial.Registry

/-! What a demonstration leaves behind when it ends. -/

namespace Inertial.Demo

/-- The exit code of a program and its standard output. -/
structure Outcome where
  exitCode : Nat
  output : String
deriving DecidableEq

namespace Outcome

def printed (output : String) : Outcome := ⟨0, output⟩

/-- Continues with the handle that was looked up; without one the program ends with code 1. -/
def withHandle (found : Except NotFound Handle) (next : Handle → Outcome) : Outcome :=
  match found with
  | .error _ => ⟨1, ""⟩
  | .ok handle => next handle

end Outcome

/-- Lines of text, each with a line break after it. -/
def lines (content : List String) : String := String.join (content.map (· ++ "\n"))

end Inertial.Demo
