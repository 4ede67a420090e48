import Inertial.Capabilities

/-!
What a registry reports of its operations: each record has a level and a message.
-/

namespace Inertial

inductive LogLevel where
  | trace
  | debug
  | warning
deriving DecidableEq

def LogLevel.label : LogLevel → String
  | trace => "TRACE"
  | debug => "DEBUG"
  | warning => "WARN"

inductive LogRecord where
  | registering (name frame : String) (capabilities : Capabilities)
  | replacing (name : String)
  | found (name : String)
  | missing (name : String)
  | unregistered (name : String)
deriving DecidableEq

namespace LogRecord

def level : LogRecord → LogLevel
  | registering .. => .debug
  | replacing _ => .warning
  | found _ => .trace
  | missing _ => .debug
  | unregistered _ => .debug

def message : LogRecord → String
  | registering name frame capabilities =>
      s!"Registering IMU sensor '{name}' (frame={frame}, capabilities={capabilities.inspect})"
  | replacing name => s!"IMU sensor '{name}' was already registered; replacing it"
  | found name => s!"Lookup of IMU sensor '{name}'"
  | missing name => s!"IMU sensor '{name}' is not registered"
  | unregistered name => s!"Unregistered IMU sensor '{name}'"

end LogRecord

/-- A result together with what was reported on the way to it, first record first. -/
structure Logged (Result : Type) where
  result : Result
  records : List LogRecord

end Inertial
