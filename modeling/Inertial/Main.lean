import Inertial.Demo

/-! The command line: runs the demonstration that its argument names. -/

namespace Inertial

/-- The settings of the demonstrations, as the process finds them when it starts. -/
def processEnvironment : IO Environment := do
  let names := ["IMU_DEMO_SAMPLES", "IMU_DEMO_INTERVAL_MS", "IMU_DEMO_FRAME"]
  let settings ← names.mapM fun name => return (name, ← IO.getEnv name)
  return ⟨fun name => ((settings.lookup name).bind id).map Text.utf8Bytes⟩

end Inertial

def main (arguments : List String) : IO UInt32 := do
  let environment ← Inertial.processEnvironment
  let outcome? := arguments.head?.bind fun program => Inertial.Demo.outcome? program environment
  match outcome? with
  | none =>
      IO.eprintln "usage: enumerate | stream_json | stream (with IMU_DEMO_SAMPLES=0)"
      return 2
  | some outcome =>
      IO.print outcome.output
      return .ofNat outcome.exitCode
