import Inertial.Demo.Outcome
import Inertial.Setting

/-!
A simulated driver that spins about the third axis, with gravity along it. Its program describes
the sensor and sums up how many samples were taken; taking samples over time is left to callers.
-/

namespace Inertial.Demo.Spin

/-- The rate of turning, in radians per second. -/
def rate : Double := 0.5

/-- Brings a storage to the state at a time in seconds. -/
def update (storage : Storage) (memory : Memory) (time : Double) : Memory :=
  let half := 0.5 * rate * time
  let memory := storage.store memory .orientation #v[0, 0, half.sin, half.cos]
  let memory := storage.store memory .angularVelocity #v[0, 0, rate]
  storage.store memory .linearAcceleration #v[0.02 * (7.0 * time).sin, 0, 9.81]

/-- The full reading of a new storage after each of the updates. -/
def readings (times : List Double) : List Reading :=
  let (memory, storage) := Storage.allocate .empty
  let handle := Handle.ofDescriptor (.ofStorage storage "imu" "imu_link")
  let step (state : Memory × List Reading) (time : Double) : Memory × List Reading :=
    let memory := update storage state.1 time
    (memory, state.2 ++ [handle.read memory])
  (times.foldl step (memory, [])).2

def description (handle : Handle) : List String :=
  [s!"Name:         {handle.name}", s!"Frame:        {handle.frame}",
    s!"Capabilities: {handle.capabilities.inspect}", ""]

/-- The closing lines of a program that took no samples, which takes no time either. -/
def emptySummary : List String := ["", "Total: 0 samples in 0.0s (0.0 Hz)"]

/-- Describes the sensor, in the frame that the settings name. There is no outcome if samples are
to be taken, because they depend on the clock.
-/
def outcome? (environment : Environment) : Option Outcome :=
  let samples := environment.count "IMU_DEMO_SAMPLES" 500
  let frame := environment.word "IMU_DEMO_FRAME" "imu_link"
  let (_, storage) := Storage.allocate .empty
  let registry := (Registry.empty.register (.ofStorage storage "imu" frame)).result
  if samples = 0 then
    some (.withHandle (registry.lookup "imu").result fun handle =>
      .printed (lines (description handle ++ emptySummary)))
  else
    none

end Inertial.Demo.Spin
