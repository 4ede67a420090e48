import Inertial.Demo.Outcome

/-!
A listing of three sensors that differ in what they provide, and of a look-up that fails.
-/

namespace Inertial.Demo.Listing

/-- A registry with a full sensor, one without an orientation estimate, and a placeholder. -/
def registry : Registry :=
  let (memory, base) := Storage.allocate .empty
  let (memory, gyroscope) := memory.allocate #v[0, 0, 0]
  let (_, accelerometer) := memory.allocate #v[0, 0, 9.81]
  let wrist : Descriptor :=
    { Descriptor.bare "wrist_imu" "wrist_link" with
      angularVelocity := some gyroscope
      linearAcceleration := some accelerometer }
  let sensors :=
    [Descriptor.ofStorage base "base_imu" "base_link", wrist,
      Descriptor.bare "placeholder_imu" "world"]
  sensors.foldl (fun registry sensor => (registry.register sensor).result) .empty

def sensorLine (index : Nat) (handle : Handle) : String :=
  s!"  [{index}] name={handle.name}  frame={handle.frame}  "
    ++ s!"capabilities={handle.capabilities.inspect} ({handle.capabilities.hexadecimal 2})"

/-- One line for each sensor, and one for the failure. -/
def outcome : Outcome :=
  let heading := s!"Found {registry.size} IMU sensor(s):"
  let sensors := registry.sensors.mapIdx sensorLine
  let failures :=
    match (registry.lookup "head_imu").result with
    | .error failure => [s!"Lookup of an unregistered sensor: {failure.message}"]
    | .ok _ => []
  .printed (lines (heading :: sensors ++ failures))

end Inertial.Demo.Listing
