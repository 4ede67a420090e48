import Inertial.Gateway
import Inertial.Proofs.Registry.Operations

/-! What each call of a gateway does with its arguments once they are checked. Later proofs use
these laws and do not open the calls again.
-/

namespace Inertial.Gateway

variable (gateway : Gateway)

/-- What a call gives back. -/
def outcome (call : Call) : Outcome := (gateway.step call).result.2

/-- The gateway as a call leaves it. -/
def next (call : Call) : Gateway := (gateway.step call).result.1

theorem run_append (earlier later : List Call)
    : (gateway.run (earlier ++ later)).1 = ((gateway.run earlier).1.run later).1 := by
  induction earlier generalizing gateway with
  | nil => rfl
  | cons call rest ih => exact ih (gateway.next call)

/-- The registry that a reference leads to, with its name, unless the reference is null or the
registry is gone.
-/
def live? (reference : Reference) : Option (String × Registry) :=
  reference.bind fun name => gateway.registries[name]?.map fun registry => (name, registry)

theorem registry_result (reference : Reference)
    : gateway.registry reference
      = match gateway.live? reference with
        | none => .error (.null .registry)
        | some entry => .ok entry := by
  simp only [Gateway.registry, live?]
  cases reference.bind fun name =>
    gateway.registries[name]?.map fun registry => (name, registry) <;> rfl

theorem lookup_result (reference : Reference) (name : RawText)
    : (gateway.lookup reference name).result
      = match gateway.live? reference, name with
        | none, _ => .error (.null .registry)
        | some _, none => .error (.null .sensorName)
        | some (_, registry), some name =>
            ((registry.lookup (decodeRaw name)).result).mapError .notFound := by
  simp only [lookup, registry_result]
  cases gateway.live? reference with
  | none => rfl
  | some entry => cases name <;> rfl

theorem registration_result (reference : Reference) (sensor : Option SensorRecord)
    : gateway.registration reference sensor
      = match gateway.live? reference, sensor with
        | none, _ => .error (.null .registry)
        | some _, none => .error (.null .sensorDescriptor)
        | some (registryName, registry), some sensor =>
            match sensor.name with
            | none => .error (.null .sensorName)
            | some name => .ok (registryName, registry, sensor, name) := by
  simp only [registration, registry_result]
  cases gateway.live? reference with
  | none => rfl
  | some entry =>
      cases sensor with
      | none => rfl
      | some sensor =>
          obtain ⟨name, frame, arrays⟩ := sensor
          cases name <;> rfl

theorem register_result (reference : Reference) (sensor : Option SensorRecord)
    : (gateway.register reference sensor).result
      = match gateway.registration reference sensor with
        | .error failure => (gateway.fail failure, .status failed)
        | .ok (registryName, registry, sensor, name) =>
            match gateway.descriptor? sensor name with
            | none => (gateway, .rejected)
            | some descriptor =>
                let changed := (registry.register descriptor).result
                ({ gateway with registries := gateway.registries.insert registryName changed },
                  .status 0) := by
  simp only [register]
  cases gateway.registration reference sensor with
  | error failure => rfl
  | ok arguments =>
      obtain ⟨registryName, registry, sensor, name⟩ := arguments
      simp only
      cases gateway.descriptor? sensor name <;> rfl

theorem capabilities_result (reference : Reference) (name : RawText)
    : (gateway.capabilities reference name).result
      = match (gateway.lookup reference name).result with
        | .error failure => (gateway.fail failure, .status failed)
        | .ok handle => (gateway, .status handle.capabilities.bits.toNat) := by
  simp only [capabilities]
  cases (gateway.lookup reference name).result <;> rfl

theorem read_result (reference : Reference) (name : RawText) (output : Sample)
    : (gateway.read reference name (some output)).result
      = match (gateway.lookup reference name).result with
        | .error failure => (gateway.fail failure, .sampled failed (some output))
        | .ok handle => (gateway, .sampled 0 (some (.ofHandle handle gateway.memory))) := by
  simp only [read]
  cases (gateway.lookup reference name).result <;> rfl

theorem size_result (reference : Reference)
    : gateway.size reference
      = match gateway.live? reference with
        | none => (gateway.fail (.null .registry), .status failed)
        | some (_, registry) => (gateway, .status (min registry.size largestStatus : Nat)) := by
  simp only [size, registry_result]
  cases gateway.live? reference <;> rfl

theorem outcome_capabilities (reference : Reference) (name : RawText)
    : gateway.outcome (.capabilities reference name)
      = match (gateway.lookup reference name).result with
        | .error _ => .status failed
        | .ok handle => .status handle.capabilities.bits.toNat := by
  rw [outcome, step, capabilities_result]
  cases (gateway.lookup reference name).result <;> rfl

theorem outcome_read (reference : Reference) (name : RawText) (output : Sample)
    : gateway.outcome (.read reference name (some output))
      = match (gateway.lookup reference name).result with
        | .error _ => .sampled failed (some output)
        | .ok handle => .sampled 0 (some (.ofHandle handle gateway.memory)) := by
  rw [outcome, step, read_result]
  cases (gateway.lookup reference name).result <;> rfl

/-- The two differ at most in the last error. -/
def DiffersInError (before after : Gateway) : Prop :=
  after.memory = before.memory
  ∧ after.arrays = before.arrays
  ∧ after.registries = before.registries

theorem size_next (reference : Reference)
    : gateway.DiffersInError (gateway.next (.size reference)) := by
  simp only [next, step, size_result]
  cases gateway.live? reference <;> exact ⟨rfl, rfl, rfl⟩

theorem capabilities_next (reference : Reference) (name : RawText)
    : gateway.DiffersInError (gateway.next (.capabilities reference name)) := by
  simp only [next, step, capabilities_result]
  cases (gateway.lookup reference name).result <;> exact ⟨rfl, rfl, rfl⟩

theorem read_next (reference : Reference) (name : RawText) (output : Option Sample)
    : gateway.DiffersInError (gateway.next (.read reference name output)) := by
  cases output with
  | none => exact ⟨rfl, rfl, rfl⟩
  | some output =>
      simp only [next, step, read_result]
      cases (gateway.lookup reference name).result <;> exact ⟨rfl, rfl, rfl⟩

end Inertial.Gateway
