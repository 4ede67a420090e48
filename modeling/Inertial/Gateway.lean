import Inertial.Gateway.LastError
import Inertial.Sample

/-!
The gateway for callers that pass references and zero-terminated bytes and get status numbers back.
Any reference may be null. A call checks its arguments in a fixed order; the first check that fails
decides the message of the last error, and a failed call changes nothing else.
-/

namespace Inertial

/-- The callers' arrays, the registries they hold references to, and the last error. -/
structure Gateway where
  memory : Memory
  arrays : NameMap SizedBuffer
  registries : NameMap Registry
  lastError : Gateway.LastError

namespace Gateway

def empty : Gateway := ⟨.empty, ∅, ∅, .none⟩

-----------------------------------------------------------------------------------------
-- Arguments
-----------------------------------------------------------------------------------------

/-- A reference to something with a name, or null. -/
abbrev Reference := Option String

/-- Bytes that end at their first zero byte, or null. -/
abbrev RawText := Option (List UInt8)

def decodeRaw (bytes : List UInt8) : String := Text.decodeLossy (Text.untilZero bytes)

/-- A sensor as callers describe it. A null frame is an empty one, and a null array means that the
sensor does not provide the channel.
-/
structure SensorRecord where
  name : RawText
  frame : RawText
  arrays : Channel → Reference

/-- The argument, unless it is null. -/
def required {Value : Type} (argument : Argument) : Option Value → Except CallFailure Value
  | some value => .ok value
  | none => .error (.null argument)

/-- The registry that a reference leads to. A reference to a registry that was freed, or that never
existed, counts as null.
-/
def registry (gateway : Gateway) (reference : Reference)
    : Except CallFailure (String × Registry) :=
  required .registry
    (reference.bind fun name => gateway.registries[name]?.map fun registry => (name, registry))

/-- The descriptor of a sensor. Each channel refers to the first elements of its array, which has to
exist and to be long enough.
-/
def descriptor? (gateway : Gateway) (sensor : SensorRecord) (name : List UInt8)
    : Option Descriptor :=
  let frame := (sensor.frame.map decodeRaw).getD ""
  Descriptor.find? (decodeRaw name) frame sensor.arrays fun channel array =>
    gateway.arrays[array]?.bind fun sized => sized.first? channel.size

-----------------------------------------------------------------------------------------
-- Calls
-----------------------------------------------------------------------------------------

inductive Call where
  | newArray (array : String) (size : Nat) (values : Vector Double size)
  | writeArray (array : String) (index : Nat) (value : Double)
  | newRegistry (registry : String)
  | freeRegistry (registry : Reference)
  | register (registry : Reference) (sensor : Option SensorRecord)
  | size (registry : Reference)
  | capabilities (registry : Reference) (name : RawText)
  | read (registry : Reference) (name : RawText) (output : Option Sample)
  | lastError

/-- What a caller gets back: a status number where there is one, and the output sample, if one was
passed, as the call left it. A call is `rejected` when it refers to arrays that do not exist or are
too short.
-/
inductive Outcome where
  | done
  | rejected
  | status (code : Int)
  | sampled (code : Int) (output : Option Sample)

/-- The status of every failed call. -/
def failed : Int := -1

/-- The largest status number. -/
def largestStatus : Nat := 2147483647

def fail (gateway : Gateway) (failure : CallFailure) : Gateway :=
  { gateway with lastError := .ofFailure failure }

/-- The arguments of a registration that passed all checks. -/
def registration (gateway : Gateway) (reference : Reference) (sensor : Option SensorRecord)
    : Except CallFailure (String × Registry × SensorRecord × List UInt8) := do
  let (registryName, registry) ← gateway.registry reference
  let sensor ← required .sensorDescriptor sensor
  let name ← required .sensorName sensor.name
  return (registryName, registry, sensor, name)

def register (gateway : Gateway) (reference : Reference) (sensor : Option SensorRecord)
    : Logged (Gateway × Outcome) :=
  match gateway.registration reference sensor with
  | .error failure => ⟨(gateway.fail failure, .status failed), []⟩
  | .ok (registryName, registry, sensor, name) =>
      match gateway.descriptor? sensor name with
      | none => ⟨(gateway, .rejected), []⟩
      | some descriptor =>
          let ⟨changed, records⟩ := registry.register descriptor
          let registries := gateway.registries.insert registryName changed
          ⟨({ gateway with registries }, .status 0), records⟩

/-- Looks up a sensor by its raw name. -/
def lookup (gateway : Gateway) (reference : Reference) (name : RawText)
    : Logged (Except CallFailure Handle) :=
  let request : Except CallFailure (Registry × String) := do
    let (_, registry) ← gateway.registry reference
    let name ← required .sensorName name
    return (registry, decodeRaw name)
  match request with
  | .error failure => ⟨.error failure, []⟩
  | .ok (registry, name) =>
      let ⟨found, records⟩ := registry.lookup name
      ⟨found.mapError .notFound, records⟩

def size (gateway : Gateway) (reference : Reference) : Gateway × Outcome :=
  match gateway.registry reference with
  | .error failure => (gateway.fail failure, .status failed)
  | .ok (_, registry) => (gateway, .status (min registry.size largestStatus : Nat))

def capabilities (gateway : Gateway) (reference : Reference) (name : RawText)
    : Logged (Gateway × Outcome) :=
  let ⟨found, records⟩ := gateway.lookup reference name
  match found with
  | .error failure => ⟨(gateway.fail failure, .status failed), records⟩
  | .ok handle => ⟨(gateway, .status handle.capabilities.bits.toNat), records⟩

/-- Fills the output sample, if there is one and the sensor is found. -/
def read (gateway : Gateway) (reference : Reference) (name : RawText) (output : Option Sample)
    : Logged (Gateway × Outcome) :=
  match output with
  | none => ⟨(gateway.fail (.null .outputSample), .sampled failed none), []⟩
  | some untouched =>
      let ⟨found, records⟩ := gateway.lookup reference name
      match found with
      | .error failure => ⟨(gateway.fail failure, .sampled failed (some untouched)), records⟩
      | .ok handle =>
          ⟨(gateway, .sampled 0 (some (.ofHandle handle gateway.memory))), records⟩

def writeArray (gateway : Gateway) (array : String) (index : Nat) (value : Double)
    : Gateway × Outcome :=
  match gateway.arrays[array]? with
  | none => (gateway, .rejected)
  | some sized =>
      if inRange : index < sized.size then
        let memory := gateway.memory.write sized.buffer ⟨index, inRange⟩ value
        ({ gateway with memory }, .done)
      else
        (gateway, .rejected)

def step (gateway : Gateway) : Call → Logged (Gateway × Outcome)
  | .newArray array size values =>
      let (memory, buffer) := gateway.memory.allocate values
      let arrays := gateway.arrays.insert array ⟨size, buffer⟩
      ⟨({ gateway with memory, arrays }, .done), []⟩
  | .writeArray array index value => ⟨gateway.writeArray array index value, []⟩
  | .newRegistry name =>
      ⟨({ gateway with registries := gateway.registries.insert name .empty }, .done), []⟩
  | .freeRegistry none => ⟨(gateway, .done), []⟩
  | .freeRegistry (some name) =>
      ⟨({ gateway with registries := gateway.registries.erase name }, .done), []⟩
  | .register registry sensor => gateway.register registry sensor
  | .size registry => ⟨gateway.size registry, []⟩
  | .capabilities registry name => gateway.capabilities registry name
  | .read registry name output => gateway.read registry name output
  | .lastError => ⟨(gateway, .done), []⟩

/-- What shows after a call: its outcome, the text of the last error and what was reported. -/
structure Observation where
  outcome : Outcome
  lastError : Option String
  records : List LogRecord

def run (gateway : Gateway) : List Call → Gateway × List Observation
  | [] => (gateway, [])
  | call :: rest =>
      let ⟨(next, outcome), records⟩ := gateway.step call
      let (final, observations) := next.run rest
      (final, ⟨outcome, next.lastError.text?, records⟩ :: observations)

end Gateway

end Inertial
