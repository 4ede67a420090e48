import Inertial.Proofs.Gateway.Effects
import Inertial.Proofs.Gateway.ErrorProtocol
import Inertial.Proofs.Registry.AuditTrail

/-! What calls report. A call reports what the operation that it stands for reports on its registry,
and a call with a null argument reports nothing.
-/

namespace Inertial.Gateway

/-- The operation that a call stands for, with the registry in use that it is made on. -/
def request? (gateway : Gateway) (call : Call) : Option (Registry × Registry.Operation) :=
  (gateway.operation? call).bind fun (target, operation) =>
    gateway.registries[target]?.map fun registry => (registry, operation)

/-- What there is to say of a call. -/
def account (gateway : Gateway) (call : Call) : List LogLine :=
  match gateway.request? call with
  | some (registry, operation) => registry.account operation
  | none => []

/-- The registry that a call is made on. -/
def Call.target? : Call → Option String
  | register registry _ => registry
  | size registry => registry
  | capabilities registry _ => registry
  | read registry _ _ => registry
  | _ => none

/-- What the calls on the registry of this name report in a run. -/
def reportsOn (gateway : Gateway) (name : String) (calls : List Call) : List LogRecord :=
  (calls.zip (gateway.run calls).2).flatMap fun (call, observation) =>
    if call.target? = some name then observation.records else []

variable {gateway : Gateway}

theorem lookup_records (reference : Reference) (raw : RawText)
    : (gateway.lookup reference raw).records
      = match gateway.live? reference, raw with
        | some (_, registry), some raw => (registry.lookup (decodeRaw raw)).records
        | _, _ => [] := by
  simp only [lookup, registry_result]
  cases gateway.live? reference with
  | none => rfl
  | some entry => cases raw <;> rfl

theorem register_records (reference : Reference) (sensor : Option SensorRecord)
    : (gateway.register reference sensor).records
      = match gateway.registration reference sensor with
        | .error _ => []
        | .ok (_, registry, sensor, name) =>
            match gateway.descriptor? sensor name with
            | none => []
            | some descriptor => (registry.register descriptor).records := by
  simp only [register]
  cases gateway.registration reference sensor with
  | error failure => rfl
  | ok arguments =>
      obtain ⟨registryName, registry, sensor, name⟩ := arguments
      simp only
      cases gateway.descriptor? sensor name <;> rfl

theorem capabilities_records (reference : Reference) (raw : RawText)
    : (gateway.capabilities reference raw).records = (gateway.lookup reference raw).records := by
  simp only [capabilities]
  cases (gateway.lookup reference raw).result <;> rfl

theorem read_records (reference : Reference) (raw : RawText) (output : Sample)
    : (gateway.read reference raw (some output)).records
      = (gateway.lookup reference raw).records := by
  simp only [read]
  cases (gateway.lookup reference raw).result <;> rfl

/-- What the request of a call reports, if there is one. -/
def requestRecords (gateway : Gateway) (call : Call) : List LogRecord :=
  match gateway.request? call with
  | some (registry, operation) => registry.records operation
  | none => []

theorem lookup_records_request (reference : Reference) (raw : RawText)
    : (gateway.lookup reference raw).records
      = gateway.requestRecords (.capabilities reference raw) := by
  rw [lookup_records]
  cases reference with
  | none => cases raw <;> rfl
  | some target =>
      cases raw with
      | none => cases gateway.live? (some target) <;> rfl
      | some raw =>
          simp only [requestRecords, request?, operation?, live?, Option.bind_some]
          cases gateway.registries[target]? <;> rfl

theorem register_records_request (reference : Reference) (sensor : Option SensorRecord)
    : (gateway.register reference sensor).records
      = gateway.requestRecords (.register reference sensor) := by
  rw [register_records, registration_result]
  cases reference with
  | none => cases sensor <;> rfl
  | some target =>
      cases sensor with
      | none => cases gateway.live? (some target) <;> rfl
      | some sensor =>
          simp only [requestRecords, request?, operation?, live?, Option.bind_some]
          cases named : sensor.name with
          | none => cases gateway.registries[target]? <;> simp [named]
          | some raw =>
              cases described : gateway.descriptor? sensor raw with
              | none => cases gateway.registries[target]? <;> simp [named, described]
              | some descriptor =>
                  cases found : gateway.registries[target]? with
                  | none => simp [described, found]
                  | some registry =>
                      simp only [Option.map_some, Option.bind_some, named, described, found]
                      rfl

theorem step_records (call : Call)
    : (gateway.step call).records = gateway.requestRecords call := by
  cases call with
  | register reference sensor => exact register_records_request reference sensor
  | capabilities reference raw =>
      exact (capabilities_records reference raw).trans (lookup_records_request reference raw)
  | read reference raw output =>
      cases output with
      | none => cases reference <;> cases raw <;> rfl
      | some output =>
          rw [step, read_records, lookup_records_request]
          cases reference with
          | none => rfl
          | some target => cases raw <;> rfl
  | size reference =>
      cases reference with
      | none => rfl
      | some target =>
          simp only [requestRecords, request?, operation?, Option.bind_some]
          cases gateway.registries[target]? <;> rfl
  | freeRegistry reference => cases reference <;> rfl
  | _ => rfl

theorem missingMessage_ne_nullMessage (sensor argument : String)
    : missingMessage sensor ≠ nullMessage argument := by
  have missing : "Could not find IMU sensor '".toList <+: (missingMessage sensor).toList :=
    Text.prefix_append (Text.prefix_append (List.prefix_refl _) sensor) _
  have null : "Invalid argument: ".toList <+: (nullMessage argument).toList :=
    Text.prefix_append (Text.prefix_append (List.prefix_refl _) argument) _
  intro same
  rw [← same] at null
  exact absurd (List.prefix_or_prefix_of_prefix missing null) (by decide)

/-- A look-up that fails for a null argument never asks the registry. -/
theorem lookup_records_null {reference : Reference} {raw : RawText} {argument : String}
    (rejected
      : gateway.firstMessage? (.capabilities reference raw) = some (nullMessage argument))
    : (gateway.lookup reference raw).records = [] := by
  rw [lookup_records]
  cases live : gateway.live? reference with
  | none => rfl
  | some entry =>
      cases raw with
      | none => rfl
      | some raw =>
          -- Only the check for the sensor is left to fail.
          obtain ⟨check, first, message⟩ := Option.map_eq_some_iff.mp rejected
          have only : check = gateway.sensorCheck reference (some raw) := by
            simp only [checks, registryCheck, nameCheck, live, List.find?_cons, Option.isSome_some,
              Bool.not_true, List.find?_nil] at first
            split at first
            · exact (Option.some.inj first).symm
            · cases first
          rw [only] at message
          exact absurd message (missingMessage_ne_nullMessage _ argument)

theorem records_of_null {call : Call} {argument : String}
    (rejected : gateway.firstMessage? call = some (nullMessage argument))
    : (gateway.step call).records = [] := by
  cases call with
  | register reference sensor =>
      rw [firstMessage?_register] at rejected
      rw [step, register_records]
      cases checked : gateway.registration reference sensor with
      | error failure => rfl
      | ok arguments =>
          rw [checked] at rejected
          cases rejected
  | capabilities reference raw =>
      rw [step, capabilities_records, lookup_records_null rejected]
  | read reference raw output =>
      cases output with
      | none => rfl
      | some output =>
          rw [firstMessage?_read] at rejected
          rw [step, read_records, lookup_records_null rejected]
  | freeRegistry reference => cases reference <;> rfl
  | _ => rfl

/-- Where every registry keeps its handles under their names, a call reports what there is to say
of it.
-/
theorem lines_account
    (named
      : ∀ (name : String) (registry : Registry),
          gateway.registries[name]? = some registry → registry.Named)
    (call : Call)
    : (gateway.step call).records.map LogRecord.line = gateway.account call := by
  rw [step_records, requestRecords, account]
  cases asked : gateway.request? call with
  | none => rfl
  | some request =>
      obtain ⟨registry, operation⟩ := request
      obtain ⟨⟨target, _⟩, _, found⟩ := Option.bind_eq_some_iff.mp asked
      obtain ⟨live, there, same⟩ := Option.map_eq_some_iff.mp found
      cases same
      exact (named target registry there).lines_eq operation

/-- A call that looks a sensor up succeeds when the registry has the sensor, and reports whether it
did.
-/
theorem lookup_reported {call : Call} {target sensor : String} {registry : Registry}
    (asks : gateway.operation? call = some (target, .lookup sensor))
    (live : gateway.registries[target]? = some registry)
    : let lines := (gateway.step call).records.map LogRecord.line
      (gateway.outcome call).code? ≠ some (-1)
        ∧ lines = [⟨"TRACE", s!"Lookup of IMU sensor '{sensor}'"⟩]
      ∨ (gateway.outcome call).code? = some (-1)
        ∧ lines = [⟨"DEBUG", s!"IMU sensor '{sensor}' is not registered"⟩] := by
  have reports : (gateway.step call).records = (registry.lookup sensor).records := by
    simp only [step_records, requestRecords, request?, asks, live, Option.bind_some,
      Option.map_some, Registry.records]
  have answers
      : (gateway.outcome call).code? = some (-1)
        ↔ (registry.lookup sensor).result.isOk = false := by
    unfold operation? at asks
    split at asks
    · obtain ⟨_, _, impossible⟩ := Option.map_eq_some_iff.mp asks
      cases impossible
    · cases asks
    · cases asks
      rw [outcome_capabilities, lookup_result]
      simp only [live?, Option.bind_some, live, Option.map_some]
      cases (registry.lookup _).result with
      | error failure => exact iff_of_true rfl rfl
      | ok handle => exact iff_of_false (code_ne_failed _) Bool.noConfusion
    · cases asks
      rw [outcome_read, lookup_result]
      simp only [live?, Option.bind_some, live, Option.map_some]
      cases (registry.lookup _).result with
      | error failure => exact iff_of_true rfl rfl
      | ok handle => exact iff_of_false (code_ne_failed 0) Bool.noConfusion
    · cases asks
  rw [reports, ne_eq, answers]
  unfold Registry.lookup
  cases registry.handles[sensor]? with
  | none => exact .inr ⟨rfl, rfl⟩
  | some handle => exact .inl ⟨Bool.noConfusion, rfl⟩

theorem target?_of_operation? {call : Call} {target : String} {operation : Registry.Operation}
    (stands : gateway.operation? call = some (target, operation))
    : call.target? = some target := by
  unfold operation? at stands
  split at stands
  · obtain ⟨descriptor, _, same⟩ := Option.map_eq_some_iff.mp stands
    cases same
    rfl
  · cases stands
    rfl
  · cases stands
    rfl
  · cases stands
    rfl
  · cases stands

variable {name : String} {registry : Registry}

theorem log_operationsOn (live : gateway.registries[name]? = some registry) (call : Call)
    : registry.log (gateway.operationsOn name call)
      = if call.target? = some name then (gateway.step call).records else [] := by
  rw [step_records]
  simp only [requestRecords, request?, operationsOn]
  cases stands : gateway.operation? call with
  | none => simp [Registry.log]
  | some entry =>
      obtain ⟨target, operation⟩ := entry
      simp only [target?_of_operation? stands, Option.some.injEq, Option.bind_some]
      by_cases same : target = name
      · subst target
        simp only [if_true, live, Option.map_some]
        exact List.append_nil _
      · simp only [same, if_false]
        rfl

/-- The reports on a registry in use are the log of the operations on it, by induction on the
calls.
-/
theorem reportsOn_eq_log {calls : List Call}
    (live : gateway.registries[name]? = some registry)
    (kept : ∀ call ∈ calls, call.resets name = false)
    : gateway.reportsOn name calls = registry.log (gateway.operations name calls) := by
  induction calls generalizing gateway registry with
  | nil => rfl
  | cons call rest ih =>
      have first : gateway.Performs name call := performs (kept call (by simp))
      rw [Performs, live, Option.map_some] at first
      have later : gateway.reportsOn name (call :: rest)
          = (if call.target? = some name then (gateway.step call).records else [])
            ++ (gateway.next call).reportsOn name rest := rfl
      rw [later, ih first fun call member => kept call (by simp [member]), operations,
        Registry.log_append, log_operationsOn live]

end Inertial.Gateway
