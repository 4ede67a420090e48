import Inertial.Proofs.Gateway.Operations
import Inertial.Proofs.Registry.LastOperation

/-! What calls do to a registry. Between the call that makes it and the one that frees it, a
registry only goes through the operations that the calls on it stand for.
-/

namespace Inertial.Gateway

/-- The call makes a registry of this name or frees it. -/
def Call.resets (name : String) : Call → Bool
  | newRegistry other => other == name
  | freeRegistry (some other) => other == name
  | _ => false

/-- The operation that a call stands for, and the name of the registry it is made on. A call with a
null argument stands for none.
-/
def operation? (gateway : Gateway) : Call → Option (String × Registry.Operation)
  | .register (some registry) (some sensor) =>
      (sensor.name.bind (gateway.descriptor? sensor)).map fun descriptor =>
        (registry, .register descriptor)
  | .size (some registry) => some (registry, .size)
  | .capabilities (some registry) (some name) => some (registry, .lookup (decodeRaw name))
  | .read (some registry) (some name) (some _) => some (registry, .lookup (decodeRaw name))
  | _ => none

/-- What a call asks of the registry of this name. -/
def operationsOn (gateway : Gateway) (name : String) (call : Call) : List Registry.Operation :=
  match gateway.operation? call with
  | some (target, operation) => if target = name then [operation] else []
  | none => []

/-- What the calls of a run ask of the registry of this name, in the order of time. -/
def operations (gateway : Gateway) (name : String) : List Call → List Registry.Operation
  | [] => []
  | call :: rest => gateway.operationsOn name call ++ (gateway.next call).operations name rest

variable {gateway : Gateway} {name : String}

theorem operationsOn_none {call : Call} (none : gateway.operation? call = none)
    : gateway.operationsOn name call = [] := by
  simp only [operationsOn, none]

theorem operationsOn_some {call : Call} {target : String} {operation : Registry.Operation}
    (stands : gateway.operation? call = some (target, operation))
    : gateway.operationsOn name call = if target = name then [operation] else [] := by
  simp only [operationsOn, stands]

/-- The registry of this name is as the operations of the call leave it. -/
def Performs (gateway : Gateway) (name : String) (call : Call) : Prop :=
  (gateway.next call).registries[name]?
  = gateway.registries[name]?.map fun registry =>
      (gateway.operationsOn name call).foldl Registry.apply registry

theorem performs_idle {call : Call} (kept : (gateway.next call).registries = gateway.registries)
    (idle : gateway.operation? call = none)
    : gateway.Performs name call := by
  simp only [Performs, kept, operationsOn_none idle, List.foldl_nil, Option.map_id']

/-- A call on a registry that is not in use does nothing to any. -/
theorem performs_absent {call : Call} (kept : (gateway.next call).registries = gateway.registries)
    {target : String} (absent : gateway.registries[target]? = none)
    (aimed : ∀ other operation, gateway.operation? call = some (other, operation) → other = target)
    : gateway.Performs name call := by
  cases stands : gateway.operation? call with
  | none => exact performs_idle kept stands
  | some entry =>
      obtain ⟨other, operation⟩ := entry
      obtain rfl := aimed other operation stands
      rw [Performs, kept, operationsOn_some stands]
      by_cases same : other = name
      · subst other
        rw [absent, Option.map_none]
      · simp only [same, if_false, List.foldl_nil, Option.map_id']

/-- A query leaves its registry as it is. -/
theorem performs_query {call : Call} (kept : (gateway.next call).registries = gateway.registries)
    {target : String} {operation : Registry.Operation}
    (stands : gateway.operation? call = some (target, operation))
    (queries : ∀ registry : Registry, registry.apply operation = registry)
    : gateway.Performs name call := by
  rw [Performs, kept, operationsOn_some stands]
  by_cases same : target = name
  · simp only [same, if_true, List.foldl_cons, List.foldl_nil, queries, Option.map_id']
  · simp only [same, if_false, List.foldl_nil, Option.map_id']

theorem next_register_absent {target : String} (absent : gateway.registries[target]? = none)
    (sensor : Option SensorRecord)
    : gateway.next (.register (some target) sensor) = gateway.fail (.null .registry) := by
  simp only [next, step, register_result, registration_result, live?, Option.bind_some, absent,
    Option.map_none]

theorem next_register_described {target : String} {registry : Registry}
    (found : gateway.registries[target]? = some registry) {sensor : SensorRecord}
    {raw : List UInt8} (named : sensor.name = some raw) {descriptor : Descriptor}
    (described : gateway.descriptor? sensor raw = some descriptor)
    : gateway.next (.register (some target) (some sensor))
      = { gateway with
          registries :=
            gateway.registries.insert target (registry.register descriptor).result } := by
  simp only [next, step, register_result, registration_result, live?, Option.bind_some, found,
    Option.map_some, named, described]

theorem next_register_undescribed {target : String} {registry : Registry}
    (found : gateway.registries[target]? = some registry) {sensor : SensorRecord}
    (undescribed : sensor.name.bind (gateway.descriptor? sensor) = none)
    : (gateway.next (.register (some target) (some sensor))).registries = gateway.registries := by
  simp only [next, step, register_result, registration_result, live?, Option.bind_some, found,
    Option.map_some]
  cases named : sensor.name with
  | none => rfl
  | some raw =>
      rw [named, Option.bind_some] at undescribed
      simp only [undescribed]

theorem performs_register (reference : Reference) (sensor : Option SensorRecord)
    : gateway.Performs name (.register reference sensor) := by
  cases reference with
  | none => exact performs_idle rfl rfl
  | some target =>
      cases found : gateway.registries[target]? with
      | none =>
          have kept := congrArg Gateway.registries (next_register_absent found sensor)
          refine performs_absent kept found ?_
          intro other operation stands
          cases sensor with
          | none => cases stands
          | some sensor =>
              obtain ⟨descriptor, _, same⟩ := Option.map_eq_some_iff.mp stands
              exact (congrArg Prod.fst same).symm
      | some registry =>
          cases sensor with
          | none =>
              refine performs_idle ?_ rfl
              simp only [next, step, register_result, registration_result, live?,
                Option.bind_some, found, Option.map_some]
              rfl
          | some sensor =>
              cases described : sensor.name.bind (gateway.descriptor? sensor) with
              | none =>
                  refine performs_idle (next_register_undescribed found described) ?_
                  simp only [operation?, described, Option.map_none]
              | some descriptor =>
                  obtain ⟨raw, named, given⟩ := Option.bind_eq_some_iff.mp described
                  have stands : gateway.operation? (.register (some target) (some sensor))
                      = some (target, .register descriptor) := by
                    simp only [operation?, described, Option.map_some]
                  rw [Performs, next_register_described found named given,
                    operationsOn_some stands, NameMap.getElem?_insert]
                  by_cases same : target = name
                  · subst target
                    simp only [if_true, found, Option.map_some]
                    rfl
                  · simp only [same, if_false, List.foldl_nil, Option.map_id']

/-- Calls on other registries, and calls that only ask or write arrays, leave a registry alone. -/
theorem performs {call : Call} (kept : call.resets name = false) : gateway.Performs name call := by
  cases call with
  | register reference sensor => exact performs_register reference sensor
  | newArray _ _ _ => exact performs_idle rfl rfl
  | writeArray array index value =>
      refine performs_idle ?_ rfl
      simp only [next, step, writeArray]
      split
      · rfl
      · split <;> rfl
  | newRegistry other =>
      have different : other ≠ name := by simpa [Call.resets] using kept
      rw [Performs, operationsOn_none rfl]
      simp only [next, step, NameMap.getElem?_insert, different, if_false, List.foldl_nil,
        Option.map_id']
  | freeRegistry reference =>
      cases reference with
      | none => exact performs_idle rfl rfl
      | some other =>
          have different : other ≠ name := by simpa [Call.resets] using kept
          rw [Performs, operationsOn_none rfl]
          simp only [next, step, NameMap.getElem?_erase, different, if_false, List.foldl_nil,
            Option.map_id']
  | size reference =>
      have kept := (gateway.size_next reference).2.2
      cases reference with
      | none => exact performs_idle kept rfl
      | some target => exact performs_query kept rfl fun _ => rfl
  | capabilities reference raw =>
      have kept := (gateway.capabilities_next reference raw).2.2
      cases reference with
      | none => exact performs_idle kept rfl
      | some target =>
          cases raw with
          | none => exact performs_idle kept rfl
          | some raw => exact performs_query kept rfl fun _ => rfl
  | read reference raw output =>
      have kept := (gateway.read_next reference raw output).2.2
      cases reference with
      | none => exact performs_idle kept rfl
      | some target =>
          cases raw with
          | none => exact performs_idle kept rfl
          | some raw =>
              cases output with
              | none => exact performs_idle kept rfl
              | some output => exact performs_query kept rfl fun _ => rfl
  | lastError => exact performs_idle rfl rfl

/-- A registry that is neither made anew nor freed goes through the operations that the calls on it
stand for, one after the other, by induction on the calls.
-/
theorem registries_run {calls : List Call} (kept : ∀ call ∈ calls, call.resets name = false)
    : (gateway.run calls).1.registries[name]?
      = gateway.registries[name]?.map fun registry =>
          (gateway.operations name calls).foldl Registry.apply registry := by
  induction calls generalizing gateway with
  | nil => simp only [run, operations, List.foldl_nil, Option.map_id']
  | cons call rest ih =>
      have first : gateway.Performs name call := performs (kept call (by simp))
      have later : (gateway.run (call :: rest)).1 = ((gateway.next call).run rest).1 := rfl
      rw [later, ih fun call member => kept call (by simp [member]), first, Option.map_map]
      simp only [operations, List.foldl_append]
      rfl

end Inertial.Gateway
