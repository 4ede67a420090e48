import Inertial.Proofs.Gateway.Effects

/-! Where the handles of a gateway's registries come from. Each was made by a registration under its
name, and stays until another registration under the name or the end of its registry.
-/

namespace Inertial.Gateway

/-- The handle that a registry has under the name of a sensor. -/
def handle? (gateway : Gateway) (reference sensor : String) : Option Handle :=
  gateway.registries[reference]?.bind fun registry => registry.handles[sensor]?

/-- The call may put a handle under the name or take one away from there. -/
def Call.Assigns (reference sensor : String) : Call → Prop
  | newRegistry name => name = reference
  | freeRegistry (some name) => name = reference
  | register (some name) (some record) =>
      name = reference ∧ record.name.map decodeRaw = some sensor
  | _ => False

/-- The handle that a call makes of a record. -/
def built? (gateway : Gateway) (call : Call) : Option Handle :=
  match gateway.operation? call with
  | some (_, .register descriptor) => some (.ofDescriptor descriptor)
  | _ => none

theorem descriptor?_name {gateway : Gateway} {record : SensorRecord} {raw : List UInt8}
    {sensor : Descriptor} (given : gateway.descriptor? record raw = some sensor)
    : sensor.name = decodeRaw raw :=
  Descriptor.find?_name given

variable {gateway : Gateway} {reference sensor : String}

/-- Only a registration decides what stands under a name, and only under its own. -/
theorem assigns_of_decides {call : Call} {operation : Registry.Operation}
    (asked : operation ∈ gateway.operationsOn reference call)
    (decides : operation.decides sensor = true)
    : call.Assigns reference sensor
      ∧ ∃ descriptor,
          operation = .register descriptor
          ∧ descriptor.name = sensor
          ∧ gateway.built? call = some (.ofDescriptor descriptor) := by
  unfold operationsOn at asked
  split at asked
  · next target stood stands =>
      split at asked
      · next same =>
          obtain rfl := List.mem_singleton.mp asked
          subst target
          have standing := stands
          unfold operation? at stands
          split at stands
          · next other record =>
              obtain ⟨descriptor, described, same⟩ := Option.map_eq_some_iff.mp stands
              obtain ⟨raw, named, given⟩ := Option.bind_eq_some_iff.mp described
              cases same
              have name : descriptor.name = sensor := beq_iff_eq.mp decides
              refine ⟨⟨rfl, ?_⟩, descriptor, rfl, name, ?_⟩
              · rw [named, Option.map_some, ← descriptor?_name given, name]
              · simp only [built?, standing]
          all_goals
            cases stands
            try cases decides
      · cases asked
  · cases asked

theorem operationsOn_of_mem {call : Call} {operation : Registry.Operation}
    (asked : operation ∈ gateway.operationsOn reference call)
    : gateway.operationsOn reference call = [operation] := by
  unfold operationsOn at asked ⊢
  split at asked
  · split at asked
    · next same => rw [if_pos same, List.mem_singleton.mp asked]
    · cases asked
  · cases asked

theorem handle?_reset {call : Call} (reset : call.resets reference = true)
    : call.Assigns reference sensor ∧ (gateway.next call).handle? reference sensor = none := by
  cases call with
  | newRegistry name =>
      obtain rfl : name = reference := by simpa [Call.resets] using reset
      refine ⟨rfl, ?_⟩
      simp [handle?, next, step, Registry.empty]
  | freeRegistry freed =>
      cases freed with
      | none => cases reset
      | some name =>
          obtain rfl : name = reference := by simpa [Call.resets] using reset
          refine ⟨rfl, ?_⟩
          simp [handle?, next, step]
  | _ => cases reset

/-- After the call, the registry has the handle that it had under the name, or the call names this
place and made what is there now.
-/
theorem handle?_next (gateway : Gateway) (reference sensor : String) (call : Call)
    : (gateway.next call).handle? reference sensor = gateway.handle? reference sensor
      ∨ call.Assigns reference sensor
        ∧ ∀ handle,
            (gateway.next call).handle? reference sensor = some handle
            → gateway.built? call = some handle := by
  cases reset : call.resets reference with
  | true =>
      obtain ⟨assigns, gone⟩
          : call.Assigns reference sensor
            ∧ (gateway.next call).handle? reference sensor = none :=
        handle?_reset reset
      exact .inr ⟨assigns, fun handle there => nomatch gone.symm.trans there⟩
  | false =>
      have performed : gateway.Performs reference call := performs reset
      unfold Performs at performed
      by_cases decided
        : ∃ operation ∈ gateway.operationsOn reference call, operation.decides sensor = true
      · obtain ⟨operation, asked, decides⟩ := decided
        obtain ⟨assigns, descriptor, rfl, rfl, built⟩ := assigns_of_decides asked decides
        refine .inr ⟨assigns, ?_⟩
        intro handle there
        rw [handle?, performed, operationsOn_of_mem asked, Option.bind_map] at there
        obtain ⟨registry, _, stands⟩ := Option.bind_eq_some_iff.mp there
        simp only [Function.comp_apply, List.foldl_cons, List.foldl_nil, Registry.apply,
          Registry.register_result, NameMap.getElem?_insert, if_true] at stands
        rw [built, stands]
      · left
        have others : ∀ operation ∈ gateway.operationsOn reference call,
            operation.decides sensor = false := by
          intro operation asked
          rw [Bool.eq_false_iff]
          exact fun decides => decided ⟨operation, asked, decides⟩
        rw [handle?, performed, Option.bind_map]
        simp only [handle?, Function.comp_def, Registry.handles_foldl_others _ others]

/-- Every handle in a registry was there at the start or was made by a registration at some point of
the run, by induction on the calls.
-/
theorem handle?_origin (calls : List Call) {handle : Handle}
    (there : (gateway.run calls).1.handle? reference sensor = some handle)
    : gateway.handle? reference sensor = some handle
      ∨ ∃ earlier call later,
          calls = earlier ++ call :: later
          ∧ (gateway.run earlier).1.built? call = some handle := by
  induction calls generalizing gateway with
  | nil => exact .inl there
  | cons call rest ih =>
      have later : ((gateway.next call).run rest).1.handle? reference sensor = some handle := there
      rcases ih later with start | made
      · rcases gateway.handle?_next reference sensor call with same | ⟨_, built⟩
        · exact .inl (same ▸ start)
        · exact .inr ⟨[], call, rest, rfl, built handle start⟩
      · obtain ⟨earlier, making, after, rfl, built⟩ := made
        exact .inr ⟨call :: earlier, making, after, rfl, built⟩

/-- A handle stays in its registry through all calls that do not name its place, by induction on
them.
-/
theorem handle?_run {calls : List Call}
    (untouched : ∀ call ∈ calls, ¬ call.Assigns reference sensor)
    : (gateway.run calls).1.handle? reference sensor = gateway.handle? reference sensor := by
  induction calls generalizing gateway with
  | nil => rfl
  | cons call rest ih =>
      have first : (gateway.next call).handle? reference sensor
          = gateway.handle? reference sensor := by
        rcases gateway.handle?_next reference sensor call with same | ⟨assigns, _⟩
        · exact same
        · exact absurd assigns (untouched call (by simp))
      rw [← first]
      exact ih fun later member => untouched later (by simp [member])

theorem handle?_live {registry : Registry}
    (live : gateway.registries[reference]? = some registry)
    : gateway.handle? reference sensor = registry.handles[sensor]? := by
  rw [handle?, live, Option.bind_some]

/-- A look-up finds what the registry has under the decoded name. -/
theorem lookup_live {registry : Registry} (live : gateway.registries[reference]? = some registry)
    (raw : List UInt8)
    : (gateway.lookup (some reference) (some raw)).result
      = match gateway.handle? reference (decodeRaw raw) with
        | some handle => .ok handle
        | none => .error (.notFound ⟨decodeRaw raw, Registry.interfaceName⟩) := by
  rw [lookup_result, handle?_live live]
  simp only [live?, Option.bind_some, live, Option.map_some, Registry.lookup_result]
  cases registry.handles[decodeRaw raw]? <;> rfl

theorem lookup_of_handle? {raw : List UInt8} {handle : Handle}
    (there : gateway.handle? reference (decodeRaw raw) = some handle)
    : (gateway.lookup (some reference) (some raw)).result = .ok handle := by
  obtain ⟨registry, live, _⟩ := Option.bind_eq_some_iff.mp there
  rw [lookup_live live, there]

end Inertial.Gateway
