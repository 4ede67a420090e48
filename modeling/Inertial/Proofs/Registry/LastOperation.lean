import Inertial.Proofs.CapabilityBits
import Inertial.Proofs.NameOrder
import Inertial.Proofs.Registry.Operations
import Mathlib.Data.List.Induction

/-! A registry as the map from each name to the last operation on it. All queries answer from that
map, whatever operations came before and whatever names they were about.
-/

namespace Inertial

/-- The handle gives out everything that the descriptor says of the sensor, and nothing more. -/
structure Handle.Represents (handle : Handle) (descriptor : Descriptor) : Prop where
  name : handle.name = descriptor.name
  frame : handle.frame = descriptor.frame
  buffers : ∀ channel, handle.get channel = descriptor.get channel
  capabilities
    : ∀ channel, handle.capabilities.contains channel.flag = (descriptor.get channel).isSome
  noOtherBits : Capabilities.known.contains handle.capabilities = true

theorem Handle.ofDescriptor_represents (descriptor : Descriptor)
    : (ofDescriptor descriptor).Represents descriptor where
  name := rfl
  frame := rfl
  buffers _ := rfl
  capabilities := presentChannels_contains descriptor.toPerChannel
  noOtherBits := known_contains_presentChannels descriptor.toPerChannel

namespace Registry

/-- One use of a registry. All except the first two are queries. -/
inductive Operation where
  | register (descriptor : Descriptor)
  | unregister (name : String)
  | lookup (name : String)
  | contains (name : String)
  | names
  | sensors
  | size
  | isEmpty

def apply (registry : Registry) : Operation → Registry
  | .register descriptor => (registry.register descriptor).result
  | .unregister name => (registry.unregister name).result.1
  | _ => registry

/-- The registry that started empty and went through the operations. -/
def after (operations : List Operation) : Registry := operations.foldl apply empty

theorem after_append (operations : List Operation) (last : Operation)
    : after (operations ++ [last]) = (after operations).apply last := by
  rw [after, List.foldl_append]
  rfl

/-- The operation decides what stands under the name. -/
def Operation.decides (name : String) : Operation → Bool
  | register descriptor => descriptor.name == name
  | unregister other => other == name
  | _ => false

/-- An operation leaves what stands under all other names. -/
theorem handles_apply_other (registry : Registry) {operation : Operation} {name : String}
    (others : operation.decides name = false)
    : (registry.apply operation).handles[name]? = registry.handles[name]? := by
  cases operation with
  | register descriptor =>
      have different : descriptor.name ≠ name := by simpa [Operation.decides] using others
      rw [apply, register_result, NameMap.getElem?_insert, if_neg different]
  | unregister other =>
      have different : other ≠ name := by simpa [Operation.decides] using others
      rw [apply, unregister_result, NameMap.getElem?_erase, if_neg different]
  | _ => rfl

/-- Operations on other names leave what stands under a name, by induction on the operations. -/
theorem handles_foldl_others (registry : Registry) {operations : List Operation} {name : String}
    (others : ∀ operation ∈ operations, operation.decides name = false)
    : (operations.foldl apply registry).handles[name]? = registry.handles[name]? := by
  induction operations generalizing registry with
  | nil => rfl
  | cons first rest ih =>
      rw [List.foldl_cons, ih _ fun operation member => others operation (by simp [member]),
        registry.handles_apply_other (others first (by simp))]

/-- What the last operation on the name registered, unless it took the name away. -/
def registration? (operations : List Operation) (name : String) : Option Descriptor :=
  match (operations.filter (Operation.decides name)).getLast? with
  | some (.register descriptor) => some descriptor
  | _ => none

theorem registration?_append (operations : List Operation) (last : Operation) (name : String)
    : registration? (operations ++ [last]) name
      = match last with
        | .register descriptor =>
            if descriptor.name = name then some descriptor else registration? operations name
        | .unregister other => if other = name then none else registration? operations name
        | _ => registration? operations name := by
  cases last with
  | register descriptor =>
      by_cases same : descriptor.name = name
      · simp [registration?, Operation.decides, same]
      · simp [registration?, Operation.decides, same]
  | unregister other =>
      by_cases same : other = name
      · simp [registration?, Operation.decides, same]
      · simp [registration?, Operation.decides, same]
  | _ => simp [registration?, Operation.decides]

theorem registration?_name (operations : List Operation) {name : String} {descriptor : Descriptor}
    (found : registration? operations name = some descriptor)
    : descriptor.name = name := by
  induction operations using List.reverseRecOn with
  | nil => cases found
  | append_singleton before last ih =>
      rw [registration?_append] at found
      cases last with
      | register new =>
          simp only at found
          split at found
          · next same =>
              cases found
              exact same
          · exact ih found
      | unregister other =>
          simp only at found
          split at found
          · cases found
          · exact ih found
      | _ => exact ih found

/-- What stands under a name was registered by one of the operations. -/
theorem registration?_mem {operations : List Operation} {name : String} {descriptor : Descriptor}
    (found : registration? operations name = some descriptor)
    : .register descriptor ∈ operations := by
  unfold registration? at found
  split at found
  · next last =>
      cases found
      exact (List.mem_filter.mp (List.mem_of_getLast? last)).1
  · cases found

/-- The map of a registry has under each name what was registered there last, by induction on the
operations.
-/
theorem handles_after (operations : List Operation) (name : String)
    : (after operations).handles[name]?
      = (registration? operations name).map Handle.ofDescriptor := by
  induction operations using List.reverseRecOn with
  | nil => simp [after, empty, registration?]
  | append_singleton before last ih =>
      rw [after_append, registration?_append]
      cases last with
      | register descriptor =>
          simp only [apply, register_result, NameMap.getElem?_insert, ih]
          split <;> rfl
      | unregister other =>
          simp only [apply, unregister_result, NameMap.getElem?_erase, ih]
          split <;> rfl
      | _ => exact ih

theorem lookup_after (operations : List Operation) (name : String)
    : ((after operations).lookup name).result
      = match registration? operations name with
        | some descriptor => .ok (.ofDescriptor descriptor)
        | none => .error ⟨name, interfaceName⟩ := by
  rw [lookup_result, handles_after]
  cases registration? operations name <;> rfl

theorem contains_after (operations : List Operation) (name : String)
    : (after operations).contains name = (registration? operations name).isSome := by
  rw [contains_eq_isSome, handles_after, Option.isSome_map]

/-- Whatever is found under a name has that name. -/
theorem found_name (operations : List Operation) {name : String} {handle : Handle}
    (found : (after operations).handles[name]? = some handle)
    : handle.name = name := by
  rw [handles_after, Option.map_eq_some_iff] at found
  obtain ⟨descriptor, registered, rfl⟩ := found
  exact registration?_name operations registered

/-- The sensors stand in the order of the names under which they are found. -/
theorem names_map_lookup (registry : Registry)
    : registry.names.map (fun name => (registry.lookup name).result)
      = registry.sensors.map .ok := by
  rw [names, sensors, ← Std.ExtTreeMap.map_fst_toList_eq_keys, NameMap.values_eq_map_snd,
    List.map_map, List.map_map]
  apply List.map_congr_left
  rintro ⟨name, handle⟩ member
  have found := Std.ExtTreeMap.mem_toList_iff_getElem?_eq_some.mp member
  simp only [Function.comp_apply, lookup_result, found]

theorem sensors_map_name (operations : List Operation)
    : (after operations).sensors.map (fun handle => handle.name) = (after operations).names := by
  rw [names, sensors, ← Std.ExtTreeMap.map_fst_toList_eq_keys, NameMap.values_eq_map_snd,
    List.map_map]
  apply List.map_congr_left
  rintro ⟨name, handle⟩ member
  exact found_name operations (Std.ExtTreeMap.mem_toList_iff_getElem?_eq_some.mp member)

theorem contains_eq_isOk (registry : Registry) (name : String)
    : registry.contains name = (registry.lookup name).result.isOk := by
  rw [contains_eq_isSome, lookup_result]
  cases registry.handles[name]? <;> rfl

/-- The registry gives out a handle of the sensor under the name, or knows no sensor of the name. -/
def AnswersWith (registry : Registry) (name : String) : Option Descriptor → Prop
  | some descriptor =>
      ∃ handle : Handle,
        handle.Represents descriptor
        ∧ handle.name = name
        ∧ (registry.lookup name).result = .ok handle
        ∧ (registry.unregister name).result.2 = some handle
  | none =>
      (registry.lookup name).result = .error ⟨name, interfaceName⟩
      ∧ (registry.unregister name).result = (registry, none)

theorem after_answersWith (operations : List Operation) (name : String)
    : (after operations).AnswersWith name (registration? operations name) := by
  have found := handles_after operations name
  cases last : registration? operations name with
  | none =>
      rw [last] at found
      refine ⟨?_, unregister_absent _ found⟩
      rw [lookup_after, last]
  | some descriptor =>
      refine ⟨.ofDescriptor descriptor, Handle.ofDescriptor_represents descriptor,
        registration?_name operations last, ?_, ?_⟩
      · rw [lookup_after, last]
      · rw [unregister_result, found, last]
        rfl

/-- A registry that started empty answers for each name from the last operation that registered or
unregistered the name, however many others came between. Its names are strictly increasing as
strings of bytes, its sensors stand in the same order, and all queries agree on which names it has.
-/
theorem answers_follow_last_operations (operations : List Operation)
    : let registry := after operations
      (∀ name,
        registry.AnswersWith name (registration? operations name)
        ∧ registry.contains name = (registration? operations name).isSome
        ∧ (name ∈ registry.names ↔ (registration? operations name).isSome)
        ∧ registry.contains name = (registry.lookup name).result.isOk)
      ∧ registry.names.Pairwise (fun left right => Text.utf8Bytes left < Text.utf8Bytes right)
      ∧ registry.sensors.map (fun handle => handle.name) = registry.names
      ∧ registry.names.map (fun name => (registry.lookup name).result) = registry.sensors.map .ok
      ∧ registry.size = registry.names.length
      ∧ registry.isEmpty = (registry.size == 0) := by
  intro registry
  refine ⟨?_, NameMap.keys_increasing registry.handles, sensors_map_name operations,
    names_map_lookup registry, Std.ExtTreeMap.length_keys.symm,
    Std.ExtTreeMap.isEmpty_eq_size_beq_zero⟩
  intro name
  have contained := contains_after operations name
  refine ⟨after_answersWith operations name, contained, ?_, contains_eq_isOk registry name⟩
  rw [names, Std.ExtTreeMap.mem_keys, ← Std.ExtTreeMap.contains_iff_mem]
  exact iff_of_eq (congrArg (· = true) contained)

end Registry

end Inertial
