import Inertial.Proofs.NameTable
import Inertial.Registry

/-! What each operation of a registry makes of its map. Later proofs use these laws and do not open
the operations again.
-/

namespace Inertial.Registry

variable (registry : Registry)

theorem contains_eq_isSome (name : String)
    : registry.contains name = registry.handles[name]?.isSome :=
  Std.ExtTreeMap.contains_eq_isSome_getElem?

theorem register_result (descriptor : Descriptor)
    : (registry.register descriptor).result
      = ⟨registry.handles.insert descriptor.name (.ofDescriptor descriptor)⟩ := by
  simp only [register, Handle.ofDescriptor]
  split <;> rfl

theorem contains_register (descriptor : Descriptor) (name : String)
    : (registry.register descriptor).result.contains name
      = (descriptor.name == name || registry.contains name) := by
  simp only [contains_eq_isSome, register_result, NameMap.getElem?_insert]
  by_cases same : descriptor.name = name
  · simp [same]
  · simp [same]

/-- A registration adds an entry unless the name has one. -/
theorem size_register (descriptor : Descriptor)
    : (registry.register descriptor).result.size
      = if registry.contains descriptor.name then registry.size else registry.size + 1 := by
  rw [register_result, size, Std.ExtTreeMap.size_insert]
  simp only [contains, size, Std.ExtTreeMap.contains_iff_mem]

theorem lookup_result (name : String)
    : (registry.lookup name).result
      = match registry.handles[name]? with
        | some handle => .ok handle
        | none => .error ⟨name, interfaceName⟩ := by
  unfold lookup
  cases registry.handles[name]? <;> rfl

/-- Taking out a name that is not there leaves the registry as it is. -/
theorem unregister_absent {name : String} (absent : registry.handles[name]? = none)
    : (registry.unregister name).result = (registry, none) := by
  simp only [unregister, absent]

theorem unregister_result (name : String)
    : (registry.unregister name).result
      = (⟨registry.handles.erase name⟩, registry.handles[name]?) := by
  cases found : registry.handles[name]? with
  | some handle => simp only [unregister, found]
  | none =>
      have unchanged : registry.handles.erase name = registry.handles := by
        apply Std.ExtTreeMap.ext_getElem?
        intro other
        rw [NameMap.getElem?_erase]
        split
        · next same => rw [← same, found]
        · rfl
      rw [unregister_absent registry found, unchanged]

/-- A removal takes an entry away if the name has one. -/
theorem size_unregister (name : String)
    : (registry.unregister name).result.1.size
      = if registry.contains name then registry.size - 1 else registry.size := by
  rw [unregister_result]
  exact Std.ExtTreeMap.size_erase

theorem size_pos_of_contains {name : String} (contained : registry.contains name = true)
    : 0 < registry.size := by
  have nonempty := Std.ExtTreeMap.ne_empty_of_mem (Std.ExtTreeMap.contains_iff_mem.mp contained)
  rw [ne_eq, Std.ExtTreeMap.eq_empty_iff_size_eq_zero] at nonempty
  exact Nat.pos_of_ne_zero nonempty

end Inertial.Registry
