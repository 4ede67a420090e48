import Inertial.Handle
import Inertial.LogRecord
import Inertial.NameMap
import Inertial.TypeName

/-!
Registries: at most one handle under each name, listed in the order of the names. Registering under
a name that is taken replaces the handle; handles given out before keep working.
-/

namespace Inertial

/-- The failure to find a sensor through an interface. -/
structure NotFound where
  name : String
  interface : String
deriving DecidableEq

def NotFound.message (failure : NotFound) : String :=
  s!"Could not find IMU sensor '{failure.name}' in {failure.interface}"

structure Registry where
  handles : NameMap Handle

namespace Registry

/-- The text for the type of registries. Of it, only what `NamesType` says is relied on. -/
def typeName : String := "imu_sensor::registry::ImuSensorRegistry<'_>"

/-- How failures of a look-up refer to registries. -/
def interfaceName : String := bareTypeName typeName

theorem typeName_names : NamesType typeName "ImuSensorRegistry" where
  parts := by
    refine ⟨"imu_sensor::registry::", "<'_>", rfl, .inr ⟨"imu_sensor::registry", rfl⟩, ?_, ?_⟩
    · exact .inr ⟨"'_>", rfl⟩
    · decide
  plain := by decide

def empty : Registry := ⟨∅⟩

instance : Inhabited Registry := ⟨empty⟩

def names (registry : Registry) : List String := registry.handles.keys

/-- The handles in the order of their names. -/
def sensors (registry : Registry) : List Handle := registry.handles.values

def contains (registry : Registry) (name : String) : Bool := registry.handles.contains name

def size (registry : Registry) : Nat := registry.handles.size

def isEmpty (registry : Registry) : Bool := registry.handles.isEmpty

/-- Makes a handle for the sensor and keeps it under the sensor's name. -/
def register (registry : Registry) (descriptor : Descriptor) : Logged Registry :=
  let handle := Handle.ofDescriptor descriptor
  let registering := LogRecord.registering handle.name handle.frame handle.capabilities
  let changed : Registry := ⟨registry.handles.insert handle.name handle⟩
  match registry.handles[handle.name]? with
  | none => ⟨changed, [registering]⟩
  | some previous => ⟨changed, [registering, .replacing previous.name]⟩

def lookup (registry : Registry) (name : String) : Logged (Except NotFound Handle) :=
  match registry.handles[name]? with
  | some handle => ⟨.ok handle, [.found name]⟩
  | none => ⟨.error ⟨name, interfaceName⟩, [.missing name]⟩

/-- Takes the handle out of the registry, if there is one under the name. -/
def unregister (registry : Registry) (name : String) : Logged (Registry × Option Handle) :=
  match registry.handles[name]? with
  | some handle => ⟨(⟨registry.handles.erase name⟩, some handle), [.unregistered name]⟩
  | none => ⟨(registry, none), []⟩

end Registry

end Inertial
