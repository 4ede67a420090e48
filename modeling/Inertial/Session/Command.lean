import Inertial.Registry
import Inertial.Sample

/-!
What can be asked of a session: drivers make and write buffers, registries take in and give out
sensors, and handles are read. Objects go by the names they were given.
-/

namespace Inertial.Session

/-- Where a buffer is found: under a name of its own, or in a storage. -/
inductive BufferPlace where
  | named (buffer : String)
  | stored (storage : String) (channel : Channel)

/-- The buffers of a sensor: for each channel the place of one, or none. -/
structure BufferSource where
  place? : Channel → Option BufferPlace

namespace BufferSource

/-- Every channel has its buffer in the storage. -/
def storage (storage : String) : BufferSource :=
  ⟨fun channel => some (.stored storage channel)⟩

/-- All buffers have names of their own. -/
def buffers (named : Channel → Option String) : BufferSource :=
  ⟨fun channel => (named channel).map .named⟩

end BufferSource

/-- A descriptor whose buffers still have to be found. -/
structure SensorSource where
  name : String
  frame : String
  buffers : BufferSource

/-- What drivers do with their memory. -/
inductive DriverCommand where
  | newBuffer (buffer : String) (size : Nat) (values : Vector Double size)
  | store (buffer : String) (size : Nat) (values : Vector Double size)
  | write (buffer : String) (index : Nat) (value : Double)
  | newStorage (storage : String)
  | storeChannel (storage : String) (channel : Channel) (values : Vector Double channel.size)
  | writeChannel (storage : String) (channel : Channel) (index : Nat) (value : Double)

/-- What is asked of one registry. Handles that are given out can be kept under a name. -/
inductive RegistryCommand where
  | register (sensor : SensorSource)
  | lookup (name : String) (keepAs : Option String)
  | unregister (name : String) (keepAs : Option String)
  | contains (name : String)
  | names
  | overview
  | readAll
  | copyTo (registry : String)
  | drop
  | inspect (pretty : Bool)

/-- What is asked of one handle. -/
inductive HandleCommand where
  | copyTo (handle : String)
  | describe
  | has (mask : Capabilities)
  | view (channel : Channel)
  | write (channel : Channel) (index : Nat) (value : Double)
  | aliases (channel : Channel) (place : BufferPlace)
  | read (keepAs : Option String)
  | sample
  | inspect (pretty : Bool)

inductive Command where
  | driver (command : DriverCommand)
  | registry (registry : String) (command : RegistryCommand)
  | handle (handle : String) (command : HandleCommand)
  | newHandle (handle : String) (sensor : SensorSource)
  | dropHandle (handle : String)
  | recall (reading : String)
  | compare (left right : String)
  | interfaceName
  | inspectStorage (storage : String) (pretty : Bool)
  | inspectSensor (sensor : SensorSource) (pretty : Bool)

/-- The answer to a command. It is `absent` where the command asks for something that need not be
there, and `rejected` where it refers to objects that do not exist or do not fit.
-/
inductive Answer where
  | done
  | absent
  | rejected
  | flag (value : Bool)
  | size (count : Nat)
  | text (content : String)
  | names (names : List String)
  | sensor (handle : Handle)
  | overview (size : Nat) (isEmpty : Bool) (sensors : List Handle)
  | notFound (failure : NotFound)
  | view (shape : Shape) (values : Vector Double shape.size)
  | reading (reading : Reading)
  | readings (readings : List Reading)
  | sample (sample : Sample)

end Inertial.Session
