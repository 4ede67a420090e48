import Inertial.Inspect
import Inertial.Session.Command

/-!
Sessions: one memory, and the buffers, storages, registries, handles and readings in use, each kind
under names of its own. A new object under a name in use takes over the name; objects made from the
old one keep what they have.
-/

namespace Inertial

structure Session where
  memory : Memory
  buffers : NameMap SizedBuffer
  storages : NameMap Storage
  registries : NameMap Registry
  handles : NameMap Handle
  readings : NameMap Reading

namespace Session

def empty : Session := ⟨.empty, ∅, ∅, ∅, ∅, ∅⟩

/-- The registry of this name, which is empty until something is registered. -/
def registry (session : Session) (name : String) : Registry :=
  session.registries[name]?.getD .empty

/-- The buffer at a place, if there is one. -/
def sizedBuffer? (session : Session) : BufferPlace → Option SizedBuffer
  | .named buffer => session.buffers[buffer]?
  | .stored storage channel =>
      session.storages[storage]?.map fun buffers => ⟨channel.size, buffers.get channel⟩

/-- The buffer at a place, if it is there and has the size asked for. -/
def buffer? (session : Session) (size : Nat) (place : BufferPlace) : Option (Buffer size) :=
  (session.sizedBuffer? place).bind fun sized => sized.ofSize? size

/-- The descriptor with the buffers that its source refers to, if all of them exist and fit. -/
def descriptor? (session : Session) (sensor : SensorSource) : Option Descriptor :=
  Descriptor.find? sensor.name sensor.frame sensor.buffers.place? fun channel place =>
    session.buffer? channel.size place

/-- A storage as a whole describes a sensor with all of its buffers. -/
theorem descriptor?_storage (session : Session) (name frame storage : String)
    : session.descriptor? ⟨name, frame, .storage storage⟩
      = session.storages[storage]?.map fun buffers =>
          Descriptor.ofStorage buffers name frame := by
  have at? (channel : Channel)
      : session.buffer? channel.size (.stored storage channel)
        = session.storages[storage]?.map fun buffers => buffers.get channel := by
    simp only [buffer?, sizedBuffer?]
    cases session.storages[storage]? with
    | none => rfl
    | some buffers => exact dif_pos rfl
  simp only [descriptor?, Descriptor.find?, BufferSource.storage, Option.bind_some, at?,
    Option.isSome_map, Option.isSome_some]
  cases session.storages[storage]? <;> rfl

/-- The session after a command, and the answer, with nothing reported. -/
def quietly (session : Session) (answer : Answer) : Logged (Session × Answer) :=
  ⟨(session, answer), []⟩

/-- Keeps a handle under the name, if there is one. -/
def keepHandle (session : Session) (keepAs : Option String) (handle : Handle) : Session :=
  match keepAs with
  | none => session
  | some name => { session with handles := session.handles.insert name handle }

def keepReading (session : Session) (keepAs : Option String) (reading : Reading) : Session :=
  match keepAs with
  | none => session
  | some name => { session with readings := session.readings.insert name reading }

/-- Writes one cell of a buffer, if there are that many. -/
def writeCell
    (session : Session) {size : Nat} (buffer : Buffer size) (index : Nat) (value : Double)
    : Logged (Session × Answer) :=
  if inRange : index < size then
    quietly { session with memory := session.memory.write buffer ⟨index, inRange⟩ value } .done
  else
    session.quietly .rejected

def stepDriver (session : Session) : DriverCommand → Logged (Session × Answer)
  | .newBuffer buffer size values =>
      let (memory, reference) := session.memory.allocate values
      let buffers := session.buffers.insert buffer ⟨size, reference⟩
      quietly { session with memory, buffers } .done
  | .store buffer size values =>
      match session.buffer? size (.named buffer) with
      | none => session.quietly .rejected
      | some reference =>
          quietly { session with memory := session.memory.store reference values } .done
  | .write buffer index value =>
      match session.buffers[buffer]? with
      | none => session.quietly .rejected
      | some sized => session.writeCell sized.buffer index value
  | .newStorage storage =>
      let (memory, buffers) := Storage.allocate session.memory
      quietly { session with memory, storages := session.storages.insert storage buffers } .done
  | .storeChannel storage channel values =>
      match session.storages[storage]? with
      | none => session.quietly .rejected
      | some buffers =>
          quietly { session with memory := buffers.store session.memory channel values } .done
  | .writeChannel storage channel index value =>
      match session.storages[storage]? with
      | none => session.quietly .rejected
      | some buffers => session.writeCell (buffers.get channel) index value

def stepRegistry (session : Session) (name : String)
    : RegistryCommand → Logged (Session × Answer)
  | .register sensor =>
      match session.descriptor? sensor with
      | none => session.quietly .rejected
      | some descriptor =>
          let ⟨registry, records⟩ := (session.registry name).register descriptor
          let registries := session.registries.insert name registry
          ⟨({ session with registries }, .size registry.size), records⟩
  | .lookup sensor keepAs =>
      let ⟨found, records⟩ := (session.registry name).lookup sensor
      match found with
      | .ok handle => ⟨(session.keepHandle keepAs handle, .sensor handle), records⟩
      | .error failure => ⟨(session, .notFound failure), records⟩
  | .unregister sensor keepAs =>
      let ⟨(registry, removed), records⟩ := (session.registry name).unregister sensor
      let changed := { session with registries := session.registries.insert name registry }
      match removed with
      | none => ⟨(changed, .absent), records⟩
      | some handle => ⟨(changed.keepHandle keepAs handle, .sensor handle), records⟩
  | .contains sensor => session.quietly (.flag ((session.registry name).contains sensor))
  | .names => session.quietly (.names (session.registry name).names)
  | .overview =>
      let registry := session.registry name
      session.quietly (.overview registry.size registry.isEmpty registry.sensors)
  | .readAll =>
      session.quietly
        (.readings ((session.registry name).sensors.map fun handle => handle.read session.memory))
  | .copyTo copy =>
      let registries := session.registries.insert copy (session.registry name)
      quietly { session with registries } .done
  | .drop => quietly { session with registries := session.registries.erase name } .done
  | .inspect pretty =>
      let outline := Inspect.registry session.memory (session.registry name)
      session.quietly (.text (outline.render pretty))

def stepHandle (session : Session) (handle : Handle)
    : HandleCommand → Logged (Session × Answer)
  | .copyTo copy => quietly (session.keepHandle (some copy) handle) (.sensor handle)
  | .describe => session.quietly (.sensor handle)
  | .has mask => session.quietly (.flag (handle.has mask))
  | .view channel =>
      match handle.get channel with
      | none => session.quietly .absent
      | some buffer => session.quietly (.view channel.shape (session.memory.load buffer))
  | .write channel index value =>
      match handle.get channel with
      | none => session.quietly .absent
      | some buffer => session.writeCell buffer index value
  | .aliases channel place =>
      match handle.get channel with
      | none => session.quietly .absent
      | some buffer =>
          match session.sizedBuffer? place with
          | none => session.quietly .rejected
          | some sized =>
              -- A buffer of another size is never the one that is viewed.
              session.quietly (.flag ((sized.ofSize? channel.size).any buffer.aliases))
  | .read keepAs =>
      let reading := handle.read session.memory
      quietly (session.keepReading keepAs reading) (.reading reading)
  | .sample => session.quietly (.sample (.ofHandle handle session.memory))
  | .inspect pretty =>
      session.quietly (.text ((Inspect.handle session.memory handle).render pretty))

def step (session : Session) : Command → Logged (Session × Answer)
  | .driver command => session.stepDriver command
  | .registry name command => session.stepRegistry name command
  | .handle name command =>
      match session.handles[name]? with
      | none => session.quietly .rejected
      | some handle => session.stepHandle handle command
  | .newHandle name sensor =>
      match session.descriptor? sensor with
      | none => session.quietly .rejected
      | some descriptor =>
          let handle := Handle.ofDescriptor descriptor
          quietly (session.keepHandle (some name) handle) (.sensor handle)
  -- Dropping a name that no handle has leaves everything as it is.
  | .dropHandle name => quietly { session with handles := session.handles.erase name } .done
  | .recall name =>
      match session.readings[name]? with
      | none => session.quietly .rejected
      | some reading => session.quietly (.reading reading)
  | .compare left right =>
      match session.readings[left]?, session.readings[right]? with
      | some first, some second => session.quietly (.flag (first.numEq second))
      | _, _ => session.quietly .rejected
  | .interfaceName => session.quietly (.text Registry.interfaceName)
  | .inspectStorage storage pretty =>
      match session.storages[storage]? with
      | none => session.quietly .rejected
      | some buffers =>
          session.quietly (.text ((Inspect.storage session.memory buffers).render pretty))
  | .inspectSensor sensor pretty =>
      match session.descriptor? sensor with
      | none => session.quietly .rejected
      | some descriptor =>
          session.quietly (.text ((Inspect.descriptor session.memory descriptor).render pretty))

/-- The session after the commands, and for each of them the answer and what was reported. -/
def run (session : Session) : List Command → Session × List (Logged Answer)
  | [] => (session, [])
  | command :: rest =>
      let ⟨(next, answer), records⟩ := session.step command
      let (final, answers) := next.run rest
      (final, ⟨answer, records⟩ :: answers)

end Session

end Inertial
