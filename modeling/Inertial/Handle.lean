import Inertial.Reading
import Inertial.Storage

/-!
Sensors as their drivers describe them, and the handles through which they are read. A handle
refers to the driver's buffers, so copies of it and later readings all see the current numbers.
-/

namespace Inertial

/-- A buffer of a channel that may be absent. -/
abbrev OptionalBuffer (size : Nat) : Type := Option (Buffer size)

/-- What a driver says of a sensor: its name, its frame of reference and its buffers. -/
structure Descriptor extends PerChannel OptionalBuffer where
  name : String
  frame : String

namespace Descriptor

/-- A sensor that provides nothing yet. -/
def bare (name frame : String) : Descriptor where
  toPerChannel := .ofFn fun _ => none
  name := name
  frame := frame

/-- A sensor that provides every channel of a storage. -/
def ofStorage (storage : Storage) (name frame : String) : Descriptor where
  toPerChannel := storage.map some
  name := name
  frame := frame

/-- A sensor whose buffers still have to be found. Every one that is referred to has to be there. -/
def find?
    {Place : Type} (name frame : String) (place? : Channel → Option Place)
    (find : (channel : Channel) → Place → Option (Buffer channel.size))
    : Option Descriptor :=
  let found (channel : Channel) : Option (Buffer channel.size) :=
    (place? channel).bind (find channel)
  if Channel.all.all fun channel => (found channel).isSome == (place? channel).isSome then
    some { toPerChannel := .ofFn found, name, frame }
  else
    none

theorem find?_name
    {Place : Type} {name frame : String} {place? : Channel → Option Place}
    {find : (channel : Channel) → Place → Option (Buffer channel.size)}
    {descriptor : Descriptor} (found : find? name frame place? find = some descriptor)
    : descriptor.name = name := by
  unfold find? at found
  simp only at found
  split at found
  · cases found
    rfl
  · cases found

end Descriptor

/-- A sensor as its readers see it. The mask is fixed when the handle is made. -/
structure Handle extends PerChannel OptionalBuffer where
  name : String
  frame : String
  capabilities : Capabilities

namespace Handle

/-- The mask with the flag of each channel that has a buffer. -/
def presentChannels (buffers : PerChannel OptionalBuffer) : Capabilities :=
  Channel.all.foldl (fun mask channel => mask.set channel.flag (buffers.get channel).isSome)
    Capabilities.empty

def ofDescriptor (descriptor : Descriptor) : Handle where
  toPerChannel := descriptor.toPerChannel
  name := descriptor.name
  frame := descriptor.frame
  capabilities := presentChannels descriptor.toPerChannel

/-- The sensor provides every channel of the mask; no sensor provides an unknown bit. -/
def has (handle : Handle) (mask : Capabilities) : Bool := handle.capabilities.contains mask

/-- The current numbers of every channel that the sensor provides. -/
def read (handle : Handle) (memory : Memory) : Reading :=
  ⟨handle.map fun buffer => buffer.map memory.load⟩

end Handle

end Inertial
