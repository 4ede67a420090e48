import Inertial.Handle

/-!
Samples: readings in a layout without optional channels, where a mask says which channels count and
the others are filled with zeros.
-/

namespace Inertial

structure Sample extends PerChannel (Vector Double) where
  capabilities : Capabilities

namespace Sample

/-- The same number in every component of every channel. -/
def filled (capabilities : Capabilities) (value : Double) : Sample where
  toPerChannel := .ofFn fun channel => Vector.replicate channel.size value
  capabilities := capabilities

/-- The mask of the handle, and its current numbers with zeros for what it does not provide. -/
def ofHandle (handle : Handle) (memory : Memory) : Sample where
  toPerChannel := (handle.read memory).map fun values => values.getD (Vector.replicate _ 0)
  capabilities := handle.capabilities

/-- The reading in which exactly the channels of the mask are present. -/
def toReading (sample : Sample) : Reading :=
  ⟨.ofFn fun channel =>
    if sample.capabilities.contains channel.flag then some (sample.get channel) else none⟩

end Sample

end Inertial
