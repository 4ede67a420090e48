import Inertial.Channel
import Inertial.Memory

/-!
The storage that a driver keeps for a sensor with every channel: one buffer for each.
-/

namespace Inertial

structure Storage extends PerChannel Buffer

namespace Storage

/-- No rotation, no motion and no uncertainty. -/
def initialValues : PerChannel (Vector Double) where
  orientation := #v[0, 0, 0, 1]
  orientationCovariance := Vector.replicate 9 0
  angularVelocity := Vector.replicate 3 0
  angularVelocityCovariance := Vector.replicate 9 0
  linearAcceleration := Vector.replicate 3 0
  linearAccelerationCovariance := Vector.replicate 9 0

/-- Six new buffers with the initial values. -/
def allocate (memory : Memory) : Memory × Storage :=
  let (memory, orientation) := memory.allocate initialValues.orientation
  let (memory, orientationCovariance) := memory.allocate initialValues.orientationCovariance
  let (memory, angularVelocity) := memory.allocate initialValues.angularVelocity
  let (memory, angularVelocityCovariance) :=
    memory.allocate initialValues.angularVelocityCovariance
  let (memory, linearAcceleration) := memory.allocate initialValues.linearAcceleration
  let (memory, linearAccelerationCovariance) :=
    memory.allocate initialValues.linearAccelerationCovariance
  (memory,
    { orientation, orientationCovariance, angularVelocity, angularVelocityCovariance,
      linearAcceleration, linearAccelerationCovariance })

def store
    (storage : Storage) (memory : Memory) (channel : Channel)
    (values : Vector Double channel.size)
    : Memory :=
  memory.store (storage.get channel) values

end Storage

end Inertial
