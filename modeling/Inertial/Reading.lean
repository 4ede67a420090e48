import Inertial.Capabilities
import Inertial.Double

/-!
Readings: copies of the numbers that a sensor provides, channel by channel, taken at one moment. A
reading says by itself which channels it has.
-/

namespace Inertial

/-- The numbers of a channel that may be absent. -/
abbrev OptionalValues (size : Nat) : Type := Option (Vector Double size)

structure Reading extends PerChannel OptionalValues

namespace Reading

def empty : Reading := ⟨.ofFn fun _ => none⟩

def has (reading : Reading) (channel : Channel) : Bool := (reading.get channel).isSome

/-- One bit for each channel that the reading has. -/
def capabilities (reading : Reading) : Capabilities :=
  Capabilities.empty
    |>.set Channel.orientation.flag reading.orientation.isSome
    |>.set Channel.orientationCovariance.flag reading.orientationCovariance.isSome
    |>.set Channel.angularVelocity.flag reading.angularVelocity.isSome
    |>.set Channel.angularVelocityCovariance.flag reading.angularVelocityCovariance.isSome
    |>.set Channel.linearAcceleration.flag reading.linearAcceleration.isSome
    |>.set Channel.linearAccelerationCovariance.flag reading.linearAccelerationCovariance.isSome

end Reading

/-- Both are absent, or both are present and numerically equal component by component. -/
def OptionalValues.numEq {size : Nat} : OptionalValues size → OptionalValues size → Bool
  | none, none => true
  | some left, some right => left.isEqv right Double.numEq
  | _, _ => false

/-- Numerical equality in every channel. -/
def Reading.numEq (left right : Reading) : Bool :=
  Channel.all.all fun channel => (left.get channel).numEq (right.get channel)

end Inertial
