/-!
The six channels through which a sensor may provide numbers, and records with one entry for each
of them. An entry's type may depend on how many numbers its channel has.
-/

namespace Inertial

/-- What the numbers of a channel are the components of. -/
inductive Shape where
  | quaternion
  | vector
  | covariance
deriving DecidableEq

abbrev Shape.size : Shape → Nat
  | quaternion => 4
  | vector => 3
  | covariance => 9

inductive Channel where
  | orientation
  | orientationCovariance
  | angularVelocity
  | angularVelocityCovariance
  | linearAcceleration
  | linearAccelerationCovariance
deriving DecidableEq

namespace Channel

/-- Every channel, in the order of their capability bits and of all listings. -/
def all : List Channel :=
  [orientation, orientationCovariance, angularVelocity, angularVelocityCovariance,
    linearAcceleration, linearAccelerationCovariance]

theorem mem_all (channel : Channel) : channel ∈ all := by cases channel <;> decide

abbrev shape : Channel → Shape
  | orientation => .quaternion
  | orientationCovariance => .covariance
  | angularVelocity => .vector
  | angularVelocityCovariance => .covariance
  | linearAcceleration => .vector
  | linearAccelerationCovariance => .covariance

abbrev size (channel : Channel) : Nat := channel.shape.size

def label : Channel → String
  | orientation => "orientation"
  | orientationCovariance => "orientation_covariance"
  | angularVelocity => "angular_velocity"
  | angularVelocityCovariance => "angular_velocity_covariance"
  | linearAcceleration => "linear_acceleration"
  | linearAccelerationCovariance => "linear_acceleration_covariance"

end Channel

/-- One entry for each channel, typed by the number of components. -/
structure PerChannel (Entry : Nat → Type) where
  orientation : Entry 4
  orientationCovariance : Entry 9
  angularVelocity : Entry 3
  angularVelocityCovariance : Entry 9
  linearAcceleration : Entry 3
  linearAccelerationCovariance : Entry 9

namespace PerChannel

variable {Entry Result : Nat → Type}

def get (entries : PerChannel Entry) : (channel : Channel) → Entry channel.size
  | .orientation => entries.orientation
  | .orientationCovariance => entries.orientationCovariance
  | .angularVelocity => entries.angularVelocity
  | .angularVelocityCovariance => entries.angularVelocityCovariance
  | .linearAcceleration => entries.linearAcceleration
  | .linearAccelerationCovariance => entries.linearAccelerationCovariance

def ofFn (entry : (channel : Channel) → Entry channel.size) : PerChannel Entry where
  orientation := entry .orientation
  orientationCovariance := entry .orientationCovariance
  angularVelocity := entry .angularVelocity
  angularVelocityCovariance := entry .angularVelocityCovariance
  linearAcceleration := entry .linearAcceleration
  linearAccelerationCovariance := entry .linearAccelerationCovariance

def map (convert : {size : Nat} → Entry size → Result size) (entries : PerChannel Entry)
    : PerChannel Result :=
  ofFn fun channel => convert (entries.get channel)

@[simp] theorem get_ofFn (entry : (channel : Channel) → Entry channel.size) (channel : Channel)
    : (ofFn entry).get channel = entry channel := by
  cases channel <;> rfl

@[simp] theorem get_map
    (convert : {size : Nat} → Entry size → Result size) (entries : PerChannel Entry)
    (channel : Channel)
    : (entries.map convert).get channel = convert (entries.get channel) :=
  get_ofFn _ channel

/-- Two records are equal when they agree in every channel. -/
theorem ext_get {left right : PerChannel Entry}
    (agree : ∀ channel, left.get channel = right.get channel)
    : left = right := by
  cases left
  cases right
  congr
  · exact agree .orientation
  · exact agree .orientationCovariance
  · exact agree .angularVelocity
  · exact agree .angularVelocityCovariance
  · exact agree .linearAcceleration
  · exact agree .linearAccelerationCovariance

end PerChannel

end Inertial
