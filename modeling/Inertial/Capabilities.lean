import Inertial.Channel

/-!
Capability masks: sixteen bits, of which six say which channels a sensor provides. Bits without a
channel may be set and take part in every operation except the complement.
-/

namespace Inertial

/-- A mask of capability bits. -/
structure Capabilities where
  bits : UInt16
deriving DecidableEq

namespace Channel

/-- The mask whose only bit is the one of the channel. -/
def flag : Channel → Capabilities
  | orientation => ⟨0x01⟩
  | orientationCovariance => ⟨0x02⟩
  | angularVelocity => ⟨0x04⟩
  | angularVelocityCovariance => ⟨0x08⟩
  | linearAcceleration => ⟨0x10⟩
  | linearAccelerationCovariance => ⟨0x20⟩

def flagName : Channel → String
  | orientation => "ORIENTATION"
  | orientationCovariance => "ORIENTATION_COVARIANCE"
  | angularVelocity => "ANGULAR_VELOCITY"
  | angularVelocityCovariance => "ANGULAR_VELOCITY_COVARIANCE"
  | linearAcceleration => "LINEAR_ACCELERATION"
  | linearAccelerationCovariance => "LINEAR_ACCELERATION_COVARIANCE"

/-- The channel whose flag has exactly this name. -/
def ofFlagName? (name : String) : Option Channel :=
  all.find? fun channel => channel.flagName == name

end Channel

namespace Capabilities

def empty : Capabilities := ⟨0⟩

/-- The bits of all six channels. -/
def known : Capabilities := ⟨0x3F⟩

def union (left right : Capabilities) : Capabilities := ⟨left.bits ||| right.bits⟩

def inter (left right : Capabilities) : Capabilities := ⟨left.bits &&& right.bits⟩

def diff (left right : Capabilities) : Capabilities := ⟨left.bits &&& ~~~right.bits⟩

def symmDiff (left right : Capabilities) : Capabilities := ⟨left.bits ^^^ right.bits⟩

/-- Adds the bits when they are to be present and takes them away otherwise. -/
def set (mask flags : Capabilities) (present : Bool) : Capabilities :=
  if present then mask.union flags else mask.diff flags

def isEmpty (mask : Capabilities) : Bool := mask == empty

/-- Every bit of `flags` is set in `mask`; the empty mask is contained in every other one. -/
def contains (mask flags : Capabilities) : Bool := mask.inter flags == flags

def intersects (left right : Capabilities) : Bool := !(left.inter right).isEmpty

/-- Takes away the bits that stand for no channel. -/
def truncate (mask : Capabilities) : Capabilities := mask.inter known

/-- The known bits that are not set. -/
def complement (mask : Capabilities) : Capabilities := known.diff mask

def isAll (mask : Capabilities) : Bool := mask.contains known

/-- The mask of these bits, if every one of them stands for a channel. -/
def ofKnownBits? (bits : UInt16) : Option Capabilities :=
  if known.contains ⟨bits⟩ then some ⟨bits⟩ else none

/-- The channels whose bits are set. -/
def channels (mask : Capabilities) : List Channel :=
  Channel.all.filter fun channel => mask.contains channel.flag

/-- The mask as a number, with at least the given count of lower-case digits. -/
def hexadecimal (width : Nat) (mask : Capabilities) : String :=
  let digits := Nat.toDigits 16 mask.bits.toNat
  "0x" ++ String.ofList (List.replicate (width - digits.length) '0' ++ digits)

/-- The names of the set flags with bars between them, then the other bits as one number; the
empty mask is the number zero.
-/
def describe (mask : Capabilities) : String :=
  let names := mask.channels.map Channel.flagName
  let others := mask.diff known
  let parts := if others.isEmpty then names else names ++ [others.hexadecimal 1]
  if mask.isEmpty then mask.hexadecimal 1 else " | ".intercalate parts

/-- The description, marked as that of a mask. -/
def inspect (mask : Capabilities) : String := s!"Capabilities({mask.describe})"

end Capabilities

end Inertial
