import Inertial.Double

/-! Vectors with three components, and their length. -/

namespace Inertial

universe u

structure Vector3 (Scalar : Type u) where
  x : Scalar
  y : Scalar
  z : Scalar
deriving DecidableEq

namespace Vector3

variable {Scalar : Type u}

def ofVector (coordinates : Vector Scalar 3) : Vector3 Scalar where
  x := coordinates.get 0
  y := coordinates.get 1
  z := coordinates.get 2

def toVector (vector : Vector3 Scalar) : Vector Scalar 3 := #v[vector.x, vector.y, vector.z]

def normSquared [Add Scalar] [Mul Scalar] (vector : Vector3 Scalar) : Scalar :=
  vector.x * vector.x + vector.y * vector.y + vector.z * vector.z

def norm (vector : Vector3 Double) : Double := vector.normSquared.sqrt

end Vector3

end Inertial
