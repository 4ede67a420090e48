import Inertial.Double

/-!
Orientations as quaternions, their rotation matrices and their Euler angles. The formulas are
polynomials over any type with the ring operations; the angles take the inverse trigonometric
functions as a parameter.
-/

namespace Inertial

universe u

/-- A quaternion with the imaginary components first and the real one last. -/
structure Quaternion (Scalar : Type u) where
  x : Scalar
  y : Scalar
  z : Scalar
  w : Scalar
deriving DecidableEq

/-- What the Euler angles need besides the ring operations. -/
structure AngleFunctions (Scalar : Type u) where
  atan2 : Scalar → Scalar → Scalar
  asin : Scalar → Scalar
  toDegrees : Scalar → Scalar

namespace Quaternion

variable {Scalar : Type u}

def ofVector (coordinates : Vector Scalar 4) : Quaternion Scalar where
  x := coordinates[0]
  y := coordinates[1]
  z := coordinates[2]
  w := coordinates[3]

def toVector (rotor : Quaternion Scalar) : Vector Scalar 4 :=
  #v[rotor.x, rotor.y, rotor.z, rotor.w]

variable [Add Scalar] [Sub Scalar] [Mul Scalar]

def normSquared (rotor : Quaternion Scalar) : Scalar :=
  rotor.x * rotor.x + rotor.y * rotor.y + rotor.z * rotor.z + rotor.w * rotor.w

variable [One Scalar] [OfNat Scalar 2]

/-- The rows of the matrix that rotates a vector the way the unit quaternion does. -/
def rotationMatrix (rotor : Quaternion Scalar) : Vector (Vector Scalar 3) 3 :=
  let { x, y, z, w } := rotor
  #v[
    #v[1 - 2 * (y * y + z * z), 2 * (x * y - z * w), 2 * (x * z + y * w)],
    #v[2 * (x * y + z * w), 1 - 2 * (x * x + z * z), 2 * (y * z - x * w)],
    #v[2 * (x * z - y * w), 2 * (y * z + x * w), 1 - 2 * (x * x + y * y)]]

variable [Neg Scalar] [LT Scalar] [DecidableLT Scalar]

/-- The nearest scalar between minus one and one; what compares with neither stays as it is. -/
def clampToUnit (scalar : Scalar) : Scalar :=
  if scalar < -1 then -1 else if 1 < scalar then 1 else scalar

/-- Roll, pitch and yaw in degrees. The argument of the arcsine is clamped, because rounding may
carry it past one.
-/
def eulerDegrees (functions : AngleFunctions Scalar) (rotor : Quaternion Scalar)
    : Vector Scalar 3 :=
  let { x, y, z, w } := rotor
  let roll := functions.atan2 (2 * (w * x + y * z)) (1 - 2 * (x * x + y * y))
  let pitch := functions.asin (clampToUnit (2 * (w * y - z * x)))
  let yaw := functions.atan2 (2 * (w * z + x * y)) (1 - 2 * (y * y + z * z))
  #v[functions.toDegrees roll, functions.toDegrees pitch, functions.toDegrees yaw]

end Quaternion

def Double.angleFunctions : AngleFunctions Double where
  atan2 := Double.atan2
  asin := Double.asin
  toDegrees := Double.toDegrees

def Quaternion.norm (rotor : Quaternion Double) : Double := rotor.normSquared.sqrt

end Inertial
