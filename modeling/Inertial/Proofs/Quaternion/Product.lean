import Inertial.Quaternion
import Mathlib.Algebra.Quaternion
import Mathlib.Algebra.Ring.TransferInstance
import Mathlib.Data.Fin.VecNotation
import Mathlib.Tactic.LinearCombination

/-! Quaternions multiply as Hamilton's do. A unit quaternion turns a vector when the vector is put
between the quaternion and its conjugate.
-/

namespace Inertial.Quaternion

open Matrix (vecHead vecTail)

universe u

attribute [ext] Quaternion

variable {Scalar : Type u} [CommRing Scalar]

/-- Hamilton's quaternion with the same four components. -/
def hamilton : Quaternion Scalar ≃ QuaternionAlgebra Scalar (-1) 0 (-1) where
  toFun rotor := ⟨rotor.w, rotor.x, rotor.y, rotor.z⟩
  invFun number := ⟨number.imI, number.imJ, number.imK, number.re⟩
  left_inv _ := rfl
  right_inv _ := rfl

instance : Ring (Quaternion Scalar) := hamilton.ring

theorem hamilton_mul (left right : Quaternion Scalar)
    : hamilton (left * right) = hamilton left * hamilton right := rfl

/-- Conjugates are Hamilton's, too. -/
instance : StarMul (Quaternion Scalar) where
  star rotor := hamilton.symm (star (hamilton rotor))
  star_involutive rotor := by
    change hamilton.symm (star (star (hamilton rotor))) = rotor
    rw [star_star, Equiv.symm_apply_apply]
  star_mul left right := by
    rw [hamilton_mul, star_mul]
    rfl

/-- The quaternion with these imaginary components and no real one. -/
def imaginary (vector : Fin 3 → Scalar) : Quaternion Scalar :=
  ⟨vecHead vector, vecHead (vecTail vector), vecHead (vecTail (vecTail vector)), 0⟩

def vectorPart (rotor : Quaternion Scalar) : Fin 3 → Scalar := ![rotor.x, rotor.y, rotor.z]

/-- The vector between the quaternion and its conjugate. -/
def turn (rotor : Quaternion Scalar) (vector : Fin 3 → Scalar) : Fin 3 → Scalar :=
  (rotor * imaginary vector * star rotor).vectorPart

-----------------------------------------------------------------------------------------
-- Components
-----------------------------------------------------------------------------------------

section Components

variable (rotor left right : Quaternion Scalar)

theorem one_def : (1 : Quaternion Scalar) = ⟨0, 0, 0, 1⟩ := rfl

theorem neg_def : -rotor = ⟨-rotor.x, -rotor.y, -rotor.z, -rotor.w⟩ := rfl

theorem star_def : star rotor = ⟨-rotor.x, -rotor.y, -rotor.z, rotor.w⟩ := by
  change hamilton.symm (star (hamilton rotor)) = _
  ext <;> simp [hamilton]

theorem mul_def
    : left * right
      = ⟨left.w * right.x + left.x * right.w + left.y * right.z - left.z * right.y,
        left.w * right.y - left.x * right.z + left.y * right.w + left.z * right.x,
        left.w * right.z + left.x * right.y - left.y * right.x + left.z * right.w,
        left.w * right.w - left.x * right.x - left.y * right.y - left.z * right.z⟩ := by
  change hamilton.symm (hamilton left * hamilton right) = _
  ext <;> simp [hamilton] <;> ring

theorem imaginary_def (vector : Fin 3 → Scalar)
    : imaginary vector = ⟨vector 0, vector 1, vector 2, 0⟩ := rfl

end Components

-----------------------------------------------------------------------------------------
-- Lengths
-----------------------------------------------------------------------------------------

theorem normSquared_mul (left right : Quaternion Scalar)
    : (left * right).normSquared = left.normSquared * right.normSquared := by
  simp only [normSquared, mul_def]
  ring

theorem normSquared_star (rotor : Quaternion Scalar)
    : (star rotor).normSquared = rotor.normSquared := by
  simp only [normSquared, star_def]
  ring

theorem mul_star (rotor : Quaternion Scalar)
    : rotor * star rotor = ⟨0, 0, 0, rotor.normSquared⟩ := by
  rw [mul_def, star_def]
  ext <;> simp only [normSquared] <;> ring

theorem mul_star_of_unit {rotor : Quaternion Scalar} (unit : rotor.normSquared = 1)
    : rotor * star rotor = 1 := by
  rw [mul_star, unit, one_def]

-----------------------------------------------------------------------------------------
-- Vectors between a quaternion and its conjugate
-----------------------------------------------------------------------------------------

/-- No real component comes up, so nothing but the turned vector is left. -/
theorem imaginary_turn (rotor : Quaternion Scalar) (vector : Fin 3 → Scalar)
    : imaginary (rotor.turn vector) = rotor * imaginary vector * star rotor := by
  simp only [turn, vectorPart, imaginary_def, mul_def, star_def]
  ext <;> simp
  ring

/-- A product turns by its right factor first. -/
theorem turn_mul (left right : Quaternion Scalar) (vector : Fin 3 → Scalar)
    : (left * right).turn vector = left.turn (right.turn vector) := by
  conv_rhs => rw [turn, imaginary_turn]
  rw [turn, star_mul]
  simp only [mul_assoc]

end Inertial.Quaternion
