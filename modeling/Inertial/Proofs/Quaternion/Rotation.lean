import Inertial.Proofs.Quaternion.Product
import Mathlib.Algebra.Order.Ring.Rat
import Mathlib.LinearAlgebra.Matrix.Adjugate
import Mathlib.Tactic.FinCases
import Mathlib.Tactic.NormNum

/-! The matrix of a unit quaternion is the rotation by the quaternion. Products of quaternions go to
products of matrices, and exactly opposite quaternions share their matrix.
-/

namespace Inertial.Quaternion

open Matrix

universe u

/-- The nine entries as a matrix. -/
def rotation {Scalar : Type u} [Add Scalar] [Sub Scalar] [Mul Scalar] [One Scalar]
    [OfNat Scalar 2] (rotor : Quaternion Scalar)
    : Matrix (Fin 3) (Fin 3) Scalar :=
  .of fun row column => (rotor.rotationMatrix.get row).get column

section CommRing

variable {Scalar : Type u} [CommRing Scalar]

theorem rotation_def (rotor : Quaternion Scalar)
    : rotor.rotation
      = !![1 - 2 * (rotor.y * rotor.y + rotor.z * rotor.z),
          2 * (rotor.x * rotor.y - rotor.z * rotor.w),
          2 * (rotor.x * rotor.z + rotor.y * rotor.w);
        2 * (rotor.x * rotor.y + rotor.z * rotor.w),
          1 - 2 * (rotor.x * rotor.x + rotor.z * rotor.z),
          2 * (rotor.y * rotor.z - rotor.x * rotor.w);
        2 * (rotor.x * rotor.z - rotor.y * rotor.w),
          2 * (rotor.y * rotor.z + rotor.x * rotor.w),
          1 - 2 * (rotor.x * rotor.x + rotor.y * rotor.y)] := by
  ext row column
  fin_cases row <;> fin_cases column <;> rfl

/-- The entries tell matrices apart. -/
theorem rotation_inj {left right : Quaternion Scalar}
    : left.rotation = right.rotation ↔ left.rotationMatrix = right.rotationMatrix := by
  refine ⟨fun same => ?_, fun same => by rw [rotation, same, rotation]⟩
  ext row rowBound column columnBound
  exact congrFun (congrFun same ⟨row, rowBound⟩) ⟨column, columnBound⟩

-----------------------------------------------------------------------------------------
-- Quaternions of any length
-----------------------------------------------------------------------------------------

variable (rotor : Quaternion Scalar)

theorem rotation_neg : (-rotor).rotation = rotor.rotation := by
  simp only [rotation_def, neg_def, neg_mul_neg]

theorem rotation_star : (star rotor).rotation = rotor.rotationᵀ := by
  simp only [rotation_def, star_def]
  ext row column
  fin_cases row <;> fin_cases column <;> simp <;> ring

theorem rotation_one : (1 : Quaternion Scalar).rotation = 1 := by
  simp [rotation_def, one_def, one_fin_three]

/-- What is missing from unit length stretches the vector. -/
theorem rotation_mulVec (vector : Fin 3 → Scalar)
    : rotor.rotation *ᵥ vector = rotor.turn vector + (1 - rotor.normSquared) • vector := by
  ext row
  fin_cases row <;>
    simp [rotation_def, turn, vectorPart, imaginary_def, mul_def, star_def, normSquared, mulVec,
      dotProduct, Fin.sum_univ_three] <;>
    ring

theorem det_rotation
    : rotor.rotation.det
      = 1 + 4 * (rotor.normSquared - 1)
          * (rotor.x * rotor.x + rotor.y * rotor.y + rotor.z * rotor.z) := by
  simp [rotation_def, det_fin_three, normSquared]
  ring

-----------------------------------------------------------------------------------------
-- Unit quaternions
-----------------------------------------------------------------------------------------

variable {rotor}

theorem rotation_mulVec_of_unit (unit : rotor.normSquared = 1) (vector : Fin 3 → Scalar)
    : rotor.rotation *ᵥ vector = rotor.turn vector := by
  rw [rotation_mulVec, unit, sub_self, zero_smul, add_zero]

theorem det_rotation_of_unit (unit : rotor.normSquared = 1) : rotor.rotation.det = 1 := by
  rw [det_rotation, unit, sub_self, mul_zero, zero_mul, add_zero]

/-- Both matrices turn every vector in the same way. -/
theorem rotation_mul {left right : Quaternion Scalar} (leftUnit : left.normSquared = 1)
    (rightUnit : right.normSquared = 1)
    : (left * right).rotation = left.rotation * right.rotation := by
  have unit : (left * right).normSquared = 1 := by
    rw [normSquared_mul, leftUnit, rightUnit, one_mul]
  apply ext_of_mulVec_single
  intro axis
  rw [← mulVec_mulVec, rotation_mulVec_of_unit unit, rotation_mulVec_of_unit leftUnit,
    rotation_mulVec_of_unit rightUnit, turn_mul]

theorem rotation_mul_transpose (unit : rotor.normSquared = 1)
    : rotor.rotation * rotor.rotationᵀ = 1 := by
  have starUnit : (star rotor).normSquared = 1 := (normSquared_star rotor).trans unit
  rw [← rotation_star, ← rotation_mul unit starUnit, mul_star_of_unit unit, rotation_one]

theorem transpose_mul_rotation (unit : rotor.normSquared = 1)
    : rotor.rotationᵀ * rotor.rotation = 1 :=
  mul_eq_one_comm.mp (rotation_mul_transpose unit)

end CommRing

-----------------------------------------------------------------------------------------
-- Quaternions with the same matrix
-----------------------------------------------------------------------------------------

section Field

variable {Scalar : Type u} [Field Scalar] (two : (2 : Scalar) ≠ 0)

include two

/-- Off the diagonal the products of two components vanish, and on it the squares of the imaginary
ones, two by two.
-/
theorem eq_one_or_neg_one_of_rotation {rotor : Quaternion Scalar} (unit : rotor.normSquared = 1)
    (trivial : rotor.rotation = 1)
    : rotor = 1 ∨ rotor = -1 := by
  have entry (index : Fin 3) : rotor.rotation index index = 1 := by rw [trivial, one_apply_eq]
  have first := entry 0
  have second := entry 1
  have third := entry 2
  simp only [rotation_def, of_apply, cons_val, sub_eq_self, mul_eq_zero, two, false_or]
    at first second third
  have vanish {component : Scalar} (twice : 2 * (component * component) = 0) : component = 0 := by
    simpa [two] using twice
  have x : rotor.x = 0 := vanish (by linear_combination second + third - first)
  have y : rotor.y = 0 := vanish (by linear_combination first + third - second)
  have z : rotor.z = 0 := vanish (by linear_combination first + second - third)
  have square : rotor.w * rotor.w = 1 := by
    simpa [normSquared, x, y, z] using unit
  rcases mul_self_eq_one_iff.mp square with plus | minus
  · exact .inl (Quaternion.ext x y z plus)
  · refine .inr ?_
    rw [neg_def, one_def]
    ext <;> simp [x, y, z, minus]

/-- What takes one quaternion to the other has the matrix that leaves everything in place. -/
theorem rotation_eq_iff {left right : Quaternion Scalar} (leftUnit : left.normSquared = 1)
    (rightUnit : right.normSquared = 1)
    : left.rotation = right.rotation ↔ left = right ∨ left = -right := by
  constructor
  · intro same
    have starUnit : (star right).normSquared = 1 := (normSquared_star right).trans rightUnit
    have unit : (star right * left).normSquared = 1 := by
      rw [normSquared_mul, starUnit, leftUnit, one_mul]
    have trivial : (star right * left).rotation = 1 := by
      rw [rotation_mul starUnit leftUnit, rotation_star, same, transpose_mul_rotation rightUnit]
    have split : left = right * (star right * left) := by
      rw [← mul_assoc, mul_star_of_unit rightUnit, one_mul]
    rcases eq_one_or_neg_one_of_rotation two unit trivial with plus | minus
    · exact .inl (by rw [split, plus, mul_one])
    · exact .inr (by rw [split, minus, mul_neg, mul_one])
  · rintro (rfl | rfl)
    · rfl
    · exact rotation_neg right

end Field

-----------------------------------------------------------------------------------------
-- All laws together
-----------------------------------------------------------------------------------------

/-- The matrix of a unit quaternion is the rotation by the quaternion: it turns every vector as the
quaternion and its conjugate do, products go to products, and exactly equal or opposite quaternions
share it. At every length opposites share the matrix and conjugates have the transposed one.
-/
theorem matrices_turn_as_quaternions {Scalar : Type u} [Field Scalar] (two : (2 : Scalar) ≠ 0)
    : (∀ rotor : Quaternion Scalar,
        rotor.normSquared = 1
        → rotor.rotation * rotor.rotationᵀ = 1
          ∧ rotor.rotation.det = 1
          ∧ ∀ vector,
              rotor * imaginary vector * star rotor = imaginary (rotor.rotation *ᵥ vector))
      ∧ (∀ left right : Quaternion Scalar,
          left.normSquared = 1
          → right.normSquared = 1
          → (left * right).rotation = left.rotation * right.rotation
            ∧ (left.rotation = right.rotation ↔ left = right ∨ left = -right))
      ∧ ∀ rotor : Quaternion Scalar,
          (-rotor).rotation = rotor.rotation ∧ (star rotor).rotation = rotor.rotationᵀ := by
  refine ⟨?_, ?_, fun rotor => ⟨rotor.rotation_neg, rotor.rotation_star⟩⟩
  · intro rotor unit
    refine ⟨rotation_mul_transpose unit, det_rotation_of_unit unit, fun vector => ?_⟩
    rw [rotation_mulVec_of_unit unit, imaginary_turn]
  · intro left right leftUnit rightUnit
    exact ⟨rotation_mul leftUnit rightUnit, rotation_eq_iff two leftUnit rightUnit⟩

/-- Over the rationals, a third of a turn about the diagonal and a tilt about the second axis. -/
theorem rational_matrices_turn
    : let diagonal : Quaternion ℚ := ⟨1 / 2, 1 / 2, 1 / 2, 1 / 2⟩
      let tilt : Quaternion ℚ := ⟨0, 3 / 5, 0, 4 / 5⟩
      (2 : ℚ) ≠ 0
      ∧ diagonal.normSquared = 1
      ∧ tilt.normSquared = 1
      ∧ tilt.rotation.det = 1
      ∧ tilt * imaginary ![1, 2, 3] * star tilt = imaginary (tilt.rotation *ᵥ ![1, 2, 3])
      ∧ (diagonal * tilt).rotation = diagonal.rotation * tilt.rotation
      ∧ diagonal.rotation ≠ tilt.rotation := by
  intro diagonal tilt
  have two : (2 : ℚ) ≠ 0 := by decide
  have diagonalUnit : diagonal.normSquared = 1 := by norm_num [diagonal, normSquared]
  have tiltUnit : tilt.normSquared = 1 := by norm_num [tilt, normSquared]
  obtain ⟨orthogonal, products, _⟩ := matrices_turn_as_quaternions two
  obtain ⟨_, determinant, turns⟩ := orthogonal tilt tiltUnit
  obtain ⟨product, shared⟩ := products diagonal tilt diagonalUnit tiltUnit
  refine ⟨two, diagonalUnit, tiltUnit, determinant, turns _, product, ?_⟩
  rw [Ne, shared, neg_def]
  norm_num [diagonal, tilt]

end Inertial.Quaternion
