import Inertial.Proofs.Quaternion.Rotation
import Mathlib.Algebra.Order.Field.Basic
import Mathlib.Analysis.SpecialFunctions.Complex.Arg
import Mathlib.Analysis.SpecialFunctions.Trigonometric.Inverse
import Mathlib.Tactic.Linarith

/-! The Euler angles of a quaternion are those of its matrix. A rotation about the third axis, then
about the second and then about the first one, each axis as turned by those before, is a product of
three matrices, and what the angles are computed from can be read off the entries of the product.
-/

namespace Inertial.Quaternion

open Matrix

universe u

/-- The sine of the pitch, before it is clamped. -/
def pitchSine {Scalar : Type u} [Sub Scalar] [Mul Scalar] [OfNat Scalar 2]
    (rotor : Quaternion Scalar)
    : Scalar :=
  2 * (rotor.w * rotor.y - rotor.z * rotor.x)

section CommRing

variable {Scalar : Type u} [CommRing Scalar]

/-- A turn about the first axis, by the angle with this cosine and this sine. -/
def rollMatrix (cosine sine : Scalar) : Matrix (Fin 3) (Fin 3) Scalar :=
  !![1, 0, 0; 0, cosine, -sine; 0, sine, cosine]

/-- A turn about the second axis. -/
def pitchMatrix (cosine sine : Scalar) : Matrix (Fin 3) (Fin 3) Scalar :=
  !![cosine, 0, sine; 0, 1, 0; -sine, 0, cosine]

/-- A turn about the third axis. -/
def yawMatrix (cosine sine : Scalar) : Matrix (Fin 3) (Fin 3) Scalar :=
  !![cosine, -sine, 0; sine, cosine, 0; 0, 0, 1]

theorem rotation_two_zero (rotor : Quaternion Scalar) : rotor.rotation 2 0 = -rotor.pitchSine := by
  simp only [rotation_def, pitchSine, of_apply, cons_val]
  ring

/-- The third row and the first column are products of cosines and sines. -/
theorem turns_def (cosYaw sinYaw cosPitch sinPitch cosRoll sinRoll : Scalar)
    : yawMatrix cosYaw sinYaw * pitchMatrix cosPitch sinPitch * rollMatrix cosRoll sinRoll
      = !![cosYaw * cosPitch,
            -(sinYaw * cosRoll) + cosYaw * sinPitch * sinRoll,
            sinYaw * sinRoll + cosYaw * sinPitch * cosRoll;
          sinYaw * cosPitch,
            cosYaw * cosRoll + sinYaw * sinPitch * sinRoll,
            -(cosYaw * sinRoll) + sinYaw * sinPitch * cosRoll;
          -sinPitch, cosPitch * sinRoll, cosPitch * cosRoll] := by
  rw [yawMatrix, pitchMatrix, rollMatrix, mul_fin_three, mul_fin_three]
  simp only [zero_mul, mul_zero, one_mul, mul_one, add_zero, zero_add, mul_neg, neg_mul, neg_neg,
    neg_zero]

end CommRing

section OrderedField

variable {Scalar : Type u} [Field Scalar] [LinearOrder Scalar] [IsStrictOrderedRing Scalar]

theorem clampToUnit_eq (scalar : Scalar) : clampToUnit scalar = max (-1) (min scalar 1) := by
  have ordered : (-1 : Scalar) ≤ 1 := neg_le_self zero_le_one
  unfold clampToUnit
  split
  · next below => rw [min_eq_left (below.le.trans ordered), max_eq_left below.le]
  · next notBelow =>
      split
      · next above => rw [min_eq_right above.le, max_eq_right ordered]
      · next notAbove => rw [min_eq_left (not_lt.mp notAbove), max_eq_right (not_lt.mp notBelow)]

theorem clampToUnit_mem (scalar : Scalar) : clampToUnit scalar ∈ Set.Icc (-1) 1 := by
  rw [clampToUnit_eq]
  exact ⟨le_max_left _ _, max_le (neg_le_self zero_le_one) (min_le_right _ _)⟩

theorem clampToUnit_of_abs_le {scalar : Scalar} (inside : |scalar| ≤ 1)
    : clampToUnit scalar = scalar := by
  obtain ⟨lower, upper⟩ := abs_le.mp inside
  rw [clampToUnit_eq, min_eq_left upper, max_eq_right lower]

/-- The length exceeds the sine by a sum of two squares, on either side of zero. -/
theorem abs_pitchSine_le (rotor : Quaternion Scalar) : |rotor.pitchSine| ≤ rotor.normSquared := by
  rw [abs_le]
  constructor
  · have gap
        : rotor.normSquared + rotor.pitchSine
          = (rotor.w + rotor.y) ^ 2 + (rotor.z - rotor.x) ^ 2 := by
      simp only [normSquared, pitchSine]
      ring
    linarith [sq_nonneg (rotor.w + rotor.y), sq_nonneg (rotor.z - rotor.x)]
  · have gap
        : rotor.normSquared - rotor.pitchSine
          = (rotor.w - rotor.y) ^ 2 + (rotor.z + rotor.x) ^ 2 := by
      simp only [normSquared, pitchSine]
      ring
    linarith [sq_nonneg (rotor.w - rotor.y), sq_nonneg (rotor.z + rotor.x)]

variable (functions : AngleFunctions Scalar)

theorem eulerDegrees_eq (rotor : Quaternion Scalar)
    : rotor.eulerDegrees functions
      = #v[functions.toDegrees (functions.atan2 (rotor.rotation 2 1) (rotor.rotation 2 2)),
          functions.toDegrees (functions.asin (max (-1) (min (-rotor.rotation 2 0) 1))),
          functions.toDegrees (functions.atan2 (rotor.rotation 1 0) (rotor.rotation 0 0))] := by
  have roll : 2 * (rotor.w * rotor.x + rotor.y * rotor.z) = rotor.rotation 2 1 := by
    simp only [rotation_def, of_apply, cons_val]
    ring
  have yaw : 2 * (rotor.w * rotor.z + rotor.x * rotor.y) = rotor.rotation 1 0 := by
    simp only [rotation_def, of_apply, cons_val]
    ring
  rw [rotation_two_zero, neg_neg, ← clampToUnit_eq, ← roll, ← yaw]
  rfl

theorem eulerDegrees_of_rotationMatrix {left right : Quaternion Scalar}
    (same : left.rotationMatrix = right.rotationMatrix)
    : left.eulerDegrees functions = right.eulerDegrees functions := by
  rw [eulerDegrees_eq, eulerDegrees_eq, rotation_inj.mpr same]

theorem eulerDegrees_neg (rotor : Quaternion Scalar)
    : (-rotor).eulerDegrees functions = rotor.eulerDegrees functions := by
  rw [eulerDegrees_eq, eulerDegrees_eq, rotation_neg]

/-- Nothing is asked of the arcsine outside the unit interval. -/
theorem eulerDegrees_congr {functions others : AngleFunctions Scalar}
    (atan2 : others.atan2 = functions.atan2) (toDegrees : others.toDegrees = functions.toDegrees)
    (asin : Set.EqOn others.asin functions.asin (Set.Icc (-1) 1)) (rotor : Quaternion Scalar)
    : rotor.eulerDegrees others = rotor.eulerDegrees functions := by
  have same := asin (clampToUnit_mem rotor.pitchSine)
  rw [pitchSine] at same
  simp only [eulerDegrees, atan2, toDegrees, same]

/-- The angles are read off the matrix, as those of its turns about the third, the second and the
first axis. So quaternions with one matrix have the same angles, and among them opposite ones. Only
inside the unit interval is the arcsine asked for, and up to unit length nothing has to be clamped.
-/
theorem angles_follow_rotation (rotor : Quaternion Scalar)
    : rotor.eulerDegrees functions
        = #v[functions.toDegrees (functions.atan2 (rotor.rotation 2 1) (rotor.rotation 2 2)),
            functions.toDegrees (functions.asin (max (-1) (min (-rotor.rotation 2 0) 1))),
            functions.toDegrees (functions.atan2 (rotor.rotation 1 0) (rotor.rotation 0 0))]
      ∧ (∀ cosYaw sinYaw cosPitch sinPitch cosRoll sinRoll,
          rotor.rotation
            = yawMatrix cosYaw sinYaw * pitchMatrix cosPitch sinPitch * rollMatrix cosRoll sinRoll
          → rotor.eulerDegrees functions
            = #v[functions.toDegrees (functions.atan2 (cosPitch * sinRoll) (cosPitch * cosRoll)),
                functions.toDegrees (functions.asin (max (-1) (min sinPitch 1))),
                functions.toDegrees (functions.atan2 (sinYaw * cosPitch) (cosYaw * cosPitch))])
      ∧ (∀ other : Quaternion Scalar,
          other.rotationMatrix = rotor.rotationMatrix
          → other.eulerDegrees functions = rotor.eulerDegrees functions)
      ∧ (-rotor).eulerDegrees functions = rotor.eulerDegrees functions
      ∧ (∀ others : AngleFunctions Scalar,
          others.atan2 = functions.atan2
          → others.toDegrees = functions.toDegrees
          → Set.EqOn others.asin functions.asin (Set.Icc (-1) 1)
          → rotor.eulerDegrees others = rotor.eulerDegrees functions)
      ∧ max (-1) (min (-rotor.rotation 2 0) 1) ∈ Set.Icc (-1) 1
      ∧ (rotor.normSquared ≤ 1 → max (-1) (min (-rotor.rotation 2 0) 1) = -rotor.rotation 2 0) := by
  refine ⟨eulerDegrees_eq functions rotor, ?_, ?_, eulerDegrees_neg functions rotor, ?_, ?_, ?_⟩
  · intro cosYaw sinYaw cosPitch sinPitch cosRoll sinRoll turns
    rw [eulerDegrees_eq, turns, turns_def]
    simp only [of_apply, cons_val, neg_neg]
  · intro other same
    exact eulerDegrees_of_rotationMatrix functions same
  · intro others atan2 toDegrees asin
    exact eulerDegrees_congr atan2 toDegrees asin rotor
  · rw [← clampToUnit_eq]
    exact clampToUnit_mem _
  · intro short
    rw [← clampToUnit_eq, rotation_two_zero, neg_neg]
    exact clampToUnit_of_abs_le (rotor.abs_pitchSine_le.trans short)

end OrderedField

/-- The angle functions on the real numbers. -/
noncomputable def realAngles : AngleFunctions ℝ where
  atan2 ordinate abscissa := Complex.arg ⟨abscissa, ordinate⟩
  asin := Real.arcsin
  toDegrees angle := angle * (180 / Real.pi)

theorem realAngles_pi : realAngles.toDegrees Real.pi = 180 :=
  mul_div_cancel₀ 180 Real.pi_ne_zero

theorem realAngles_arcsin_one : realAngles.toDegrees (realAngles.asin 1) = 90 := by
  change Real.arcsin 1 * (180 / Real.pi) = 90
  rw [Real.arcsin_one, div_mul_eq_mul_div, mul_div_cancel₀ 180 Real.pi_ne_zero]
  norm_num

/-- A quaternion longer than one, whose sine of two is clamped to that of a right angle. -/
theorem overlong_angles
    : IsStrictOrderedRing ℝ
      ∧ (⟨0, 1, 0, 1⟩ : Quaternion ℝ).eulerDegrees realAngles = #v[180, 90, 180] := by
  have matrix
      : (⟨0, 1, 0, 1⟩ : Quaternion ℝ).rotation = !![-1, 0, 2; 0, 1, 0; -2, 0, -1] := by
    rw [rotation_def]
    norm_num
  have behind : realAngles.atan2 0 (-1) = Real.pi := by
    rw [← Complex.arg_neg_one]
    change Complex.arg ⟨-1, 0⟩ = Complex.arg (-1)
    congr 1
    apply Complex.ext <;> simp
  refine ⟨inferInstance, ?_⟩
  rw [(angles_follow_rotation realAngles ⟨0, 1, 0, 1⟩).1, matrix]
  simp [behind, realAngles_pi, realAngles_arcsin_one]

end Inertial.Quaternion
