import Inertial.Proofs.Quaternion.EulerAngles
import Mathlib.Analysis.Complex.Arg

/-! Where Euler angles determine an orientation. Away from a vertical pitch they determine one row
and one column of the matrix, and a rotation has no choice about its other entries. At a vertical
pitch that row and that column are fixed already, and different rotations get the same angles.
-/

namespace Inertial

open Matrix

universe u

-----------------------------------------------------------------------------------------
-- Rotations from one row and one column
-----------------------------------------------------------------------------------------

section Field

variable {Scalar : Type u} [Field Scalar]

/-- What the third row and the first column say about the other four entries. -/
structure Rigid (matrix : Matrix (Fin 3) (Fin 3) Scalar) : Prop where
  topMiddle
    : matrix 0 1 * (1 - matrix 2 0 ^ 2)
      = -(matrix 1 0 * matrix 2 2) - matrix 0 0 * matrix 2 1 * matrix 2 0
  topRight
    : matrix 0 2 * (1 - matrix 2 0 ^ 2)
      = matrix 1 0 * matrix 2 1 - matrix 0 0 * matrix 2 2 * matrix 2 0
  center
    : matrix 1 1 * (1 - matrix 2 0 ^ 2)
      = matrix 0 0 * matrix 2 2 - matrix 1 0 * matrix 2 1 * matrix 2 0
  middleRight
    : matrix 1 2 * (1 - matrix 2 0 ^ 2)
      = -(matrix 0 0 * matrix 2 1) - matrix 1 0 * matrix 2 2 * matrix 2 0

/-- The inverse of a rotation is its transpose, and the adjugate as well. -/
theorem adjugate_eq_transpose {matrix : Matrix (Fin 3) (Fin 3) Scalar}
    (orthogonal : matrix * matrixᵀ = 1) (determinant : matrix.det = 1)
    : matrix.adjugate = matrixᵀ := by
  calc
    matrix.adjugate = matrix.adjugate * (matrix * matrixᵀ) := by rw [orthogonal, mul_one]
    _ = matrixᵀ := by rw [← mul_assoc, adjugate_mul, determinant, one_smul, one_mul]

/-- Every entry of a rotation is its own cofactor. Of the four entries, two and two stand in each
other's cofactors.
-/
theorem rigid_of_rotation {matrix : Matrix (Fin 3) (Fin 3) Scalar}
    (orthogonal : matrix * matrixᵀ = 1) (determinant : matrix.det = 1)
    : Rigid matrix := by
  have cofactor (row column : Fin 3) : matrix.adjugate row column = matrix column row := by
    rw [adjugate_eq_transpose orthogonal determinant, transpose_apply]
  have topMiddle := cofactor 1 0
  have topRight := cofactor 2 0
  have center := cofactor 1 1
  have middleRight := cofactor 2 1
  simp only [adjugate_fin_three, of_apply, cons_val] at topMiddle topRight center middleRight
  constructor
  · linear_combination -topMiddle - matrix 2 0 * middleRight
  · linear_combination -topRight + matrix 2 0 * center
  · linear_combination -center + matrix 2 0 * topRight
  · linear_combination -middleRight - matrix 2 0 * topMiddle

theorem Rigid.unique {left right : Matrix (Fin 3) (Fin 3) Scalar} (leftRigid : Rigid left)
    (rightRigid : Rigid right) (row : ∀ column, left 2 column = right 2 column)
    (column : ∀ row, left row 0 = right row 0) (free : 1 - right 2 0 ^ 2 ≠ 0)
    : left = right := by
  have topMiddle := leftRigid.topMiddle
  have topRight := leftRigid.topRight
  have center := leftRigid.center
  have middleRight := leftRigid.middleRight
  simp only [row, column] at topMiddle topRight center middleRight
  ext place other
  fin_cases place <;> fin_cases other
  · exact column 0
  · exact mul_right_cancel₀ free (topMiddle.trans rightRigid.topMiddle.symm)
  · exact mul_right_cancel₀ free (topRight.trans rightRigid.topRight.symm)
  · exact column 1
  · exact mul_right_cancel₀ free (center.trans rightRigid.center.symm)
  · exact mul_right_cancel₀ free (middleRight.trans rightRigid.middleRight.symm)
  · exact row 0
  · exact row 1
  · exact row 2

end Field

section OrderedField

variable {Scalar : Type u} [Field Scalar] [LinearOrder Scalar] [IsStrictOrderedRing Scalar]

/-- No two sines in the unit interval have the same angle, no two angles are the same in degrees,
and two pairs other than zero have the same angle exactly when they point in the same direction.
-/
structure AngleFunctions.Separate (functions : AngleFunctions Scalar) : Prop where
  asin : Set.InjOn functions.asin (Set.Icc (-1) 1)
  toDegrees : Function.Injective functions.toDegrees
  atan2
    : ∀ {ordinate abscissa ordinate' abscissa' : Scalar},
        (ordinate, abscissa) ≠ (0, 0)
        → (ordinate', abscissa') ≠ (0, 0)
        → (functions.atan2 ordinate abscissa = functions.atan2 ordinate' abscissa'
          ↔ ∃ scale, 0 < scale ∧ ordinate' = scale * ordinate ∧ abscissa' = scale * abscissa)

/-- Pairs with the same angle and the same length are the same. -/
theorem AngleFunctions.Separate.pair_unique {functions : AngleFunctions Scalar}
    (separate : functions.Separate) {ordinate abscissa ordinate' abscissa' : Scalar}
    (length : ordinate ^ 2 + abscissa ^ 2 ≠ 0)
    (lengths : ordinate' ^ 2 + abscissa' ^ 2 = ordinate ^ 2 + abscissa ^ 2)
    (angles : functions.atan2 ordinate abscissa = functions.atan2 ordinate' abscissa')
    : ordinate = ordinate' ∧ abscissa = abscissa' := by
  have nonzero {first second : Scalar} (positive : first ^ 2 + second ^ 2 ≠ 0)
      : (first, second) ≠ (0, 0) := by
    rintro ⟨⟩
    simp at positive
  obtain ⟨scale, positive, rfl, rfl⟩ :=
    (separate.atan2 (nonzero length) (nonzero (lengths ▸ length))).mp angles
  have square : scale ^ 2 = 1 := by
    apply mul_right_cancel₀ length
    linear_combination lengths
  have same : scale = 1 := (pow_eq_one_iff_of_nonneg positive.le two_ne_zero).mp square
  rw [same, one_mul, one_mul]
  exact ⟨rfl, rfl⟩

namespace Quaternion

variable {rotor left right : Quaternion Scalar}

theorem third_row_length (unit : rotor.normSquared = 1)
    : rotor.rotation 2 1 ^ 2 + rotor.rotation 2 2 ^ 2 = 1 - rotor.pitchSine ^ 2 := by
  have entry := congrFun (congrFun (rotation_mul_transpose unit) 2) 2
  rw [mul_apply, Fin.sum_univ_three, one_apply_eq] at entry
  simp only [transpose_apply, rotation_two_zero] at entry
  linear_combination entry

theorem first_column_length (unit : rotor.normSquared = 1)
    : rotor.rotation 1 0 ^ 2 + rotor.rotation 0 0 ^ 2 = 1 - rotor.pitchSine ^ 2 := by
  have entry := congrFun (congrFun (transpose_mul_rotation unit) 0) 0
  rw [mul_apply, Fin.sum_univ_three, one_apply_eq] at entry
  simp only [transpose_apply, rotation_two_zero] at entry
  linear_combination entry

theorem pitchSine_mem (unit : rotor.normSquared = 1) : rotor.pitchSine ∈ Set.Icc (-1) 1 :=
  abs_le.mp (unit ▸ rotor.abs_pitchSine_le)

/-- At unit length nothing is clamped. -/
theorem eulerDegrees_of_unit (functions : AngleFunctions Scalar) (unit : rotor.normSquared = 1)
    : rotor.eulerDegrees functions
      = #v[functions.toDegrees (functions.atan2 (rotor.rotation 2 1) (rotor.rotation 2 2)),
          functions.toDegrees (functions.asin rotor.pitchSine),
          functions.toDegrees (functions.atan2 (rotor.rotation 1 0) (rotor.rotation 0 0))] := by
  rw [eulerDegrees_eq, rotation_two_zero, neg_neg, ← clampToUnit_eq,
    clampToUnit_of_abs_le (abs_le.mpr (pitchSine_mem unit))]

theorem pitchSine_eq_of_angles {functions : AngleFunctions Scalar} (separate : functions.Separate)
    (leftUnit : left.normSquared = 1) (rightUnit : right.normSquared = 1)
    (angles : functions.toDegrees (functions.asin left.pitchSine)
      = functions.toDegrees (functions.asin right.pitchSine))
    : left.pitchSine = right.pitchSine :=
  separate.asin (pitchSine_mem leftUnit) (pitchSine_mem rightUnit) (separate.toDegrees angles)

/-- The sine of the pitch leaves a positive length to the rest of the row and of the column, so that
roll and yaw determine these.
-/
theorem rotation_eq_of_angles {functions : AngleFunctions Scalar} (separate : functions.Separate)
    (leftUnit : left.normSquared = 1) (rightUnit : right.normSquared = 1)
    (slanted : |left.pitchSine| < 1)
    (angles : left.eulerDegrees functions = right.eulerDegrees functions)
    : left.rotation = right.rotation := by
  rw [eulerDegrees_of_unit functions leftUnit, eulerDegrees_of_unit functions rightUnit] at angles
  have angle (index : Fin 3) := congrArg (fun degrees : Vector Scalar 3 => degrees[index]) angles
  have pitch := pitchSine_eq_of_angles separate leftUnit rightUnit (angle 1)
  have free : 1 - left.pitchSine ^ 2 ≠ 0 :=
    (sub_pos.mpr ((sq_lt_one_iff_abs_lt_one left.pitchSine).mpr slanted)).ne'
  obtain ⟨lower, corner⟩ :=
    separate.pair_unique (by rwa [third_row_length leftUnit])
      (by rw [third_row_length leftUnit, third_row_length rightUnit, pitch])
      (separate.toDegrees (angle 0))
  obtain ⟨middle, top⟩ :=
    separate.pair_unique (by rwa [first_column_length leftUnit])
      (by rw [first_column_length leftUnit, first_column_length rightUnit, pitch])
      (separate.toDegrees (angle 2))
  have shared : left.rotation 2 0 = right.rotation 2 0 := by
    rw [rotation_two_zero, rotation_two_zero, pitch]
  have leftRigid :=
    rigid_of_rotation (rotation_mul_transpose leftUnit) (det_rotation_of_unit leftUnit)
  have rightRigid :=
    rigid_of_rotation (rotation_mul_transpose rightUnit) (det_rotation_of_unit rightUnit)
  refine leftRigid.unique rightRigid ?_ ?_ ?_
  · intro column
    fin_cases column
    · exact shared
    · exact lower
    · exact corner
  · intro row
    fin_cases row
    · exact top
    · exact middle
    · exact shared
  · rwa [rotation_two_zero, ← pitch, neg_sq]

-----------------------------------------------------------------------------------------
-- Vertical pitch
-----------------------------------------------------------------------------------------

/-- The pitch takes up the whole length of the third row and of the first column. -/
theorem eulerDegrees_locked (functions : AngleFunctions Scalar) (unit : rotor.normSquared = 1)
    (vertical : |rotor.pitchSine| = 1)
    : rotor.eulerDegrees functions
      = #v[functions.toDegrees (functions.atan2 0 0),
          functions.toDegrees (functions.asin rotor.pitchSine),
          functions.toDegrees (functions.atan2 0 0)] := by
  have none : 1 - rotor.pitchSine ^ 2 = 0 := by rw [← sq_abs, vertical, one_pow, sub_self]
  have row := third_row_length unit
  have column := first_column_length unit
  rw [none, sq, sq, mul_self_add_mul_self_eq_zero] at row column
  rw [eulerDegrees_of_unit functions unit, row.1, row.2, column.1, column.2]

/-- Unit quaternions of vertical pitch, one on either side. -/
def locked {Scalar : Type u} [Mul Scalar] [Neg Scalar] [Div Scalar] [One Scalar] [OfNat Scalar 2]
    (sine side : Scalar)
    : Quaternion Scalar :=
  ⟨side / 2, sine / 2, -(sine * side) / 2, 1 / 2⟩

theorem locked_unit {sine side : Scalar} (vertical : sine ^ 2 = 1) (turned : side ^ 2 = 1)
    : (locked sine side).normSquared = 1 := by
  simp only [locked, normSquared]
  linear_combination (1 / 4 + side ^ 2 / 4) * vertical + (1 / 2) * turned

theorem pitchSine_locked {sine side : Scalar} (turned : side ^ 2 = 1)
    : (locked sine side).pitchSine = sine := by
  simp only [locked, pitchSine]
  linear_combination (sine / 2) * turned

theorem rotation_locked (sine side : Scalar) : (locked sine side).rotation 0 1 = sine * side := by
  simp only [locked, rotation_def, of_apply, cons_val]
  ring

/-- The two sides differ in their matrices. -/
theorem exists_locked {sine : Scalar} (vertical : |sine| = 1)
    : ∃ left right : Quaternion Scalar,
        (left.normSquared = 1 ∧ left.pitchSine = sine)
        ∧ (right.normSquared = 1 ∧ right.pitchSine = sine)
        ∧ left.rotationMatrix ≠ right.rotationMatrix := by
  have square : sine ^ 2 = 1 := by rw [← sq_abs, vertical, one_pow]
  have minus : (-1 : Scalar) ^ 2 = 1 := by norm_num
  refine ⟨locked sine 1, locked sine (-1), ⟨?_, ?_⟩, ⟨?_, ?_⟩, ?_⟩
  · exact locked_unit square (one_pow 2)
  · exact pitchSine_locked (one_pow 2)
  · exact locked_unit square minus
  · exact pitchSine_locked minus
  · intro same
    have entries := congrFun (congrFun (rotation_inj.mpr same) 0) 1
    rw [rotation_locked, rotation_locked, mul_one, mul_neg_one, self_eq_neg] at entries
    norm_num [entries] at vertical

/-- A vertical pitch shows in the angles, because no other sine has its angle. -/
theorem vertical_iff {functions : AngleFunctions Scalar} (separate : functions.Separate)
    (unit : rotor.normSquared = 1)
    : |rotor.pitchSine| = 1
      ↔ (rotor.eulerDegrees functions)[1] = functions.toDegrees (functions.asin 1)
        ∨ (rotor.eulerDegrees functions)[1] = functions.toDegrees (functions.asin (-1)) := by
  have ordered : (-1 : Scalar) ≤ 1 := neg_le_self zero_le_one
  have decides {sine : Scalar} (allowed : sine ∈ Set.Icc (-1) 1)
      : (rotor.eulerDegrees functions)[1] = functions.toDegrees (functions.asin sine)
        ↔ rotor.pitchSine = sine := by
    rw [eulerDegrees_of_unit functions unit]
    exact separate.toDegrees.eq_iff.trans (separate.asin.eq_iff (pitchSine_mem unit) allowed)
  rw [decides ⟨ordered, le_rfl⟩, decides ⟨le_rfl, ordered⟩, abs_eq zero_le_one]

-----------------------------------------------------------------------------------------
-- Angles and orientations
-----------------------------------------------------------------------------------------

/-- Away from a vertical pitch, the angles of unit quaternions are the same exactly when their
matrices are. At either vertical pitch all angles are the same and the matrices are not, so that the
orientation is lost exactly where the pitch is a right angle, upwards or downwards.
-/
theorem angles_determine_orientation {functions : AngleFunctions Scalar}
    (separate : functions.Separate)
    : (∀ left right : Quaternion Scalar,
        left.normSquared = 1
        → right.normSquared = 1
        → |2 * (left.w * left.y - left.z * left.x)| < 1
        → (left.eulerDegrees functions = right.eulerDegrees functions
          ↔ left.rotationMatrix = right.rotationMatrix))
      ∧ (∀ sine : Scalar,
          |sine| = 1
          → (∀ rotor : Quaternion Scalar,
              rotor.normSquared = 1
              → 2 * (rotor.w * rotor.y - rotor.z * rotor.x) = sine
              → rotor.eulerDegrees functions
                = #v[functions.toDegrees (functions.atan2 0 0),
                    functions.toDegrees (functions.asin sine),
                    functions.toDegrees (functions.atan2 0 0)])
            ∧ ∃ left right : Quaternion Scalar,
                (left.normSquared = 1 ∧ 2 * (left.w * left.y - left.z * left.x) = sine)
                ∧ (right.normSquared = 1 ∧ 2 * (right.w * right.y - right.z * right.x) = sine)
                ∧ left.rotationMatrix ≠ right.rotationMatrix)
      ∧ ∀ rotor : Quaternion Scalar,
          rotor.normSquared = 1
          → ((∃ other : Quaternion Scalar,
                other.normSquared = 1
                ∧ other.eulerDegrees functions = rotor.eulerDegrees functions
                ∧ other.rotationMatrix ≠ rotor.rotationMatrix)
              ↔ (rotor.eulerDegrees functions)[1] = functions.toDegrees (functions.asin 1)
                ∨ (rotor.eulerDegrees functions)[1]
                  = functions.toDegrees (functions.asin (-1))) := by
  refine ⟨?_, fun sine vertical => ⟨?_, exists_locked vertical⟩, ?_⟩
  · intro left right leftUnit rightUnit slanted
    constructor
    · intro angles
      exact rotation_inj.mp (rotation_eq_of_angles separate leftUnit rightUnit slanted angles)
    · exact eulerDegrees_of_rotationMatrix functions
  · rintro rotor unit rfl
    exact eulerDegrees_locked functions unit vertical
  · intro rotor unit
    rw [← vertical_iff separate unit]
    constructor
    · rintro ⟨other, otherUnit, angles, different⟩
      by_contra slanted
      have inside : |rotor.pitchSine| < 1 :=
        lt_of_le_of_ne (unit ▸ rotor.abs_pitchSine_le) slanted
      have same := rotation_eq_of_angles separate unit otherUnit inside angles.symm
      exact different (rotation_inj.mp same).symm
    · intro vertical
      have angles {other : Quaternion Scalar} (otherUnit : other.normSquared = 1)
          (level : other.pitchSine = rotor.pitchSine)
          : other.eulerDegrees functions = rotor.eulerDegrees functions := by
        rw [eulerDegrees_locked functions unit vertical,
          eulerDegrees_locked functions otherUnit (level ▸ vertical), level]
      obtain ⟨left, right, ⟨leftUnit, leftLevel⟩, ⟨rightUnit, rightLevel⟩, different⟩ :=
        exists_locked vertical
      by_cases same : left.rotationMatrix = rotor.rotationMatrix
      · exact ⟨right, rightUnit, angles rightUnit rightLevel, same ▸ different.symm⟩
      · exact ⟨left, leftUnit, angles leftUnit leftLevel, same⟩

end Quaternion

end OrderedField

-----------------------------------------------------------------------------------------
-- Angles on the real numbers
-----------------------------------------------------------------------------------------

namespace Quaternion

/-- Points of the plane have the same argument when they lie on one ray from the origin. -/
theorem realAngles_separate : realAngles.Separate where
  asin := Real.injOn_arcsin
  toDegrees := mul_left_injective₀ (div_ne_zero (by norm_num) Real.pi_ne_zero)
  atan2 := by
    intro ordinate abscissa ordinate' abscissa' pair pair'
    have point {ordinate abscissa : ℝ} (pair : (ordinate, abscissa) ≠ (0, 0))
        : (⟨abscissa, ordinate⟩ : ℂ) ≠ 0 := by
      intro origin
      exact pair (Prod.ext (congrArg Complex.im origin) (congrArg Complex.re origin))
    have argument
        : realAngles.atan2 ordinate abscissa = realAngles.atan2 ordinate' abscissa'
          ↔ SameRay ℝ (⟨abscissa, ordinate⟩ : ℂ) ⟨abscissa', ordinate'⟩ := by
      rw [Complex.sameRay_iff, or_iff_right (point pair), or_iff_right (point pair')]
      rfl
    rw [argument, ← exists_pos_left_iff_sameRay (point pair) (point pair')]
    refine exists_congr fun scale => and_congr_right fun _ => ?_
    rw [Complex.ext_iff, Complex.smul_re, Complex.smul_im, smul_eq_mul, smul_eq_mul]
    constructor
    · rintro ⟨abscissas, ordinates⟩
      exact ⟨ordinates.symm, abscissas.symm⟩
    · rintro ⟨ordinates, abscissas⟩
      exact ⟨abscissas.symm, ordinates.symm⟩

/-- A third of a turn about the diagonal keeps its matrix among all unit quaternions with its
angles. Looking straight up, another orientation has the same angles, and the pitch is a right one.
-/
theorem real_angles_determine_orientation
    : let diagonal : Quaternion ℝ := ⟨1 / 2, 1 / 2, 1 / 2, 1 / 2⟩
      let upward : Quaternion ℝ := ⟨1 / 2, 1 / 2, -1 / 2, 1 / 2⟩
      realAngles.Separate
      ∧ (∀ other : Quaternion ℝ,
          other.normSquared = 1
          → diagonal.eulerDegrees realAngles = other.eulerDegrees realAngles
          → diagonal.rotationMatrix = other.rotationMatrix)
      ∧ upward.eulerDegrees realAngles = #v[0, 90, 0]
      ∧ ∃ other : Quaternion ℝ,
          other.normSquared = 1
          ∧ other.eulerDegrees realAngles = upward.eulerDegrees realAngles
          ∧ other.rotationMatrix ≠ upward.rotationMatrix := by
  intro diagonal upward
  obtain ⟨slanted, vertical, lost⟩ := angles_determine_orientation realAngles_separate
  have diagonalUnit : diagonal.normSquared = 1 := by norm_num [diagonal, normSquared]
  have upwardUnit : upward.normSquared = 1 := by norm_num [upward, normSquared]
  have straight : 2 * (upward.w * upward.y - upward.z * upward.x) = 1 := by norm_num [upward]
  have angles := (vertical 1 abs_one).1 upward upwardUnit straight
  refine ⟨realAngles_separate, ?_, ?_, ?_⟩
  · intro other otherUnit
    exact (slanted diagonal other diagonalUnit otherUnit (by norm_num [diagonal])).mp
  · have origin : realAngles.atan2 0 0 = 0 := Complex.arg_zero
    rw [angles, realAngles_arcsin_one, origin]
    simp [realAngles]
  · exact (lost upward upwardUnit).mpr (.inl (by rw [angles]; rfl))

end Quaternion

end Inertial
