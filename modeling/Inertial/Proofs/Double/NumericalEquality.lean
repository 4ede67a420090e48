import Inertial.Proofs.Double.Rendering

/-! Numerical equality of doubles. It compares the values that patterns stand for, so that it tells
all patterns apart except the two zeros, and no pattern of NaN equals itself.
-/

namespace Inertial.Double

variable {left right : Double}

-----------------------------------------------------------------------------------------
-- Patterns
-----------------------------------------------------------------------------------------

/-- One is the positive zero and the other the negative one. -/
def OppositeZeros (left right : Double) : Prop := left = 0 ∧ right = -0 ∨ left = -0 ∧ right = 0

/-- Both have one pattern, or are the two zeros. -/
def SameButForZeros (left right : Double) : Prop := left = right ∨ OppositeZeros left right

/-- A zero has no magnitude bits, so only its sign is left to choose. -/
theorem isZero_iff (number : Double) : number.isZero = true ↔ number = 0 ∨ number = -0 := by
  constructor
  · intro zero
    have magnitude : number.magnitudeBits = 0 := by
      simp only [isZero, exponentField_eq, fraction_eq, Bool.and_eq_true, beq_iff_eq] at zero
      omega
    cases sign : number.isNegative with
    | false => exact .inl (eq_of_magnitudeBits sign magnitude)
    | true => exact .inr (eq_of_magnitudeBits sign magnitude)
  · rintro (rfl | rfl) <;> rfl

theorem isNaN_of_isZero {number : Double} (zero : number.isZero = true)
    : number.isNaN = false := by
  rcases number.isZero_iff.mp zero with rfl | rfl <;> rfl

theorem isFinite_of_isZero {number : Double} (zero : number.isZero = true)
    : number.isFinite = true := by
  rcases number.isZero_iff.mp zero with rfl | rfl <;> rfl

theorem OppositeZeros.isZero (opposite : OppositeZeros left right)
    : left.isZero = true ∧ right.isZero = true := by
  rcases opposite with ⟨rfl, rfl⟩ | ⟨rfl, rfl⟩ <;> exact ⟨rfl, rfl⟩

theorem sameButForZeros_of_isZero (leftZero : left.isZero = true) (rightZero : right.isZero = true)
    : left.SameButForZeros right := by
  rcases left.isZero_iff.mp leftZero with rfl | rfl <;>
    rcases right.isZero_iff.mp rightZero with rfl | rfl
  · exact .inl rfl
  · exact .inr (.inl ⟨rfl, rfl⟩)
  · exact .inr (.inr ⟨rfl, rfl⟩)
  · exact .inl rfl

theorem SameButForZeros.trans {first second third : Double}
    (former : first.SameButForZeros second) (latter : second.SameButForZeros third)
    : first.SameButForZeros third := by
  rcases former with rfl | opposite
  · exact latter
  · rcases latter with rfl | further
    · exact .inr opposite
    · exact sameButForZeros_of_isZero opposite.isZero.1 further.isZero.2

-----------------------------------------------------------------------------------------
-- Equality
-----------------------------------------------------------------------------------------

theorem numEq_iff (left right : Double)
    : left.numEq right = true ↔ left.isNaN = false ∧ left.SameButForZeros right := by
  simp only [numEq, Bool.and_eq_true, Bool.or_eq_true, Bool.not_eq_true', beq_iff_eq]
  constructor
  · rintro ⟨⟨isNumber, _⟩, same | ⟨leftZero, rightZero⟩⟩
    · exact ⟨isNumber, .inl same⟩
    · exact ⟨isNumber, sameButForZeros_of_isZero leftZero rightZero⟩
  · rintro ⟨isNumber, rfl | opposite⟩
    · exact ⟨⟨isNumber, isNumber⟩, .inl rfl⟩
    · exact ⟨⟨isNumber, isNaN_of_isZero opposite.isZero.2⟩, .inr opposite.isZero⟩

theorem numEq_self_iff (number : Double) : number.numEq number = true ↔ number.isNaN = false := by
  rw [numEq_self, Bool.not_eq_true']

/-- What equals a number equals everything that differs from it by the sign of zero at most. -/
theorem numEq_of_sameButForZeros {first second third : Double}
    (equal : first.numEq second = true) (same : second.SameButForZeros third)
    : first.numEq third = true := by
  obtain ⟨isNumber, former⟩ := (numEq_iff first second).mp equal
  exact (numEq_iff first third).mpr ⟨isNumber, former.trans same⟩

theorem numEq_trans {first second third : Double} (former : first.numEq second = true)
    (latter : second.numEq third = true)
    : first.numEq third = true :=
  numEq_of_sameButForZeros former ((numEq_iff second third).mp latter).2

-----------------------------------------------------------------------------------------
-- Values
-----------------------------------------------------------------------------------------

theorem units_eq_zero_iff (number : Double) : number.units = 0 ↔ number.isZero = true := by
  have spacing : Nat.pow 2 number.shift ≠ 0 := (Nat.pow_pos (by decide)).ne'
  rw [units, Nat.mul_eq_zero, or_iff_left spacing, isZero, Bool.and_eq_true, beq_iff_eq, beq_iff_eq,
    mantissa]
  split
  · next subnormal => exact ⟨fun fraction => ⟨subnormal, fraction⟩, fun zero => zero.2⟩
  · next normal =>
      have implicit : 0 < Nat.pow 2 52 := by decide
      exact ⟨fun none => by omega, fun zero => absurd zero.1 normal⟩

/-- All digits of a magnitude read back to its pattern, so no other pattern has as many units. -/
theorem magnitudeBits_of_units (same : left.units = right.units)
    : left.magnitudeBits = right.magnitudeBits := by
  have digits : left.exactDecimal = right.exactDecimal := by
    rw [exactDecimal, exactDecimal, same]
  have reads := right.exactDecimal_readsBack
  rw [← digits] at reads
  exact left.exactDecimal_readsBack.unique reads

theorem abs_value (number : Double) : |number.value| = number.units / unitsPerOne := by
  have magnitude : (0 : ℚ) ≤ number.units / unitsPerOne :=
    div_nonneg (Nat.cast_nonneg _) (Nat.cast_nonneg _)
  rw [value_eq_units, abs_mul, abs_of_nonneg magnitude]
  split <;> simp only [abs_neg, abs_one, one_mul]

theorem value_eq_abs (number : Double)
    : number.value = if number.isNegative then -|number.value| else |number.value| := by
  rw [abs_value, value_eq_units]
  split
  · exact neg_one_mul _
  · exact one_mul _

theorem abs_value_eq_iff : |left.value| = |right.value| ↔ left.units = right.units := by
  have positive : (0 : ℚ) < unitsPerOne := by exact_mod_cast unitsPerOne_pos
  rw [abs_value, abs_value, div_left_inj' positive.ne', Nat.cast_inj]

theorem value_eq_zero_iff (number : Double) : number.value = 0 ↔ number.isZero = true := by
  have positive : (0 : ℚ) < unitsPerOne := by exact_mod_cast unitsPerOne_pos
  rw [← abs_eq_zero, abs_value, div_eq_zero_iff, or_iff_left positive.ne', Nat.cast_eq_zero,
    units_eq_zero_iff]

/-- The value tells the patterns apart, except that the zeros have the same one. -/
theorem value_eq_iff (left right : Double)
    : left.value = right.value ↔ left.SameButForZeros right := by
  constructor
  · intro same
    by_cases signs : left.isNegative = right.isNegative
    · have units := abs_value_eq_iff.mp (congrArg abs same)
      exact .inl (eq_of_magnitudeBits signs (magnitudeBits_of_units units))
    -- Only zero is a value of both signs.
    · have opposite : left.value = -right.value := by
        rw [left.value_eq_abs, right.value_eq_abs, same, Bool.eq_not.mpr signs]
        cases right.isNegative <;> simp
      have zero : right.value = 0 := self_eq_neg.mp (same.symm.trans opposite)
      exact sameButForZeros_of_isZero (left.value_eq_zero_iff.mp (same.trans zero))
        (right.value_eq_zero_iff.mp zero)
  · rintro (rfl | opposite)
    · rfl
    · have leftZero := left.value_eq_zero_iff.mpr opposite.isZero.1
      have rightZero := right.value_eq_zero_iff.mpr opposite.isZero.2
      exact leftZero.trans rightZero.symm

/-- Numbers are equal when their values are, and an infinity is equal to itself alone. -/
theorem numEq_iff_value (left right : Double)
    : left.numEq right = true
      ↔ left.isNaN = false
        ∧ right.isNaN = false
        ∧ if left.isFinite && right.isFinite then left.value = right.value else left = right := by
  rw [numEq_iff]
  constructor
  · rintro ⟨isNumber, rfl | opposite⟩
    · refine ⟨isNumber, isNumber, ?_⟩
      split <;> rfl
    · obtain ⟨leftZero, rightZero⟩ := opposite.isZero
      have finite : (left.isFinite && right.isFinite) = true := by
        rw [isFinite_of_isZero leftZero, isFinite_of_isZero rightZero, Bool.and_self]
      refine ⟨isNumber, isNaN_of_isZero rightZero, ?_⟩
      rw [if_pos finite, value_eq_iff]
      exact .inr opposite
  · rintro ⟨isNumber, _, compared⟩
    split at compared
    · exact ⟨isNumber, (value_eq_iff left right).mp compared⟩
    · exact ⟨isNumber, .inl compared⟩

end Inertial.Double
