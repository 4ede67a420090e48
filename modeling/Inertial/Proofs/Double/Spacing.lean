import Inertial.Double.Shortest
import Inertial.Proofs.Double.Rounding
import Inertial.Proofs.Text.WrittenDecimals

/-!
The midpoints between neighbouring magnitudes, and that a decimal reads back to one magnitude only:
where the ranges of two neighbours touch, one of them leaves its midpoint to the other.
-/

namespace Inertial

namespace Double

-----------------------------------------------------------------------------------------
-- Patterns without their sign
-----------------------------------------------------------------------------------------

/-- The pattern without its sign bit, which orders the magnitudes. -/
def magnitudeBits (number : Double) : ℕ := number.bits.toNat % 2 ^ 63

theorem exponentField_eq (number : Double)
    : number.exponentField = number.magnitudeBits / 2 ^ 52 := by
  unfold exponentField magnitudeBits
  simp only [Nat.pow_eq]
  omega

theorem fraction_eq (number : Double) : number.fraction = number.magnitudeBits % 2 ^ 52 := by
  unfold fraction magnitudeBits
  simp only [Nat.pow_eq]
  omega

/-- A sign and a magnitude make a pattern. -/
theorem eq_of_magnitudeBits {left right : Double} (signs : left.isNegative = right.isNegative)
    (magnitudes : left.magnitudeBits = right.magnitudeBits)
    : left = right := by
  unfold isNegative at signs
  unfold magnitudeBits at magnitudes
  have leftBound := left.bits.toNat_lt
  have rightBound := right.bits.toNat_lt
  have signs := decide_eq_decide.mp signs
  simp only [Nat.pow_eq] at signs
  have bits : left.bits.toNat = right.bits.toNat := by omega
  cases left
  cases right
  exact congrArg mk (UInt64.toNat_inj.mp bits)

theorem mantissa_mod_two (number : Double) : number.mantissa % 2 = number.magnitudeBits % 2 := by
  unfold mantissa
  rw [fraction_eq]
  simp only [Nat.pow_eq]
  split <;> omega

-----------------------------------------------------------------------------------------
-- Neighbours
-----------------------------------------------------------------------------------------

/-- The midpoint above a magnitude is the one below the next. -/
theorem upperMidpoint_eq {left right : Double}
    (next : right.magnitudeBits = left.magnitudeBits + 1)
    : left.upperMidpoint = right.lowerMidpoint := by
  unfold upperMidpoint lowerMidpoint units mantissa shift
  rw [exponentField_eq, exponentField_eq, fraction_eq, fraction_eq, next]
  simp only [Nat.pow_eq]
  generalize left.magnitudeBits = magnitude
  by_cases last : magnitude % 2 ^ 52 + 1 = 2 ^ 52
  -- The next magnitude is a power of two, where the spacing doubles unless it is the finest one.
  · have quotient : (magnitude + 1) / 2 ^ 52 = magnitude / 2 ^ 52 + 1 := by omega
    have remainder : (magnitude + 1) % 2 ^ 52 = 0 := by omega
    have fraction : magnitude % 2 ^ 52 = 2 ^ 52 - 1 := by omega
    rw [quotient, remainder, fraction]
    cases magnitude / 2 ^ 52 with
    | zero => decide
    | succ exponent =>
        simp only [Nat.succ_ne_zero, if_false, true_and, Nat.add_sub_cancel, Nat.succ_pos, if_true,
          Nat.add_zero, Nat.pow_succ 2 exponent]
        omega
  · have quotient : (magnitude + 1) / 2 ^ 52 = magnitude / 2 ^ 52 := by omega
    have remainder : (magnitude + 1) % 2 ^ 52 = magnitude % 2 ^ 52 + 1 := by omega
    rw [quotient, remainder]
    generalize 2 ^ (magnitude / 2 ^ 52 - 1) = spacing
    simp only [Nat.succ_ne_zero, false_and, if_false]
    split
    · rw [Nat.add_mul (magnitude % 2 ^ 52) 1 spacing]
      omega
    · rw [← Nat.add_assoc, Nat.add_mul (2 ^ 52 + magnitude % 2 ^ 52) 1 spacing]
      omega

theorem lowerMidpoint_lt (number : Double) : number.lowerMidpoint < number.upperMidpoint := by
  have spacing : 0 < Nat.pow 2 number.shift := Nat.pow_pos (by decide)
  unfold lowerMidpoint upperMidpoint
  split <;> omega

/-- By induction from one magnitude to the next larger ones, each of which has midpoints apart. -/
theorem upperMidpoint_le (left : Double) {right : Double}
    (less : left.magnitudeBits < right.magnitudeBits)
    : left.upperMidpoint ≤ right.lowerMidpoint
      ∧ (left.upperMidpoint = right.lowerMidpoint
        → right.magnitudeBits = left.magnitudeBits + 1) := by
  obtain ⟨magnitude, pattern⟩ : ∃ magnitude, magnitude = right.magnitudeBits := ⟨_, rfl⟩
  induction magnitude generalizing right with
  | zero => omega
  | succ magnitude ih =>
      have bound : right.magnitudeBits < 2 ^ 63 := Nat.mod_lt _ (by decide)
      have previous : (mk (.ofNat magnitude)).magnitudeBits = magnitude := by
        rw [magnitudeBits, UInt64.toNat_ofNat']
        omega
      have adjacent : (mk (.ofNat magnitude)).upperMidpoint = right.lowerMidpoint :=
        upperMidpoint_eq (by rw [previous, pattern])
      by_cases next : left.magnitudeBits = magnitude
      · have same : left.upperMidpoint = right.lowerMidpoint := upperMidpoint_eq (by omega)
        exact ⟨same.le, fun _ => by omega⟩
      · have below := (ih (by omega) previous.symm).1
        have apart := lowerMidpoint_lt (mk (.ofNat magnitude))
        exact ⟨by omega, fun same => by omega⟩

-----------------------------------------------------------------------------------------
-- Decimals between the midpoints
-----------------------------------------------------------------------------------------

/-- How many quarter units make a number. -/
def quarters (number : ℚ) : ℚ := number * (4 * unitsPerOne)

/-- The decimal reads back to the number: it is between the midpoints, or on one of them if the
mantissa is even.
-/
structure ReadsBack (number : Double) (value : ℚ) : Prop where
  lower : (number.lowerMidpoint : ℚ) ≤ quarters value
  upper : quarters value ≤ number.upperMidpoint
  between
    : number.mantissa % 2 ≠ 0
      → (number.lowerMidpoint : ℚ) ≠ quarters value ∧ quarters value ≠ number.upperMidpoint

/-- The patterns of neighbours are odd and even in turn, so no midpoint belongs to both. -/
theorem ReadsBack.not_less {left right : Double} {value : ℚ} (reads : left.ReadsBack value)
    (others : right.ReadsBack value)
    : ¬ left.magnitudeBits < right.magnitudeBits := by
  intro less
  obtain ⟨order, adjacent⟩ := left.upperMidpoint_le less
  have cast : (left.upperMidpoint : ℚ) ≤ right.lowerMidpoint := by exact_mod_cast order
  have upper : quarters value = left.upperMidpoint :=
    reads.upper.antisymm (cast.trans others.lower)
  have lower : (right.lowerMidpoint : ℚ) = quarters value :=
    others.lower.antisymm (reads.upper.trans cast)
  have next := adjacent (by exact_mod_cast (lower.trans upper).symm)
  have parity := left.mantissa_mod_two
  have otherParity := right.mantissa_mod_two
  by_cases odd : left.mantissa % 2 = 0
  · exact (others.between (by omega)).1 lower
  · exact (reads.between odd).2 upper

theorem ReadsBack.unique {left right : Double} {value : ℚ} (reads : left.ReadsBack value)
    (others : right.ReadsBack value)
    : left.magnitudeBits = right.magnitudeBits :=
  Nat.le_antisymm (Nat.le_of_not_lt (others.not_less reads))
    (Nat.le_of_not_lt (reads.not_less others))

/-- The comparisons of integers are those of the numbers, multiplied by the denominator. -/
theorem readsBack_iff (number : Double) (decimal : Decimal)
    : number.readsBack decimal = true ↔ number.ReadsBack decimal.value := by
  set denominator := Nat.pow 10 (-decimal.exponent).toNat with denominator_eq
  set numerator :=
    decimal.coefficient * Nat.pow 10 decimal.exponent.toNat * (4 * unitsPerOne) with numerator_eq
  have positive : (0 : ℚ) < denominator := by
    rw [denominator_eq, Nat.pow_eq]
    exact_mod_cast Nat.pow_pos (by decide)
  have quotient : quarters decimal.value = numerator / denominator := by
    rw [quarters, Decimal.value, Decimal.zpow_toNat, numerator_eq, denominator_eq, Nat.pow_eq,
      Nat.pow_eq]
    push_cast
    ring
  have lower_le (count : ℕ)
      : count * denominator ≤ numerator ↔ (count : ℚ) ≤ quarters decimal.value := by
    rw [quotient, le_div_iff₀ positive]
    exact_mod_cast Iff.rfl
  have le_upper (count : ℕ)
      : numerator ≤ count * denominator ↔ quarters decimal.value ≤ count := by
    rw [quotient, div_le_iff₀ positive]
    exact_mod_cast Iff.rfl
  unfold readsBack
  simp only [← denominator_eq, ← numerator_eq]
  split
  · next even =>
      rw [Bool.and_eq_true, decide_eq_true_iff, decide_eq_true_iff, lower_le, le_upper]
      constructor
      · rintro ⟨lower, upper⟩
        exact ⟨lower, upper, fun odd => absurd even odd⟩
      · intro reads
        exact ⟨reads.lower, reads.upper⟩
  · next odd =>
      rw [Bool.and_eq_true, decide_eq_true_iff, decide_eq_true_iff, ← not_le, ← not_le, le_upper,
        lower_le, not_le, not_le]
      constructor
      · rintro ⟨lower, upper⟩
        exact ⟨lower.le, upper.le, fun _ => ⟨lower.ne, upper.ne⟩⟩
      · intro reads
        obtain ⟨lower, upper⟩ := reads.between odd
        exact ⟨reads.lower.lt_of_ne lower, reads.upper.lt_of_ne upper⟩

end Double

end Inertial
