import Inertial.Double.Fixed
import Mathlib.Algebra.Field.Rat
import Mathlib.Algebra.Order.Field.Basic
import Mathlib.Algebra.Order.Ring.Rat
import Mathlib.Algebra.Ring.Int.Parity
import Mathlib.Tactic.FieldSimp
import Mathlib.Tactic.Linarith
import Mathlib.Tactic.Push
import Mathlib.Tactic.Qify
import Mathlib.Tactic.Ring

/-! The exact numbers that patterns stand for, and how they are rounded: to the nearest multiple of
the last place, and halfway between two multiples to the even one.
-/

namespace Inertial

/-- The multiple of a step that is nearest to a number, and of two equally near the even one. -/
structure NearestEven (step number : ℚ) (count : ℤ) : Prop where
  nearest : ∀ other : ℤ, |number - count * step| ≤ |number - other * step|
  even : ∀ other : ℤ, other ≠ count → |number - other * step| = |number - count * step| → Even count

section Nearest

variable {step number : ℚ} {count : ℤ}

/-- Different multiples are a step apart at least. -/
theorem step_le_distance (number : ℚ) (positive : 0 < step) {other : ℤ} (different : other ≠ count)
    : step ≤ |number - other * step| + |number - count * step| := by
  have apart : (1 : ℚ) ≤ |((other - count : ℤ) : ℚ)| := by
    exact_mod_cast Int.one_le_abs (sub_ne_zero.mpr different)
  have scaled : step ≤ |((other - count : ℤ) : ℚ) * step| := by
    rw [abs_mul, abs_of_pos positive]
    nlinarith
  have split
      : ((other - count : ℤ) : ℚ) * step = (number - count * step) - (number - other * step) := by
    push_cast
    ring
  rw [split] at scaled
  linarith [abs_sub (number - count * step) (number - other * step)]

/-- What is nearest is at most half a step away, and even when it is just that far away. -/
theorem nearestEven_iff (positive : 0 < step)
    : NearestEven step number count
      ↔ |number - count * step| ≤ step / 2
        ∧ (|number - count * step| = step / 2 → Even count) := by
  constructor
  · intro nearest
    -- The neighbour on the side of the number is a step less the distance away.
    obtain ⟨other, different, distance⟩
        : ∃ other : ℤ,
            other ≠ count
            ∧ |number - other * step| = abs (step - |number - count * step|) := by
      rcases le_total 0 (number - count * step) with above | below
      · refine ⟨count + 1, by omega, ?_⟩
        rw [abs_of_nonneg above, ← abs_neg]
        push_cast
        congr 1
        ring
      · refine ⟨count - 1, by omega, ?_⟩
        rw [abs_of_nonpos below]
        push_cast
        congr 1
        ring
    have near := nearest.nearest other
    have half : |number - count * step| ≤ step / 2 := by
      by_contra far
      rw [distance] at near
      rcases abs_cases (step - |number - count * step|) with ⟨same, _⟩ | ⟨same, _⟩ <;> linarith
    refine ⟨half, fun tie => nearest.even other different ?_⟩
    rw [distance, tie, abs_of_nonneg] <;> linarith
  · rintro ⟨half, tie⟩
    refine ⟨fun other => ?_, fun other different same => tie ?_⟩
    · by_cases equal : other = count
      · rw [equal]
      · linarith [step_le_distance number positive equal]
    · linarith [step_le_distance number positive different]

theorem NearestEven.neg (nearest : NearestEven step number count)
    : NearestEven step (-number) (-count) := by
  have mirrored (other : ℤ)
      : |-number - other * step| = |number - (-other : ℤ) * step| := by
    rw [← abs_neg]
    push_cast
    congr 1
    ring
  refine ⟨fun other => ?_, fun other different same => ?_⟩
  · rw [mirrored, mirrored, neg_neg]
    exact nearest.nearest (-other)
  · rw [mirrored, mirrored, neg_neg] at same
    exact (nearest.even (-other) (by omega) same).neg

/-- Two numbers in order have their nearest multiples in order: if those were in the other order,
both numbers would lie halfway between two neighbours of which both are even.
-/
theorem NearestEven.mono (positive : 0 < step) (nearest : NearestEven step number count)
    {larger : ℚ} {other : ℤ} (others : NearestEven step larger other) (order : number ≤ larger)
    : count ≤ other := by
  by_contra less
  have apart : other + 1 ≤ count := by omega
  have gap : (other + 1 : ℚ) * step ≤ count * step :=
    mul_le_mul_of_nonneg_right (by exact_mod_cast apart) positive.le
  obtain ⟨half, tie⟩ := (nearestEven_iff positive).mp nearest
  obtain ⟨otherHalf, otherTie⟩ := (nearestEven_iff positive).mp others
  have lower := abs_le.mp half
  have upper := abs_le.mp otherHalf
  have here : number - count * step = -(step / 2) := by linarith
  have there : larger - other * step = step / 2 := by linarith
  have even := tie (by rw [here, abs_neg, abs_of_pos (by linarith)])
  have otherEven := otherTie (by rw [there, abs_of_pos (by linarith)])
  have adjacent : count = other + 1 := by
    have close : (count : ℚ) * step ≤ (other + 1) * step := by linarith
    have bound : (count : ℚ) ≤ other + 1 := le_of_mul_le_mul_right close positive
    have whole : count ≤ other + 1 := by exact_mod_cast bound
    omega
  rw [adjacent, Int.even_add_one] at even
  exact even otherEven

/-- A factor on the number and on the step makes no difference. -/
theorem NearestEven.scale (nearest : NearestEven step number count) {factor : ℚ}
    (positive : 0 < factor)
    : NearestEven (step * factor) (number * factor) count := by
  have scaled (other : ℤ)
      : |number * factor - other * (step * factor)| = |number - other * step| * factor := by
    rw [← abs_of_pos positive, ← abs_mul, abs_of_pos positive]
    congr 1
    ring
  refine ⟨fun other => ?_, fun other different same => nearest.even other different ?_⟩
  · rw [scaled, scaled]
    exact mul_le_mul_of_nonneg_right (nearest.nearest other) positive.le
  · rw [scaled, scaled] at same
    exact mul_right_cancel₀ positive.ne' same

end Nearest

section HalfEven

variable {fraction : ℚ} (whole : ℕ)

theorem nearestEven_down (nonnegative : 0 ≤ fraction) (less : fraction < 1 / 2)
    : NearestEven 1 (whole + fraction) whole := by
  rw [nearestEven_iff one_pos, mul_one, Int.cast_natCast, add_sub_cancel_left,
    abs_of_nonneg nonnegative]
  exact ⟨less.le, fun tie => absurd tie less.ne⟩

theorem nearestEven_up (greater : 1 / 2 < fraction) (less : fraction < 1)
    : NearestEven 1 (whole + fraction) (whole + 1 : ℕ) := by
  have distance : |(whole + fraction : ℚ) - ((whole + 1 : ℕ) : ℤ) * 1| = 1 - fraction := by
    push_cast
    rw [abs_of_nonpos (by linarith)]
    ring
  rw [nearestEven_iff one_pos, distance]
  exact ⟨by linarith, fun tie => by linarith⟩

theorem nearestEven_tie : NearestEven 1 (whole + 1 / 2) (whole + whole % 2 : ℕ) := by
  have even : Even ((whole + whole % 2 : ℕ) : ℤ) := by
    rw [Int.even_coe_nat, Nat.even_iff]
    omega
  refine (nearestEven_iff one_pos).mpr ⟨?_, fun _ => even⟩
  rcases Nat.mod_two_eq_zero_or_one whole with parity | parity
  · rw [parity]
    push_cast
    rw [abs_of_nonneg] <;> linarith
  · rw [parity]
    push_cast
    rw [abs_of_nonpos] <;> linarith

end HalfEven

/-- Twice the remainder against the divisor decides, and the quotient's parity in a tie. -/
theorem roundHalfEven_nearest (numerator : ℕ) {denominator : ℕ} (positive : 0 < denominator)
    : NearestEven 1 (numerator / denominator) (roundHalfEven numerator denominator) := by
  have cast : (0 : ℚ) < denominator := by exact_mod_cast positive
  set quotient := numerator / denominator with quotient_eq
  set remainder := numerator % denominator with remainder_eq
  have division : (numerator : ℚ) / denominator = quotient + remainder / denominator := by
    have parts : (numerator : ℚ) = denominator * quotient + remainder := by
      exact_mod_cast (Nat.div_add_mod numerator denominator).symm
    rw [parts]
    field_simp
  rw [division]
  simp only [roundHalfEven, ← quotient_eq, ← remainder_eq]
  split
  · next below =>
      have doubled : (2 * remainder : ℚ) < denominator := by exact_mod_cast below
      refine nearestEven_down quotient (by positivity) ?_
      rw [div_lt_iff₀ cast]
      linarith
  · split
    · next above =>
        have doubled : (denominator : ℚ) < 2 * remainder := by exact_mod_cast above
        have small : (remainder : ℚ) < denominator := by
          exact_mod_cast Nat.mod_lt numerator positive
        refine nearestEven_up quotient ?_ ((div_lt_one cast).mpr small)
        rw [lt_div_iff₀ cast]
        linarith
    · next notBelow notAbove =>
        have doubled : (2 * remainder : ℚ) = denominator := by
          exact_mod_cast (by omega : 2 * remainder = denominator)
        have tie : (remainder : ℚ) / denominator = 1 / 2 := by
          rw [div_eq_iff cast.ne']
          linarith
        rw [tie]
        exact nearestEven_tie quotient

namespace Double

theorem two_pow_cast (power : ℕ) : ((Nat.pow 2 power : ℕ) : ℚ) = 2 ^ power := by
  rw [Nat.pow_eq, Nat.cast_pow, Nat.cast_ofNat]

theorem unitsPerOne_cast : (unitsPerOne : ℚ) = 2 ^ 1074 := by
  unfold unitsPerOne
  generalize 1074 = power
  exact two_pow_cast power

theorem unitsPerOne_pos : 0 < unitsPerOne := by
  have cast : (0 : ℚ) < unitsPerOne :=
    lt_of_lt_of_eq (pow_pos two_pos 1074) unitsPerOne_cast.symm
  exact_mod_cast cast

/-- The number that a finite pattern stands for: its sign, its significand, and its power of two.
-/
def value (number : Double) : ℚ :=
  (if number.isNegative then -1 else 1) * number.mantissa * 2 ^ (number.shift - 1074 : ℤ)

theorem value_eq_units (number : Double)
    : number.value = (if number.isNegative then -1 else 1) * (number.units / unitsPerOne) := by
  have scale (shift power : ℕ) : (2 : ℚ) ^ (shift - power : ℤ) = 2 ^ shift / 2 ^ power := by
    rw [zpow_sub₀ two_ne_zero, zpow_natCast, zpow_natCast]
  have units : (number.units : ℚ) = number.mantissa * 2 ^ number.shift := by
    rw [units, Nat.cast_mul, two_pow_cast]
  rw [value, units, unitsPerOne_cast, mul_assoc, mul_div_assoc]
  exact congrArg _ (congrArg _ (scale number.shift 1074))

/-- The sign as it is written, which is that of the pattern. -/
def sign (number : Double) : List Char := if number.isNegative then ['-'] else []

/-- The digits with the sign of the number, in multiples of the last place. -/
def signedRoundedTo (places : ℕ) (number : Double) : ℤ :=
  if number.isNegative then -number.roundedTo places else number.roundedTo places

/-- The magnitude is rounded as one quotient of integers, and the sign put in front of it. -/
theorem signedRoundedTo_nearest (places : ℕ) (number : Double)
    : NearestEven (1 / 10 ^ places) number.value (number.signedRoundedTo places) := by
  have power : (0 : ℚ) < 10 ^ places := pow_pos (by norm_num) places
  have magnitude
      : NearestEven (1 / 10 ^ places) (number.units / unitsPerOne) (number.roundedTo places) := by
    have rounded := roundHalfEven_nearest (number.units * Nat.pow 10 places) unitsPerOne_pos
    have scaled := rounded.scale (one_div_pos.mpr power)
    rw [one_mul, Nat.cast_mul, Nat.pow_eq, Nat.cast_pow, Nat.cast_ofNat, div_mul_div_comm, mul_one,
      mul_div_mul_right _ _ power.ne'] at scaled
    exact scaled
  rw [value_eq_units, signedRoundedTo]
  cases number.isNegative with
  | true =>
      have mirrored := magnitude.neg
      rw [← neg_one_mul] at mirrored
      exact mirrored
  | false =>
      simpa only [Bool.false_eq_true, if_false, one_mul] using magnitude

end Double

end Inertial
