import Inertial.Demo.JsonLines
import Inertial.Proofs.Double.Rounding
import Inertial.Proofs.Text.WrittenDecimals

/-! The numbers on a line of JSON: what is written reads back to the exact value, rounded once. -/

namespace Inertial

namespace Double

def isInfinite (number : Double) : Bool := number.exponentField == 2047 && number.fraction == 0

theorem isFinite_eq_false_iff (number : Double)
    : number.isFinite = false ↔ number.isInfinite = true ∨ number.isNaN = true := by
  simp only [isFinite, isInfinite, isNaN, bne_eq_false_iff_eq, Bool.and_eq_true, beq_iff_eq,
    bne_iff_ne]
  tauto

theorem fixed_eq (places : ℕ) (number : Double)
    : number.fixed places = number.sign ++ Decimal.pointed places (number.roundedTo places) := rfl

theorem readBack_fixed {places : ℕ} (positive : 0 < places) (number : Double)
    : Decimal.readBack (number.fixed places) = number.signedRoundedTo places / 10 ^ places := by
  rw [fixed_eq, sign, signedRoundedTo]
  -- `simp` would try to evaluate the power of two that the number is rounded with.
  generalize number.roundedTo places = coefficient
  cases number.isNegative with
  | true =>
      have negated := Decimal.readBack_minus (Decimal.pointed places coefficient)
      rw [Decimal.readMagnitude_pointed positive] at negated
      simpa [neg_div] using negated
  | false => simpa using Decimal.readBack_pointed positive coefficient

/-- A fixed number of places starts with a sign or a digit, so it is not the word for none. -/
theorem fixed_ne_null {places : ℕ} (positive : 0 < places) (number : Double)
    : number.fixed places ≠ "null".toList := by
  obtain ⟨first, rest, same, isDigit⟩ :=
    (Decimal.isPointed_pointed positive (number.roundedTo places)).exists_first
  rw [fixed_eq, sign, same]
  intro null
  cases negative : number.isNegative with
  | true => simp [negative] at null
  | false =>
      simp only [negative, Bool.false_eq_true, if_false, List.nil_append, String.toList] at null
      injection null with letter
      rw [letter] at isDigit
      cases isDigit

end Double

namespace Demo.JsonLines

/-- How a finite number is written: its sign, digits of which three stand behind the point, and
with them the multiple of a thousandth that is nearest to the number, of two equally near the even
one.
-/
structure IsRounding (value : Double) (text : List Char) : Prop where
  shape : ∃ digits, text = value.sign ++ digits ∧ Decimal.IsPointed 3 digits
  nearest
    : ∃ thousandths : ℤ,
        Decimal.readBack text = thousandths / 1000
        ∧ NearestEven (1 / 1000) value.value thousandths
  close : |Decimal.readBack text - value.value| ≤ 1 / 2000

theorem number_of_isFinite {value : Double} (isFinite : value.isFinite = true)
    : number (some value) = value.fixed 3 := by
  rw [number, if_pos isFinite]

theorem number_eq_null_iff (value : Double)
    : number (some value) = "null".toList ↔ value.isInfinite = true ∨ value.isNaN = true := by
  rw [← Double.isFinite_eq_false_iff]
  cases isFinite : value.isFinite with
  | true => simpa [number_of_isFinite isFinite] using value.fixed_ne_null (by decide)
  | false => simp [number, isFinite]

theorem readBack_number {value : Double} (isFinite : value.isFinite = true)
    : Decimal.readBack (number (some value)) = value.signedRoundedTo 3 / 1000 := by
  rw [number_of_isFinite isFinite, Double.readBack_fixed (by decide)]
  norm_num

theorem signedRoundedTo_thousandths (value : Double)
    : NearestEven (1 / 1000) value.value (value.signedRoundedTo 3) := by
  have nearest := value.signedRoundedTo_nearest 3
  norm_num at nearest ⊢
  exact nearest

theorem number_isRounding {value : Double} (isFinite : value.isFinite = true)
    : IsRounding value (number (some value)) := by
  have nearest := signedRoundedTo_thousandths value
  refine ⟨⟨_, number_of_isFinite isFinite, Decimal.isPointed_pointed (by decide) _⟩,
    ⟨_, readBack_number isFinite, nearest⟩, ?_⟩
  have half := ((nearestEven_iff (by norm_num)).mp nearest).1
  rw [readBack_number isFinite, abs_sub_comm]
  norm_num [div_eq_mul_inv] at half ⊢
  exact half

/-- Nearest multiples keep the order of the numbers. -/
theorem readBack_number_mono {smaller larger : Double} (smallerFinite : smaller.isFinite = true)
    (largerFinite : larger.isFinite = true) (order : smaller.value ≤ larger.value)
    : Decimal.readBack (number (some smaller)) ≤ Decimal.readBack (number (some larger)) := by
  have rounded : smaller.signedRoundedTo 3 ≤ larger.signedRoundedTo 3 :=
    (signedRoundedTo_thousandths smaller).mono (by norm_num) (signedRoundedTo_thousandths larger)
      order
  rw [readBack_number smallerFinite, readBack_number largerFinite]
  gcongr

/-- What is absent, infinite or not a number is written as null, and every other number rounded to
the nearest thousandth, with its sign. So the written numbers are off by half a thousandth at most,
and never in another order than the numbers themselves.
-/
theorem number_rounds_exactly
    : number none = "null".toList
      ∧ (∀ value : Double,
          number (some value) = "null".toList ↔ value.isInfinite = true ∨ value.isNaN = true)
      ∧ (∀ value : Double, value.isFinite = true → IsRounding value (number (some value)))
      ∧ ∀ smaller larger : Double,
          smaller.isFinite = true
          → larger.isFinite = true
          → smaller.value ≤ larger.value
          → Decimal.readBack (number (some smaller)) ≤ Decimal.readBack (number (some larger)) :=
  ⟨rfl, number_eq_null_iff, fun _ isFinite => number_isRounding isFinite,
    fun _ _ smallerFinite largerFinite => readBack_number_mono smallerFinite largerFinite⟩

-- Odd sixteenths are halfway between two thousandths, of which the even one is written.
example
    : number (some 0.0625) = "0.062".toList ∧ number (some 0.1875) = "0.188".toList := by
  decide +kernel

end Demo.JsonLines

end Inertial
