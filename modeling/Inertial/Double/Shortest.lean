import Inertial.Decimal
import Inertial.Double

/-!
The shortest decimal of a double: the fewest significant digits that read back to the same number,
and among equally short ones the nearest to it. All comparisons are exact, in multiples of a
quarter of the unit in which magnitudes are counted.
-/

namespace Inertial.Double

/-- The midpoint to the next smaller magnitude, in quarter units. The gap below a power of two is
half of the gap above it, except at the finest spacing.
-/
def lowerMidpoint (number : Double) : Nat :=
  if number.fraction = 0 ∧ 0 < number.shift then
    4 * number.units - Nat.pow 2 number.shift
  else
    4 * number.units - 2 * Nat.pow 2 number.shift

/-- The midpoint to the next larger magnitude, in quarter units. -/
def upperMidpoint (number : Double) : Nat := 4 * number.units + 2 * Nat.pow 2 number.shift

/-- The decimal rounds to the magnitude of the number: it lies between the two midpoints, and on
one of them only when the mantissa is even.
-/
def readsBack (number : Double) (decimal : Decimal) : Bool :=
  let denominator := Nat.pow 10 (-decimal.exponent).toNat
  let quarters := decimal.coefficient * Nat.pow 10 decimal.exponent.toNat * (4 * unitsPerOne)
  let lower := number.lowerMidpoint * denominator
  let upper := number.upperMidpoint * denominator
  if number.mantissa % 2 = 0 then
    lower ≤ quarters && quarters ≤ upper
  else
    lower < quarters && quarters < upper

/-- The power of ten of the first digit of a positive magnitude. -/
def leadingExponent (number : Double) : Int :=
  if unitsPerOne ≤ number.units then
    Decimal.digitCount (number.units / unitsPerOne) - 1
  else
    -Decimal.digitCount ((unitsPerOne - 1) / number.units)

/-- The nearer of the two neighbours on the grid of multiples of `10 ^ exponent` that reads back.
Halfway between them the larger one counts as nearer.
-/
def neighbour? (number : Double) (exponent : Int) : Option Decimal :=
  let numerator := number.units * Nat.pow 10 (-exponent).toNat
  let denominator := unitsPerOne * Nat.pow 10 exponent.toNat
  let below : Decimal := ⟨numerator / denominator, exponent⟩
  let above : Decimal := ⟨numerator / denominator + 1, exponent⟩
  let nearerFirst :=
    if 2 * (numerator % denominator) < denominator then [below, above] else [above, below]
  nearerFirst.find? number.readsBack

/-- All digits of the magnitude, which exist because a unit is a decimal with 1074 places. -/
def exactDecimal (number : Double) : Decimal := ⟨number.units * Nat.pow 5 1074, -1074⟩

/-- The decimal with the fewest digits that reads back; seventeen digits always suffice. -/
def shortest (number : Double) : Decimal :=
  if number.isZero then
    ⟨0, 0⟩
  else
    let found :=
      (List.range 17).findSome? fun (further : Nat) =>
        number.neighbour? (number.leadingExponent - further)
    (found.getD number.exactDecimal).normalize

/-- The sign, and the shortest decimal in the given style; NaN has no sign. -/
def render (style : DecimalStyle) (number : Double) : List Char :=
  if number.isNaN then
    "NaN".toList
  else
    let sign := if number.isNegative then ['-'] else []
    sign ++ if number.isFinite then number.shortest.render style else "inf".toList

end Inertial.Double
