import Inertial.Decimal
import Inertial.Double

/-!
Doubles with a fixed number of digits behind the point. The exact binary value is rounded once, to
the nearest multiple of the last place, and halfway between two of them to the even one.
-/

namespace Inertial

/-- The integer nearest to a quotient, and the even one of two equally near. -/
def roundHalfEven (numerator denominator : Nat) : Nat :=
  let quotient := numerator / denominator
  let remainder := numerator % denominator
  if 2 * remainder < denominator then
    quotient
  else if denominator < 2 * remainder then
    quotient + 1
  else
    quotient + quotient % 2

namespace Double

/-- The magnitude in multiples of `10 ^ (-places)`. -/
def roundedTo (places : Nat) (number : Double) : Nat :=
  roundHalfEven (number.units * Nat.pow 10 places) unitsPerOne

/-- A negative pattern keeps its sign, also when the digits are all zero. -/
def fixed (places : Nat) (number : Double) : List Char :=
  let sign := if number.isNegative then ['-'] else []
  sign ++ Decimal.pointed places (number.roundedTo places)

end Double

end Inertial
