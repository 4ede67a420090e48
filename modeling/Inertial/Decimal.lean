/-!
Decimal numbers, a coefficient times a power of ten, and their two written forms: positional with
a point, and scientific with a power of ten behind the letter `e`.
-/

namespace Inertial

/-- The number `coefficient * 10 ^ exponent`. -/
structure Decimal where
  coefficient : Nat
  exponent : Int
deriving DecidableEq

/-- The leading powers of ten that are written positionally: from `positionalFrom` on and below
`scientificFrom`.
-/
structure DecimalStyle where
  positionalFrom : Int
  scientificFrom : Int

namespace Decimal

def digitCount (count : Nat) : Nat := (Nat.toDigits 10 count).length

/-- The power of ten of the first digit. -/
def leadingExponent (decimal : Decimal) : Int :=
  decimal.exponent + digitCount decimal.coefficient - 1

/-- Moves the trailing zeros of the coefficient into the exponent. -/
def normalize (decimal : Decimal) : Decimal :=
  if _divisible : decimal.coefficient ≠ 0 ∧ decimal.coefficient % 10 = 0 then
    normalize ⟨decimal.coefficient / 10, decimal.exponent + 1⟩
  else
    decimal
termination_by decimal.coefficient
decreasing_by omega

/-- Decimal digits with zeros in front up to the given width. -/
def padded (width count : Nat) : List Char :=
  List.replicate (width - digitCount count) '0' ++ Nat.toDigits 10 count

/-- The number `coefficient / 10 ^ places`, with that many digits behind the point. -/
def pointed (places coefficient : Nat) : List Char :=
  Nat.toDigits 10 (coefficient / Nat.pow 10 places)
    ++ '.' :: padded places (coefficient % Nat.pow 10 places)

/-- No exponent, and at least one digit behind the point. -/
def positional (decimal : Decimal) : List Char :=
  let places := max 1 (-decimal.exponent).toNat
  pointed places (decimal.coefficient * Nat.pow 10 (decimal.exponent + places).toNat)

def signedDigits (number : Int) : List Char :=
  if number < 0 then '-' :: Nat.toDigits 10 number.natAbs else Nat.toDigits 10 number.natAbs

/-- One digit before the point, and no point when there is only one digit. -/
def scientific (decimal : Decimal) : List Char :=
  let significand :=
    match Nat.toDigits 10 decimal.coefficient with
    | first :: second :: rest => first :: '.' :: second :: rest
    | digits => digits
  significand ++ 'e' :: signedDigits decimal.leadingExponent

def render (style : DecimalStyle) (decimal : Decimal) : List Char :=
  if style.positionalFrom ≤ decimal.leadingExponent
      ∧ decimal.leadingExponent < style.scientificFrom then
    decimal.positional
  else
    decimal.scientific

end Decimal

end Inertial
