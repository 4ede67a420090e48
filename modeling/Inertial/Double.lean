/-!
Floating-point numbers of 64 bits, kept as their bit patterns. Equality of patterns tells the two
zeros and all NaN patterns apart; numerical equality identifies the zeros and no NaN with anything.
Arithmetic is that of the machine type `Float`, which keeps one pattern for NaN.
-/

namespace Inertial

/-- A number as its bit pattern: a sign bit, eleven exponent bits and fifty-two fraction bits. -/
structure Double where
  bits : UInt64
deriving DecidableEq

namespace Double

def isNegative (number : Double) : Bool := Nat.pow 2 63 ≤ number.bits.toNat

def exponentField (number : Double) : Nat := number.bits.toNat / Nat.pow 2 52 % Nat.pow 2 11

def fraction (number : Double) : Nat := number.bits.toNat % Nat.pow 2 52

def isFinite (number : Double) : Bool := number.exponentField != 2047

def isNaN (number : Double) : Bool := number.exponentField == 2047 && number.fraction != 0

def isZero (number : Double) : Bool := number.exponentField == 0 && number.fraction == 0

/-- The integer significand: normal numbers have an implicit leading bit, subnormal ones do not. -/
def mantissa (number : Double) : Nat :=
  if number.exponentField = 0 then number.fraction else Nat.pow 2 52 + number.fraction

/-- The distance to the next larger magnitude is `2 ^ shift` units of `2 ^ -1074`. The exponent
fields 0 and 1 share the finest spacing.
-/
def shift (number : Double) : Nat := number.exponentField - 1

/-- The magnitude of a finite number, counted in units of `2 ^ -1074`, the least positive number. -/
def units (number : Double) : Nat := number.mantissa * Nat.pow 2 number.shift

/-- How many units make one. -/
def unitsPerOne : Nat := Nat.pow 2 1074

/-- Numerical equality: NaN equals nothing, the zeros equal each other, and any other number
equals only its own pattern.
-/
def numEq (left right : Double) : Bool :=
  !left.isNaN && !right.isNaN && (left == right || (left.isZero && right.isZero))

theorem numEq_self (number : Double) : number.numEq number = !number.isNaN := by
  cases nan : number.isNaN <;> simp [numEq, nan]

theorem numEq_comm (left right : Double) : left.numEq right = right.numEq left := by
  rw [Bool.eq_iff_iff]
  simp only [numEq, Bool.and_eq_true, Bool.or_eq_true, beq_iff_eq]
  grind

def toFloat (number : Double) : Float := Float.ofBits number.bits

def ofFloat (value : Float) : Double := ⟨value.toBits⟩

/-- The double nearest to a count, a tie going to the even mantissa. -/
def ofCount (count : UInt64) : Double := ofFloat count.toFloat

instance : Inhabited Double := ⟨⟨0⟩⟩
instance : Zero Double := ⟨⟨0⟩⟩
instance : One Double := ⟨⟨0x3FF0000000000000⟩⟩
instance : OfNat Double 2 := ⟨⟨0x4000000000000000⟩⟩

/-- A decimal literal is the nearest double. -/
instance : OfScientific Double :=
  ⟨fun digits negative exponent => ofFloat (OfScientific.ofScientific digits negative exponent)⟩

instance : Neg Double := ⟨fun number => ⟨number.bits ^^^ 0x8000000000000000⟩⟩
instance : Add Double := ⟨fun left right => ofFloat (left.toFloat + right.toFloat)⟩
instance : Sub Double := ⟨fun left right => ofFloat (left.toFloat - right.toFloat)⟩
instance : Mul Double := ⟨fun left right => ofFloat (left.toFloat * right.toFloat)⟩
instance : Div Double := ⟨fun left right => ofFloat (left.toFloat / right.toFloat)⟩
instance : LT Double := ⟨fun left right => left.toFloat < right.toFloat⟩

instance (left right : Double) : Decidable (left < right) :=
  inferInstanceAs (Decidable (left.toFloat < right.toFloat))

def sqrt (number : Double) : Double := ofFloat number.toFloat.sqrt
def sin (number : Double) : Double := ofFloat number.toFloat.sin
def cos (number : Double) : Double := ofFloat number.toFloat.cos
def asin (number : Double) : Double := ofFloat number.toFloat.asin
def atan2 (ordinate abscissa : Double) : Double :=
  ofFloat (ordinate.toFloat.atan2 abscissa.toFloat)

/-- Degrees in one radian, the double nearest to 180 / π. -/
def degreesPerRadian : Double := ⟨0x404CA5DC1A63C1F8⟩

/-- One multiplication by the rounded constant, so that the result is rounded once more. -/
def toDegrees (number : Double) : Double := number * degreesPerRadian

end Double

end Inertial
