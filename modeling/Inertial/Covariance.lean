/-!
Covariance matrices of three by three entries, stored row by row. Entries can be asked for by
64-bit indexes; an index out of range is an error that names it, found before any arithmetic on
the indexes.
-/

namespace Inertial

universe u

/-- Nine entries, row by row. -/
structure Covariance (Scalar : Type u) where
  values : Vector Scalar 9
deriving DecidableEq

/-- The request for an entry that the matrix does not have. -/
structure IndexOutOfRange where
  row : UInt64
  column : UInt64
deriving DecidableEq

def IndexOutOfRange.message (request : IndexOutOfRange) : String :=
  s!"covariance index ({request.row}, {request.column}) out of range"

namespace Covariance

variable {Scalar : Type u}

def entry (matrix : Covariance Scalar) (row column : Fin 3) : Scalar :=
  matrix.values[3 * row.val + column.val]

def rows (matrix : Covariance Scalar) : Vector (Vector Scalar 3) 3 :=
  Vector.ofFn fun row => Vector.ofFn fun column => matrix.entry row column

def diagonal (matrix : Covariance Scalar) : Vector Scalar 3 :=
  Vector.ofFn fun index => matrix.entry index index

/-- Indexes in range lead to one of the nine entries without wrapping around. -/
theorem flatIndex_lt {row column : UInt64} (inRange : row < 3 ∧ column < 3)
    : (row * 3 + column).toNat < 9 := by
  have rowBound : row.toNat < 3 := UInt64.lt_iff_toNat_lt.mp inRange.1
  have columnBound : column.toNat < 3 := UInt64.lt_iff_toNat_lt.mp inRange.2
  have product : (row * 3).toNat = row.toNat * 3 := by
    simp only [UInt64.toNat_mul, UInt64.reduceToNat]
    exact Nat.mod_eq_of_lt (by omega)
  rw [UInt64.toNat_add, product]
  exact Nat.lt_of_le_of_lt (Nat.mod_le _ _) (by omega)

def get (matrix : Covariance Scalar) (row column : UInt64) : Except IndexOutOfRange Scalar :=
  if inRange : row < 3 ∧ column < 3 then
    .ok (matrix.values.get ⟨(row * 3 + column).toNat, flatIndex_lt inRange⟩)
  else
    .error ⟨row, column⟩

/-- The three entries of a row, asked for from left to right. -/
def row (matrix : Covariance Scalar) (index : UInt64)
    : Except IndexOutOfRange (Vector Scalar 3) := do
  let left ← matrix.get index 0
  let middle ← matrix.get index 1
  let right ← matrix.get index 2
  return #v[left, middle, right]

end Covariance

end Inertial
