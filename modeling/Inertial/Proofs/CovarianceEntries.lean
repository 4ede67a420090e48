import Inertial.Covariance
import Inertial.Proofs.Session.Sharing

/-! The entries of a covariance. All ways of asking for them, and all ways of writing them, number
the nine cells row by row, and indexes out of range are refused before anything is computed of them.
-/

namespace Inertial

namespace Covariance

universe u

variable {Scalar : Type u} (matrix : Covariance Scalar)

-----------------------------------------------------------------------------------------
-- Single entries
-----------------------------------------------------------------------------------------

theorem cell_lt (row column : Fin 3) : 3 * row.val + column.val < 9 := by omega

/-- The cell of a row and a column. -/
def cell (row column : Fin 3) : Fin 9 := ⟨3 * row.val + column.val, cell_lt row column⟩

theorem entry_eq (row column : Fin 3)
    : matrix.entry row column = matrix.values.get (cell row column) :=
  rfl

/-- The number of a cell does not wrap around, because both indexes are small. -/
theorem toNat_flatIndex {row column : UInt64} (rowBound : row.toNat < 3)
    (columnBound : column.toNat < 3)
    : (row * 3 + column).toNat = 3 * row.toNat + column.toNat := by
  have three : (3 : UInt64).toNat = 3 := rfl
  have product : (row * 3).toNat = 3 * row.toNat := by
    rw [UInt64.toNat_mul, three, Nat.mul_comm]
    exact Nat.mod_eq_of_lt (by omega)
  rw [UInt64.toNat_add, product]
  exact Nat.mod_eq_of_lt (by omega)

theorem get_of_lt {row column : UInt64} (rowBound : row.toNat < 3) (columnBound : column.toNat < 3)
    : matrix.get row column
      = .ok (matrix.entry ⟨row.toNat, rowBound⟩ ⟨column.toNat, columnBound⟩) := by
  have inRange : row < 3 ∧ column < 3 := ⟨rowBound, columnBound⟩
  rw [get, dif_pos inRange]
  simp only [toNat_flatIndex rowBound columnBound]
  rfl

theorem get_of_le {row column : UInt64} (outside : 3 ≤ row ∨ 3 ≤ column)
    : matrix.get row column = .error ⟨row, column⟩ := by
  rw [get, dif_neg]
  rintro ⟨rowBound, columnBound⟩
  rcases outside with outside | outside
  · exact UInt64.not_le.mpr rowBound outside
  · exact UInt64.not_le.mpr columnBound outside

theorem toNat_lt_of_not_le {index : UInt64} (inside : ¬ 3 ≤ index) : index.toNat < 3 :=
  UInt64.not_le.mp inside

/-- There is no answer but an error, with a message that names the indexes. -/
def Refuses {Answer : Type u} (outcome : Except IndexOutOfRange Answer) (row column : UInt64)
    : Prop :=
  ∃ request,
    outcome = .error request
    ∧ request.message = s!"covariance index ({row}, {column}) out of range"

theorem get_refuses_iff (row column : UInt64)
    : Refuses (matrix.get row column) row column ↔ 3 ≤ row ∨ 3 ≤ column := by
  constructor
  · rintro ⟨request, refused, _⟩
    by_contra inside
    rw [not_or] at inside
    rw [matrix.get_of_lt (toNat_lt_of_not_le inside.1) (toNat_lt_of_not_le inside.2)] at refused
    cases refused
  · intro outside
    exact ⟨_, matrix.get_of_le outside, rfl⟩

-----------------------------------------------------------------------------------------
-- Rows
-----------------------------------------------------------------------------------------

theorem get_rows_eq (row : Fin 3) : matrix.rows.get row = .ofFn (matrix.entry row) :=
  Vector.getElem_ofFn row.isLt

theorem row_of_lt {row : UInt64} (bound : row.toNat < 3)
    : matrix.row row = .ok (matrix.rows.get ⟨row.toNat, bound⟩) := by
  have left : matrix.get row 0 = .ok (matrix.entry ⟨row.toNat, bound⟩ 0) :=
    matrix.get_of_lt bound (by decide)
  have middle : matrix.get row 1 = .ok (matrix.entry ⟨row.toNat, bound⟩ 1) :=
    matrix.get_of_lt bound (by decide)
  have right : matrix.get row 2 = .ok (matrix.entry ⟨row.toNat, bound⟩ 2) :=
    matrix.get_of_lt bound (by decide)
  rw [Covariance.row, left, middle, right, get_rows_eq]
  rfl

theorem row_of_le {row : UInt64} (outside : 3 ≤ row) : matrix.row row = .error ⟨row, 0⟩ := by
  rw [Covariance.row, matrix.get_of_le (.inl outside)]
  rfl

/-- A row is refused for its first entry. -/
theorem row_refuses_iff (row : UInt64) : Refuses (matrix.row row) row 0 ↔ 3 ≤ row := by
  constructor
  · rintro ⟨request, refused, _⟩
    by_contra inside
    rw [matrix.row_of_lt (toNat_lt_of_not_le inside)] at refused
    cases refused
  · intro outside
    exact ⟨_, matrix.row_of_le outside, rfl⟩

theorem get_rows (row column : Fin 3)
    : (matrix.rows.get row).get column = matrix.values.get (cell row column) := by
  rw [get_rows_eq, ← entry_eq]
  exact Vector.getElem_ofFn column.isLt

/-- The rows one after the other are all entries, because a cell is found in the row that the
quotient of its number says, at the place that the remainder says.
-/
theorem flatten_rows : matrix.rows.flatten = matrix.values := by
  ext number bound
  have row : number / 3 < 3 := by omega
  have column : number % 3 < 3 := Nat.mod_lt number (by decide)
  rw [Vector.getElem_flatten]
  have found := matrix.get_rows ⟨number / 3, row⟩ ⟨number % 3, column⟩
  simp only [cell, Nat.div_add_mod] at found
  exact found

theorem get_diagonal (index : Fin 3) : matrix.diagonal.get index = matrix.entry index index :=
  Vector.getElem_ofFn index.isLt

end Covariance

-----------------------------------------------------------------------------------------
-- Views of a buffer
-----------------------------------------------------------------------------------------

namespace Memory

/-- The matrix that a view of the buffer shows. -/
def covariance (memory : Memory) (buffer : Buffer 9) : Covariance Double := ⟨memory.load buffer⟩

variable {memory : Memory} {buffer : Buffer 9}

theorem covariance_store (held : memory.Holds buffer) (values : Vector Double 9)
    : (memory.store buffer values).covariance buffer = ⟨values⟩ := by
  rw [covariance, load_store held]

theorem entry_covariance (memory : Memory) (buffer : Buffer 9) (row column : Fin 3)
    : (memory.covariance buffer).entry row column
      = memory.cell buffer (Covariance.cell row column) :=
  Vector.getElem_ofFn (Covariance.cell row column).isLt

/-- A cell belongs to one entry, whose indexes are the quotient and the remainder of its number. -/
theorem get_write (held : memory.Holds buffer) (written : Fin 9) (value : Double)
    (row column : UInt64)
    : ((memory.write buffer written value).covariance buffer).get row column
      = if row.toNat = written.val / 3 ∧ column.toNat = written.val % 3 then .ok value
        else (memory.covariance buffer).get row column := by
  by_cases outside : 3 ≤ row ∨ 3 ≤ column
  · have missed : ¬ (row.toNat = written.val / 3 ∧ column.toNat = written.val % 3) := by
      rintro ⟨quotient, remainder⟩
      rcases outside with outside | outside
      · have large : 3 ≤ row.toNat := outside
        omega
      · have large : 3 ≤ column.toNat := outside
        omega
    rw [if_neg missed, Covariance.get_of_le _ outside, Covariance.get_of_le _ outside]
  · rw [not_or] at outside
    have rowBound := Covariance.toNat_lt_of_not_le outside.1
    have columnBound := Covariance.toNat_lt_of_not_le outside.2
    have same
        : written.val = 3 * row.toNat + column.toNat
          ↔ row.toNat = written.val / 3 ∧ column.toNat = written.val % 3 := by
      omega
    rw [Covariance.get_of_lt _ rowBound columnBound, Covariance.get_of_lt _ rowBound columnBound,
      entry_covariance, entry_covariance, cell_write held]
    simp only [Covariance.cell, true_and, same]
    split <;> rfl

end Memory

/-- In every run, the memory has all the cells that a handle refers to. -/
theorem Session.holds_of_has {commands : List Command} {handle : Handle}
    (has : (empty.run commands).1.Has handle) {channel : Channel} {buffer : Buffer channel.size}
    (provided : handle.get channel = some buffer)
    : (empty.run commands).1.memory.Holds buffer := by
  obtain ⟨place, found⟩ := has
  obtain ⟨_, _, numbered⟩ := (run_follows commands).views found provided
  exact numbered.2.holds

/-- A covariance refuses just the indexes that are out of range, and names them. All others reach,
without wrapping around, the cell of their row and column, and every other way of asking leads to
the same cell. What is stored is what shows, a write shows in the one entry of its cell, and in
every run the memory has the cells of all views.
-/
theorem entries_are_row_major
    : (∀ (matrix : Covariance Double) (row column : UInt64),
        (Covariance.Refuses (matrix.get row column) row column ↔ 3 ≤ row ∨ 3 ≤ column)
        ∧ (Covariance.Refuses (matrix.row row) row 0 ↔ 3 ≤ row)
        ∧ ∀ r c : Fin 3,
            row.toNat = r.val
            → column.toNat = c.val
            → (row * 3 + column).toNat = (Covariance.cell r c).val
              ∧ matrix.get row column = .ok (matrix.values.get (Covariance.cell r c))
              ∧ matrix.get row row = .ok (matrix.diagonal.get r)
              ∧ matrix.row row = .ok (matrix.rows.get r)
              ∧ (matrix.rows.get r).get c = matrix.values.get (Covariance.cell r c))
      ∧ (∀ matrix : Covariance Double, matrix.rows.flatten = matrix.values)
      ∧ (∀ (memory : Memory) (buffer : Buffer 9),
          memory.Holds buffer
          → (∀ values, ((memory.store buffer values).covariance buffer).values = values)
            ∧ ∀ (written : Fin 9) (value : Double) (row column : UInt64),
                ((memory.write buffer written value).covariance buffer).get row column
                = if row.toNat = written.val / 3 ∧ column.toNat = written.val % 3 then
                    .ok value
                  else
                    (memory.covariance buffer).get row column)
      ∧ ∀ commands handle channel buffer,
          let session := (Session.empty.run commands).1
          session.Has handle
          → handle.get channel = some buffer
          → session.memory.Holds buffer := by
  refine ⟨?_, fun matrix => matrix.flatten_rows, ?_, ?_⟩
  · intro matrix row column
    refine ⟨matrix.get_refuses_iff row column, matrix.row_refuses_iff row, ?_⟩
    rintro ⟨_, rowBound⟩ ⟨_, columnBound⟩ rfl rfl
    refine ⟨Covariance.toNat_flatIndex rowBound columnBound,
      matrix.get_of_lt rowBound columnBound, ?_, matrix.row_of_lt rowBound,
      matrix.get_rows ⟨row.toNat, rowBound⟩ ⟨column.toNat, columnBound⟩⟩
    rw [matrix.get_of_lt rowBound rowBound, matrix.get_diagonal]
  · intro memory buffer held
    refine ⟨fun values => ?_, fun written value row column => ?_⟩
    · rw [Memory.covariance_store held]
    · exact Memory.get_write held written value row column
  · intro commands handle channel buffer session has provided
    exact Session.holds_of_has has provided

-- Three times this row is two in 64 bits, the number of a cell, but the row is still refused.
example (matrix : Covariance Double)
    : let row : UInt64 := 0x5555555555555556
      row * 3 = 2 ∧ matrix.get row 0 = .error ⟨row, 0⟩ := by
  exact ⟨rfl, matrix.get_of_le (.inl (by decide))⟩

end Inertial
