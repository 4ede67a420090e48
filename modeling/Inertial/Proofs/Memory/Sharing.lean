import Inertial.Memory

/-! Sharing as it can be observed. A buffer is the one that a view refers to when everything stored
into it is read back through the view, and another one when nothing stored into it shows there.
-/

namespace Inertial

variable {size : Nat}

/-- Zeros, with a one wherever the given number is a zero. -/
def contrasting (values : Vector Double size) : Vector Double size :=
  values.map fun value => if value = 0 then 1 else 0

/-- No cell of a contrasting vector agrees, so neither do the vectors when there is a cell. -/
theorem contrasting_ne (values : Vector Double size) (cells : 0 < size)
    : contrasting values ≠ values := by
  intro same
  have first : (contrasting values)[0] = values[0] := by rw [same]
  simp only [contrasting, Vector.getElem_map] at first
  split at first
  · next zero =>
      rw [zero] at first
      exact absurd first (by decide)
  · next nonzero => exact nonzero first.symm

namespace Memory

variable {memory : Memory} {view : Buffer size}

theorem aliases_iff (view buffer : Buffer size)
    : view.aliases buffer = true ↔ view.address = buffer.address := by
  rw [Buffer.aliases, beq_iff_eq]
  exact ⟨congrArg Buffer.address, congrArg Buffer.mk⟩

theorem load_store_aliased (held : memory.Holds view) {buffer : Buffer size}
    (aliased : view.aliases buffer = true) (values : Vector Double size)
    : (memory.store buffer values).load view = values := by
  obtain rfl : view = buffer := by simpa [Buffer.aliases] using aliased
  exact load_store held values

theorem load_store_apart (held : memory.Holds view) {buffer : Buffer size}
    (apart : view.aliases buffer = false) (values : Vector Double size)
    : (memory.store buffer values).load view = memory.load view := by
  have addresses : buffer.address ≠ view.address := by
    intro same
    rw [(aliases_iff view buffer).mpr same.symm] at apart
    cases apart
  ext index bound
  simp [load, cell_store held, addresses]

/-- Storing something else than is there tells the two cases apart, in both directions. -/
theorem aliases_iff_read_back (held : memory.Holds view) (cells : 0 < size)
    (buffer : Buffer size)
    : view.aliases buffer = true
      ↔ ∀ values, (memory.store buffer values).load view = values := by
  refine ⟨fun aliased values => load_store_aliased held aliased values, fun readBack => ?_⟩
  rw [← Bool.not_eq_false]
  intro apart
  have unseen := load_store_apart held apart (contrasting (memory.load view))
  rw [readBack] at unseen
  exact contrasting_ne _ cells unseen

theorem not_aliases_iff_unseen (held : memory.Holds view) (cells : 0 < size)
    (buffer : Buffer size)
    : view.aliases buffer = false
      ↔ ∀ values, (memory.store buffer values).load view = memory.load view := by
  refine ⟨fun apart values => load_store_apart held apart values, fun unseen => ?_⟩
  rw [← Bool.not_eq_true]
  intro aliased
  have readBack := load_store_aliased held aliased (contrasting (memory.load view))
  rw [unseen] at readBack
  exact contrasting_ne _ cells readBack.symm

end Memory

end Inertial
