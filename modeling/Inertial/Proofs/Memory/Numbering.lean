import Inertial.Proofs.Memory.Ledger

/-! Buffers by the number under which a ledger knows them. Blocks are never removed, so a number
leads to the same buffer forever.
-/

namespace Inertial.Memory

variable {size other : Nat}

/-- The buffer is the one with this number, and it is the whole of its block. -/
def Numbered (memory : Memory) (buffer : Buffer size) (number : Nat) : Prop :=
  buffer.address = number ∧ memory.Fits buffer

/-- Every block is still there, with as many cells as before. -/
def Extends (old new : Memory) : Prop :=
  ∀ address size, old.sizeAt? address = some size → new.sizeAt? address = some size

theorem Extends.refl (memory : Memory) : memory.Extends memory := fun _ _ found => found

theorem Extends.trans {old middle new : Memory} (first : old.Extends middle)
    (second : middle.Extends new)
    : old.Extends new :=
  fun address size found => second address size (first address size found)

theorem extends_allocate (memory : Memory) (values : Vector Double size)
    : memory.Extends (memory.allocate values).1 := by
  intro address found present
  rw [sizeAt?_allocate, if_neg, present]
  rintro rfl
  simp [sizeAt?] at present

theorem extends_write
    (memory : Memory) (target : Buffer size) (index : Fin size) (value : Double)
    : memory.Extends (memory.write target index value) := by
  intro address found present
  rw [sizeAt?_write, present]

/-- By induction on the cells that are still to be written. -/
theorem extends_storeAt
    (memory : Memory) (target : Buffer size) (values : Vector Double size)
    (indexes : List (Fin size))
    : memory.Extends (memory.storeAt target values indexes) := by
  induction indexes generalizing memory with
  | nil => exact .refl memory
  | cons first rest ih => exact (memory.extends_write target first _).trans (ih _)

theorem extends_store (memory : Memory) (target : Buffer size) (values : Vector Double size)
    : memory.Extends (memory.store target values) :=
  memory.extends_storeAt target values (List.finRange size)

theorem Numbered.mono {old new : Memory} (grown : old.Extends new) {buffer : Buffer size}
    {number : Nat} (numbered : old.Numbered buffer number)
    : new.Numbered buffer number :=
  ⟨numbered.1, grown _ _ numbered.2⟩

/-- A reference into a block stays good, also when it does not take in the whole block. -/
theorem Extends.holds {old new : Memory} (grown : old.Extends new) {buffer : Buffer size}
    (held : old.Holds buffer)
    : new.Holds buffer := by
  obtain ⟨block, found, large⟩ := held
  have known : old.sizeAt? buffer.address = some block.size := by
    rw [sizeAt?, found, Option.map_some]
  obtain ⟨later, there, same⟩ := Option.map_eq_some_iff.mp (grown _ _ known)
  exact ⟨later, there, same ▸ large⟩

variable {memory : Memory} {ledger : Ledger}

/-- A new buffer is numbered next. -/
theorem Follows.numbered_allocate (follows : memory.Follows ledger) (values : Vector Double size)
    : (memory.allocate values).1.Numbered (memory.allocate values).2 ledger.made.length :=
  ⟨follows.count, by rw [Fits, sizeAt?_allocate]; exact if_pos rfl⟩

/-- A new buffer has the number that counts the buffers made before. -/
theorem Follows.numbered_next (follows : memory.Follows ledger) (values : Vector Double size)
    {number : Nat} (count : ledger.made.length = number)
    : (memory.allocate values).1.Numbered (memory.allocate values).2 number :=
  count ▸ follows.numbered_allocate values

theorem Follows.sizeOf?_numbered (follows : memory.Follows ledger) {buffer : Buffer size}
    {number : Nat} (numbered : memory.Numbered buffer number)
    : ledger.sizeOf? number = some size := by
  obtain ⟨rfl, fits⟩ := numbered
  rw [← follows.sizes]
  exact fits

end Inertial.Memory
