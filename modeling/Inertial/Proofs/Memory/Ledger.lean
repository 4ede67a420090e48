import Inertial.Memory

/-!
Ledgers: which buffers were made with which numbers, and which cells were written since, in the
order of time. A ledger keeps no current numbers. A memory follows a ledger when each of its cells
holds what was written there last, or what the buffer was made with.
-/

namespace Inertial

/-- One number put into one cell. Buffers go by the order in which they were made. -/
structure CellWrite where
  buffer : Nat
  index : Nat
  value : Double

structure Ledger where
  made : List (List Double)
  writes : List CellWrite

namespace Ledger

def empty : Ledger := ⟨[], []⟩

/-- What the cell held when its buffer was made. -/
def initial? (ledger : Ledger) (buffer index : Nat) : Option Double :=
  ledger.made[buffer]?.bind fun values => values[index]?

/-- The writes to one cell, in the order of time. -/
def writesTo (ledger : Ledger) (buffer index : Nat) : List CellWrite :=
  ledger.writes.filter fun write => write.buffer == buffer && write.index == index

/-- The number written to the cell most recently, or the initial one if there was no write. -/
def latest? (ledger : Ledger) (buffer index : Nat) : Option Double :=
  match (ledger.writesTo buffer index).getLast? with
  | some write => some write.value
  | none => ledger.initial? buffer index

def sizeOf? (ledger : Ledger) (buffer : Nat) : Option Nat :=
  ledger.made[buffer]?.map List.length

def make (ledger : Ledger) (values : List Double) : Ledger :=
  { ledger with made := ledger.made ++ [values] }

def record (ledger : Ledger) (write : CellWrite) : Ledger :=
  { ledger with writes := ledger.writes ++ [write] }

/-- The writes that put these numbers into the first cells of a buffer. -/
def wholeBuffer {size : Nat} (buffer : Nat) (values : Vector Double size) : List CellWrite :=
  (List.finRange size).map fun index => ⟨buffer, index.val, getElem values index.val index.isLt⟩

/-- One write, if the buffer is there and has such a cell. -/
def cellWrite (ledger : Ledger) (buffer : Option Nat) (index : Nat) (value : Double)
    : List CellWrite :=
  match buffer with
  | none => []
  | some buffer => if (ledger.initial? buffer index).isSome then [⟨buffer, index, value⟩] else []

/-- Every write went to a cell that its buffer has. -/
def InRange (ledger : Ledger) : Prop :=
  ∀ write ∈ ledger.writes, (ledger.initial? write.buffer write.index).isSome

/-- A buffer has an initial number in as many cells as its size says. -/
theorem initial?_isSome_iff {ledger : Ledger} {buffer size : Nat}
    (known : ledger.sizeOf? buffer = some size) (index : Nat)
    : (ledger.initial? buffer index).isSome ↔ index < size := by
  obtain ⟨values, made, rfl⟩ := Option.map_eq_some_iff.mp known
  simp [initial?, made]

theorem cellWrite_some {ledger : Ledger} {buffer size : Nat}
    (known : ledger.sizeOf? buffer = some size) (index : Nat) (value : Double)
    : ledger.cellWrite (some buffer) index value
      = if index < size then [⟨buffer, index, value⟩] else [] := by
  simp only [cellWrite, initial?_isSome_iff known index]

/-- The latest write to a cell decides; any other leaves the cell as it was. -/
theorem latest?_record (ledger : Ledger) (write : CellWrite) (buffer index : Nat)
    : (ledger.record write).latest? buffer index
      = if write.buffer = buffer ∧ write.index = index then some write.value
        else ledger.latest? buffer index := by
  by_cases hit : write.buffer = buffer ∧ write.index = index
  · simp [latest?, writesTo, record, hit]
  · have missed : ¬ (write.buffer == buffer && write.index == index) := by simpa using hit
    simp [latest?, writesTo, record, initial?, missed, hit]

/-- Writes to other cells leave a cell as it was, by induction on the writes. -/
theorem latest?_record_others
    (ledger : Ledger) {writes : List CellWrite} {buffer index : Nat}
    (missed : ∀ write ∈ writes, ¬ (write.buffer = buffer ∧ write.index = index))
    : (writes.foldl record ledger).latest? buffer index = ledger.latest? buffer index := by
  induction writes generalizing ledger with
  | nil => rfl
  | cons first rest ih =>
      have later := ih (ledger.record first) fun write member => missed write (by simp [member])
      rw [List.foldl_cons, later, latest?_record, if_neg (missed first (by simp))]

theorem length_make (ledger : Ledger) (values : List Double)
    : (ledger.make values).made.length = ledger.made.length + 1 :=
  List.length_append

theorem getElem?_make (ledger : Ledger) (values : List Double) (buffer : Nat)
    : (ledger.make values).made[buffer]?
      = if buffer = ledger.made.length then some values else ledger.made[buffer]? := by
  simp only [make, List.getElem?_append]
  rcases Nat.lt_trichotomy buffer ledger.made.length with old | new | beyond
  · rw [if_pos old, if_neg (Nat.ne_of_lt old)]
  · simp [new]
  · have after : 1 ≤ buffer - ledger.made.length := by omega
    rw [if_neg (by omega), if_neg (by omega), List.getElem?_eq_none (by simpa using after),
      List.getElem?_eq_none (Nat.le_of_lt beyond)]

theorem initial?_make (ledger : Ledger) (values : List Double) (buffer index : Nat)
    : (ledger.make values).initial? buffer index
      = if buffer = ledger.made.length then values[index]? else ledger.initial? buffer index := by
  rw [initial?, getElem?_make]
  split <;> rfl

theorem sizeOf?_make (ledger : Ledger) (values : List Double) (buffer : Nat)
    : (ledger.make values).sizeOf? buffer
      = if buffer = ledger.made.length then some values.length else ledger.sizeOf? buffer := by
  rw [sizeOf?, getElem?_make]
  split <;> rfl

theorem InRange.make {ledger : Ledger} (inRange : ledger.InRange) (values : List Double)
    : (ledger.make values).InRange := by
  intro write member
  have present := inRange write member
  have old : write.buffer ≠ ledger.made.length := by
    intro new
    simp [initial?, new] at present
  rwa [initial?_make, if_neg old]

/-- A new buffer holds what it was made with, because nothing was written there before. -/
theorem latest?_make {ledger : Ledger} (inRange : ledger.InRange) (values : List Double)
    (buffer index : Nat)
    : (ledger.make values).latest? buffer index
      = if buffer = ledger.made.length then values[index]? else ledger.latest? buffer index := by
  have same : (ledger.make values).writesTo buffer index = ledger.writesTo buffer index := rfl
  by_cases new : buffer = ledger.made.length
  · have untouched : ledger.writesTo buffer index = [] := by
      apply List.filter_eq_nil_iff.mpr
      intro write member hit
      have present := inRange write member
      simp only [Bool.and_eq_true, beq_iff_eq] at hit
      rw [hit.1, new] at present
      simp [initial?] at present
    rw [latest?, same, untouched, if_pos new]
    simp [initial?_make, new]
  · simp only [latest?, same, initial?_make, new, if_false]

theorem made_record (ledger : Ledger) (writes : List CellWrite)
    : (writes.foldl record ledger).made = ledger.made := by
  induction writes generalizing ledger with
  | nil => rfl
  | cons first rest ih => exact ih (ledger.record first)

/-- Making further buffers leaves an old one as it was, by induction on the new ones. -/
theorem latest?_make_others
    {ledger : Ledger} (inRange : ledger.InRange) (added : List (List Double)) {buffer : Nat}
    (old : buffer < ledger.made.length) (index : Nat)
    : (added.foldl make ledger).latest? buffer index = ledger.latest? buffer index := by
  induction added generalizing ledger with
  | nil => rfl
  | cons first rest ih =>
      have stillOld : buffer < (ledger.make first).made.length := by
        rw [length_make]
        omega
      rw [List.foldl_cons, ih (inRange.make first) stillOld, latest?_make inRange,
        if_neg (Nat.ne_of_lt old)]

/-- Buffers keep their sizes, by induction on the buffers that are added. -/
theorem sizeOf?_make_others
    {ledger : Ledger} (added : List (List Double)) {buffer size : Nat}
    (known : ledger.sizeOf? buffer = some size)
    : (added.foldl make ledger).sizeOf? buffer = some size := by
  induction added generalizing ledger with
  | nil => exact known
  | cons first rest ih =>
      apply ih
      rw [sizeOf?_make, if_neg, known]
      rintro rfl
      simp [sizeOf?] at known

end Ledger

-----------------------------------------------------------------------------------------
-- Cells of a memory by address
-----------------------------------------------------------------------------------------

namespace Memory

variable {size other : Nat}

/-- The number in a cell, if there is such a cell. -/
def cellAt? (memory : Memory) (address index : Nat) : Option Double :=
  memory.blocks[address]?.bind fun block => block[index]?

def sizeAt? (memory : Memory) (address : Nat) : Option Nat :=
  memory.blocks[address]?.map Array.size

/-- The buffer is the whole of a block. -/
def Fits (memory : Memory) (buffer : Buffer size) : Prop :=
  memory.sizeAt? buffer.address = some size

theorem Fits.holds {memory : Memory} {buffer : Buffer size} (fits : memory.Fits buffer)
    : memory.Holds buffer := by
  obtain ⟨block, found, same⟩ := Option.map_eq_some_iff.mp fits
  exact ⟨block, found, Nat.le_of_eq same.symm⟩

theorem cellAt?_eq_load
    {memory : Memory} {buffer : Buffer size} (held : memory.Holds buffer) (index : Fin size)
    : memory.cellAt? buffer.address index.val
      = some (getElem (memory.load buffer) index.val index.isLt) := by
  obtain ⟨block, found, large⟩ := held
  have bound : index.val < block.size := Nat.lt_of_lt_of_le index.isLt large
  simp [cellAt?, load, cell, found, bound]

theorem cellAt?_allocate (memory : Memory) (values : Vector Double size) (address index : Nat)
    : (memory.allocate values).1.cellAt? address index
      = if address = memory.blocks.size then values[index]? else memory.cellAt? address index := by
  by_cases new : address = memory.blocks.size <;>
    simp [allocate, cellAt?, Array.getElem?_push, new]

theorem sizeAt?_allocate (memory : Memory) (values : Vector Double size) (address : Nat)
    : (memory.allocate values).1.sizeAt? address
      = if address = memory.blocks.size then some size else memory.sizeAt? address := by
  by_cases new : address = memory.blocks.size <;>
    simp [allocate, sizeAt?, Array.getElem?_push, new]

theorem cellAt?_write
    {memory : Memory} {target : Buffer size} (held : memory.Holds target) (written : Fin size)
    (value : Double) (address index : Nat)
    : (memory.write target written value).cellAt? address index
      = if target.address = address ∧ written.val = index then some value
        else memory.cellAt? address index := by
  obtain ⟨block, found, large⟩ := held
  have bound : written.val < block.size := Nat.lt_of_lt_of_le written.isLt large
  by_cases same : target.address = address
  · subst address
    simp only [write, cellAt?, Array.getElem?_modify, if_true, found, Option.map_some,
      Option.bind_some, Array.getElem?_setIfInBounds, true_and]
    by_cases hit : written.val = index
    · simp [← hit, bound]
    · simp [hit]
  · simp [write, cellAt?, Array.getElem?_modify, same]

theorem sizeAt?_write (memory : Memory) (target : Buffer size) (written : Fin size)
    (value : Double) (address : Nat)
    : (memory.write target written value).sizeAt? address = memory.sizeAt? address := by
  by_cases same : target.address = address
  · cases found : memory.blocks[address]? <;>
      simp [write, sizeAt?, Array.getElem?_modify, same, found]
  · simp [write, sizeAt?, Array.getElem?_modify, same]

-----------------------------------------------------------------------------------------
-- Memories that follow a ledger
-----------------------------------------------------------------------------------------

/-- The memory has the buffers of the ledger, and their cells hold the latest numbers. -/
structure Follows (memory : Memory) (ledger : Ledger) : Prop where
  count : memory.blocks.size = ledger.made.length
  sizes : ∀ buffer, memory.sizeAt? buffer = ledger.sizeOf? buffer
  cells : ∀ buffer index, memory.cellAt? buffer index = ledger.latest? buffer index
  inRange : ledger.InRange

theorem follows_empty : empty.Follows .empty where
  count := rfl
  sizes buffer := by simp [sizeAt?, empty, Ledger.sizeOf?, Ledger.empty]
  cells buffer index := by
    simp [cellAt?, empty, Ledger.latest?, Ledger.writesTo, Ledger.initial?, Ledger.empty]
  inRange := by simp [Ledger.InRange, Ledger.empty]

theorem Follows.initial?_isSome
    {memory : Memory} {ledger : Ledger} (follows : memory.Follows ledger)
    {buffer : Buffer size} (held : memory.Holds buffer) (index : Fin size)
    : (ledger.initial? buffer.address index.val).isSome := by
  obtain ⟨block, found, large⟩ := held
  have known : ledger.sizeOf? buffer.address = some block.size := by
    rw [← follows.sizes, sizeAt?, found, Option.map_some]
  exact (Ledger.initial?_isSome_iff known index.val).mpr (Nat.lt_of_lt_of_le index.isLt large)

theorem Follows.allocate
    {memory : Memory} {ledger : Ledger} (follows : memory.Follows ledger)
    (values : Vector Double size)
    : (memory.allocate values).1.Follows (ledger.make values.toList) where
  count := by simp [Memory.allocate, Ledger.make, follows.count]
  sizes buffer := by
    rw [sizeAt?_allocate, Ledger.sizeOf?_make, follows.count, follows.sizes, Vector.length_toList]
  cells buffer index := by
    rw [cellAt?_allocate, Ledger.latest?_make follows.inRange, follows.count, follows.cells,
      Vector.getElem?_toList]
  inRange := follows.inRange.make values.toList

theorem Follows.write
    {memory : Memory} {ledger : Ledger} (follows : memory.Follows ledger)
    {target : Buffer size} (held : memory.Holds target) (index : Fin size) (value : Double)
    : (memory.write target index value).Follows
        (ledger.record ⟨target.address, index.val, value⟩) where
  count := by simp [Memory.write, Ledger.record, follows.count]
  sizes buffer := by rw [sizeAt?_write, follows.sizes]; rfl
  cells buffer other := by
    rw [cellAt?_write held, Ledger.latest?_record, follows.cells]
  inRange := by
    intro write member
    rcases List.mem_append.mp member with earlier | new
    · exact follows.inRange write earlier
    · rw [List.mem_singleton.mp new]
      exact follows.initial?_isSome held index

/-- A buffer of the memory has the latest number in every cell. -/
theorem Follows.latest?_eq_load
    {memory : Memory} {ledger : Ledger} (follows : memory.Follows ledger)
    {buffer : Buffer size} (held : memory.Holds buffer) (index : Fin size)
    : ledger.latest? buffer.address index.val
      = some (getElem (memory.load buffer) index.val index.isLt) := by
  rw [← follows.cells, cellAt?_eq_load held]

/-- By induction on the cells that are still to be written. -/
theorem Follows.storeAt
    {memory : Memory} {ledger : Ledger} (follows : memory.Follows ledger)
    {target : Buffer size} (held : memory.Holds target) (values : Vector Double size)
    (indexes : List (Fin size))
    : let writes : List CellWrite :=
        indexes.map fun index => ⟨target.address, index.val, getElem values index.val index.isLt⟩
      (memory.storeAt target values indexes).Follows (writes.foldl Ledger.record ledger) := by
  induction indexes generalizing memory ledger with
  | nil => exact follows
  | cons first rest ih =>
      exact ih (follows.write held first (getElem values first.val first.isLt))
        (holds_write held target first (getElem values first.val first.isLt))

theorem Follows.store
    {memory : Memory} {ledger : Ledger} (follows : memory.Follows ledger)
    {target : Buffer size} (held : memory.Holds target) (values : Vector Double size)
    : (memory.store target values).Follows
        ((Ledger.wholeBuffer target.address values).foldl Ledger.record ledger) :=
  follows.storeAt held values (List.finRange size)

end Memory

end Inertial
