import Inertial.Double

/-!
Memory as blocks of numbers, and buffers as references to the first cells of a block. A buffer
holds no numbers itself: whoever has it sees every later write to its block.
-/

namespace Inertial

structure Memory where
  blocks : Array (Array Double)

/-- A reference to the first `size` cells of the block at an address. -/
structure Buffer (size : Nat) where
  address : Nat
deriving DecidableEq

/-- The first `smaller` cells of the same block. -/
def Buffer.narrow {size : Nat} (buffer : Buffer size) (smaller : Nat) : Buffer smaller :=
  ⟨buffer.address⟩

/-- A buffer together with its size. -/
structure SizedBuffer where
  size : Nat
  buffer : Buffer size

/-- The buffer, if it has exactly this size. -/
def SizedBuffer.ofSize? (sized : SizedBuffer) (size : Nat) : Option (Buffer size) :=
  if sized.size = size then some (sized.buffer.narrow size) else none

/-- The first cells of the buffer, if there are that many. -/
def SizedBuffer.first? (sized : SizedBuffer) (size : Nat) : Option (Buffer size) :=
  if size ≤ sized.size then some (sized.buffer.narrow size) else none

/-- Two views read the same cells exactly when they refer to the same block. -/
def Buffer.aliases {size : Nat} (left right : Buffer size) : Bool := left == right

namespace Memory

variable {size other : Nat}

def empty : Memory := ⟨#[]⟩

instance : Inhabited Memory := ⟨empty⟩

/-- The block of the buffer exists and is large enough. -/
def Holds (memory : Memory) (buffer : Buffer size) : Prop :=
  ∃ block, memory.blocks[buffer.address]? = some block ∧ size ≤ block.size

-----------------------------------------------------------------------------------------
-- Operations
-----------------------------------------------------------------------------------------

/-- A new block with the given contents. -/
def allocate (memory : Memory) (values : Vector Double size) : Memory × Buffer size :=
  (⟨memory.blocks.push values.toArray⟩, ⟨memory.blocks.size⟩)

/-- The number in a cell, or zero for a buffer that the memory does not hold. -/
def cell (memory : Memory) (buffer : Buffer size) (index : Fin size) : Double :=
  ((memory.blocks[buffer.address]?).bind fun block => block[index.val]?).getD 0

def load (memory : Memory) (buffer : Buffer size) : Vector Double size :=
  Vector.ofFn (memory.cell buffer)

def write (memory : Memory) (buffer : Buffer size) (index : Fin size) (value : Double) : Memory :=
  ⟨memory.blocks.modify buffer.address fun block => block.setIfInBounds index.val value⟩

/-- Writes the listed cells of a buffer, in the order of the list. -/
def storeAt
    (memory : Memory) (buffer : Buffer size) (values : Vector Double size)
    (indexes : List (Fin size))
    : Memory :=
  let writeNext (changed : Memory) (index : Fin size) : Memory :=
    changed.write buffer index (getElem values index.val index.isLt)
  indexes.foldl writeNext memory

/-- Writes every cell of the buffer, one after the other. -/
def store (memory : Memory) (buffer : Buffer size) (values : Vector Double size) : Memory :=
  memory.storeAt buffer values (List.finRange size)

-----------------------------------------------------------------------------------------
-- What a buffer holds after an operation
-----------------------------------------------------------------------------------------

theorem holds_allocate_new (memory : Memory) (values : Vector Double size)
    : (memory.allocate values).1.Holds (memory.allocate values).2 :=
  ⟨values.toArray, by simp [allocate], by simp⟩

theorem holds_allocate
    {memory : Memory} {buffer : Buffer size} (held : memory.Holds buffer)
    (values : Vector Double other)
    : (memory.allocate values).1.Holds buffer := by
  obtain ⟨block, found, large⟩ := held
  have bound := (Array.getElem?_eq_some_iff.mp found).1
  exact ⟨block, by simpa [allocate, Array.getElem?_push, Nat.ne_of_lt bound] using found, large⟩

theorem cell_allocate_new (memory : Memory) (values : Vector Double size) (index : Fin size)
    : (memory.allocate values).1.cell (memory.allocate values).2 index
      = getElem values index.val index.isLt := by
  simp [allocate, cell]

theorem cell_allocate
    {memory : Memory} {buffer : Buffer size} (held : memory.Holds buffer)
    (values : Vector Double other) (index : Fin size)
    : (memory.allocate values).1.cell buffer index = memory.cell buffer index := by
  obtain ⟨block, found, _⟩ := held
  have bound := (Array.getElem?_eq_some_iff.mp found).1
  simp [allocate, cell, Array.getElem?_push, Nat.ne_of_lt bound]

theorem holds_write
    {memory : Memory} {buffer : Buffer size} (held : memory.Holds buffer)
    (target : Buffer other) (index : Fin other) (value : Double)
    : (memory.write target index value).Holds buffer := by
  obtain ⟨block, found, large⟩ := held
  by_cases same : target.address = buffer.address
  · exact ⟨block.setIfInBounds index.val value,
      by simp [write, Array.getElem?_modify, same, found], by simpa using large⟩
  · exact ⟨block, by simp [write, Array.getElem?_modify, same, found], large⟩

/-- A write shows in the cell of the same block and index and nowhere else. -/
theorem cell_write
    {memory : Memory} {buffer : Buffer size} (held : memory.Holds buffer)
    (target : Buffer other) (written : Fin other) (value : Double) (index : Fin size)
    : (memory.write target written value).cell buffer index
      = if target.address = buffer.address ∧ written.val = index.val then value
        else memory.cell buffer index := by
  obtain ⟨block, found, large⟩ := held
  have bound : index.val < block.size := Nat.lt_of_lt_of_le index.isLt large
  by_cases same : target.address = buffer.address
  · simp only [write, cell, Array.getElem?_modify, same, if_true, found, Option.map_some,
      Option.bind_some, Array.getElem?_setIfInBounds, true_and]
    by_cases hit : written.val = index.val
    · simp [hit, bound]
    · simp [hit]
  · simp [write, cell, Array.getElem?_modify, same]

-----------------------------------------------------------------------------------------
-- What a buffer holds after a whole buffer is written
-----------------------------------------------------------------------------------------

theorem cell_storeAt
    {memory : Memory} {buffer : Buffer size} (held : memory.Holds buffer)
    (target : Buffer other) (values : Vector Double other) (indexes : List (Fin other))
    (index : Fin size)
    : (memory.storeAt target values indexes).cell buffer index
      = if target.address = buffer.address
            ∧ indexes.any (fun written => written.val == index.val) then
          values[index.val]?.getD 0
        else memory.cell buffer index := by
  induction indexes generalizing memory with
  | nil => simp [storeAt]
  | cons first rest ih =>
      have next := ih (holds_write held target first (getElem values first.val first.isLt))
      simp only [storeAt, List.foldl_cons] at next ⊢
      rw [next, cell_write held]
      by_cases same : target.address = buffer.address
      · cases later : rest.any fun written => written.val == index.val with
        | true => simp [same, later]
        | false =>
            by_cases now : first.val = index.val
            · have bound : index.val < other := now ▸ first.isLt
              simp [same, later, now, bound]
            · simp [same, later, now]
      · simp [same]

/-- Storing replaces the cells that the two buffers share and no others. -/
theorem cell_store
    {memory : Memory} {buffer : Buffer size} (held : memory.Holds buffer)
    (target : Buffer other) (values : Vector Double other) (index : Fin size)
    : (memory.store target values).cell buffer index
      = if target.address = buffer.address ∧ index.val < other then values[index.val]?.getD 0
        else memory.cell buffer index := by
  have written
      : ((List.finRange other).any fun written => written.val == index.val) = true
        ↔ index.val < other := by
    simp only [List.any_eq_true, List.mem_finRange, true_and, beq_iff_eq]
    exact ⟨fun ⟨written, same⟩ => same ▸ written.isLt, fun bound => ⟨⟨index.val, bound⟩, rfl⟩⟩
  simpa only [written, store] using cell_storeAt held target values (List.finRange other) index

theorem load_store
    {memory : Memory} {buffer : Buffer size} (held : memory.Holds buffer)
    (values : Vector Double size)
    : (memory.store buffer values).load buffer = values := by
  ext index bound
  simp [load, cell_store held, bound]

end Memory

end Inertial
