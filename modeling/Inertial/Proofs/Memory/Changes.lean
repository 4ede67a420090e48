import Inertial.Handle
import Inertial.Proofs.Memory.Ledger

/-! What writes leave alone. A cell keeps its number until a write goes to it, whatever else is made
and written meanwhile, and a handle whose cells are all kept reads the same.
-/

namespace Inertial

/-- The write goes to a cell that the handle reads. -/
def Handle.Sees (handle : Handle) (write : CellWrite) : Prop :=
  ∃ channel buffer,
    handle.get channel = some buffer
    ∧ write.buffer = buffer.address
    ∧ write.index < channel.size

namespace Memory

/-- Every cell of the first memory is in the second one, with the same number unless one of the
writes went to it.
-/
def ChangesOnlyAt (writes : List CellWrite) (first second : Memory) : Prop :=
  ∀ address index value,
    first.cellAt? address index = some value
    → (∀ write ∈ writes, ¬ (write.buffer = address ∧ write.index = index))
    → second.cellAt? address index = some value

theorem ChangesOnlyAt.refl (memory : Memory) : ChangesOnlyAt [] memory memory :=
  fun _ _ _ there _ => there

theorem ChangesOnlyAt.trans {earlier later : List CellWrite} {first second third : Memory}
    (former : ChangesOnlyAt earlier first second) (latter : ChangesOnlyAt later second third)
    : ChangesOnlyAt (earlier ++ later) first third := by
  intro address index value there missed
  refine latter address index value (former address index value there ?_) ?_
  · exact fun write member => missed write (List.mem_append_left later member)
  · exact fun write member => missed write (List.mem_append_right earlier member)

/-- Between memories that follow a ledger and a longer one, only the added writes change cells. -/
theorem Follows.changesOnlyAt {first second : Memory} {ledger : Ledger}
    (follows : first.Follows ledger) {made : List (List Double)} {writes : List CellWrite}
    (later : second.Follows (writes.foldl Ledger.record (made.foldl Ledger.make ledger)))
    : ChangesOnlyAt writes first second := by
  intro address index value there missed
  have old : address < ledger.made.length := by
    obtain ⟨block, found, _⟩ := Option.bind_eq_some_iff.mp there
    exact follows.count ▸ (Array.getElem?_eq_some_iff.mp found).1
  rw [later.cells, Ledger.latest?_record_others _ missed,
    Ledger.latest?_make_others follows.inRange made old, ← follows.cells, there]

theorem ChangesOnlyAt.load_eq {writes : List CellWrite} {first second : Memory}
    (changes : ChangesOnlyAt writes first second) {size : Nat} {buffer : Buffer size}
    (held : first.Holds buffer)
    (missed : ∀ write ∈ writes, ¬ (write.buffer = buffer.address ∧ write.index < size))
    : second.load buffer = first.load buffer := by
  have kept (index : Fin size) : second.cell buffer index = first.cell buffer index := by
    have there := first.cellAt?_eq_load held index
    have still := changes buffer.address index.val _ there
      fun write member hit => missed write member ⟨hit.1, hit.2 ▸ index.isLt⟩
    exact congrArg (fun found => found.getD 0) (still.trans there.symm)
  rw [load, load, funext kept]

theorem ChangesOnlyAt.read_eq {writes : List CellWrite} {first second : Memory}
    (changes : ChangesOnlyAt writes first second) {handle : Handle}
    (held : ∀ channel buffer, handle.get channel = some buffer → first.Holds buffer)
    (unseen : ∀ write ∈ writes, ¬ handle.Sees write)
    : handle.read second = handle.read first := by
  refine congrArg Reading.mk (PerChannel.ext_get fun channel => ?_)
  rw [PerChannel.get_map, PerChannel.get_map]
  refine Option.map_congr fun buffer provided => ?_
  exact changes.load_eq (held channel buffer provided) fun write member hit =>
    unseen write member ⟨channel, buffer, provided, hit⟩

end Memory

end Inertial
