import Inertial.Proofs.CapabilityAgreement
import Inertial.Proofs.Gateway.Mirroring
import Inertial.Proofs.Session.Sharing

/-! Readings change only by writes to what is read. In runs of sessions and of gateways, a handle
reads the same as long as no write goes to one of its cells, whatever becomes of names, registries
and all other buffers.
-/

namespace Inertial

-----------------------------------------------------------------------------------------
-- Sessions
-----------------------------------------------------------------------------------------

/-- The writes of a run, in the order of time. -/
def Chronicle.writesIn (chronicle : Chronicle) : List Session.Command → List CellWrite
  | [] => []
  | command :: rest => chronicle.writesOf command ++ (chronicle.step command).writesIn rest

namespace Session

variable {session : Session} {chronicle : Chronicle}

/-- By induction on the commands, each of which changes only the cells that it writes. -/
theorem Follows.changesOnlyAt_run (follows : session.Follows chronicle) (commands : List Command)
    : Memory.ChangesOnlyAt (chronicle.writesIn commands) session.memory
        (session.run commands).1.memory := by
  induction commands generalizing session chronicle with
  | nil => exact .refl session.memory
  | cons command rest ih => exact (follows.changesOnlyAt command).trans (ih (follows.step command))

/-- A handle is made with the buffers that its description has found. -/
theorem Follows.exists_numbered (follows : session.Follows chronicle) {command : Command}
    {handle : Handle} (built : session.built? command = some handle) {channel : Channel}
    {buffer : Buffer channel.size} (provided : handle.get channel = some buffer)
    : ∃ number, session.memory.Numbered buffer number := by
  obtain ⟨sensor, descriptor, described, rfl⟩ := exists_descriptor_of_built? built
  have found : descriptor.get channel = some buffer := provided
  have related := follows.descriptor? sensor
  rw [described, rel_some_left] at related
  obtain ⟨origin, _, built, _⟩ := related
  have numbered := built channel
  rw [found, rel_some_left] at numbered
  obtain ⟨number, _, numbered⟩ := numbered
  exact ⟨number, numbered⟩

/-- The cells of a handle that was ever made are there for the rest of the run. -/
theorem Made.holds {commands : List Command} {handle : Handle} (made : Made commands handle)
    (channel : Channel) (buffer : Buffer channel.size)
    (provided : handle.get channel = some buffer)
    : (empty.run commands).1.memory.Holds buffer := by
  obtain ⟨earlier, command, later, rfl, built⟩ := made
  have follows := run_follows earlier
  obtain ⟨number, numbered⟩ := follows.exists_numbered built provided
  rw [run_append]
  exact (follows.numbered_run numbered (command :: later)).2.holds

theorem Made.read_eq {commands : List Command} {handle : Handle} (made : Made commands handle)
    {later : List Command}
    (unseen : ∀ write ∈ (Chronicle.empty.run commands).writesIn later, ¬ handle.Sees write)
    : handle.read ((empty.run commands).1.run later).1.memory
      = handle.read (empty.run commands).1.memory :=
  ((run_follows commands).changesOnlyAt_run later).read_eq made.holds unseen

end Session

-----------------------------------------------------------------------------------------
-- Gateways
-----------------------------------------------------------------------------------------

namespace Gateway

namespace Counterpart

/-- The arrays that a call makes, with their first numbers. -/
def madeBy : Call → List (List Double)
  | .newArray _ _ values => [values.toList]
  | _ => []

/-- The writes of a call. Only callers write, each time one element of an array. -/
def writesOf (counterpart : Counterpart) : Call → List CellWrite
  | .writeArray array index value =>
      counterpart.ledger.cellWrite (counterpart.arrays array) index value
  | _ => []

/-- The writes of a run, in the order of time. -/
def writesIn (counterpart : Counterpart) : List Call → List CellWrite
  | [] => []
  | call :: rest => counterpart.writesOf call ++ (counterpart.step call).writesIn rest

theorem ledger_step (counterpart : Counterpart) (call : Call)
    : (counterpart.step call).ledger
      = (counterpart.writesOf call).foldl Ledger.record
          ((madeBy call).foldl Ledger.make counterpart.ledger) := by
  cases call with
  | newArray _ _ _ => rfl
  | writeArray _ _ _ => rfl
  | newRegistry _ => rfl
  | freeRegistry reference => cases reference <;> rfl
  | _ =>
      simp only [step]
      split <;> rfl

end Counterpart

variable {gateway : Gateway} {counterpart : Counterpart}

/-- The callers' elements change only where the counterpart of the gateway writes. -/
theorem Mirrors.changesOnlyAt (mirrors : gateway.Mirrors counterpart) (call : Call)
    : Memory.ChangesOnlyAt (counterpart.writesOf call) gateway.memory
        (gateway.next call).memory := by
  have later := (mirrors.step call).memory
  rw [Counterpart.ledger_step] at later
  exact mirrors.memory.changesOnlyAt later

/-- By induction on the calls, each of which changes only the elements that it writes. -/
theorem Mirrors.changesOnlyAt_run (mirrors : gateway.Mirrors counterpart) (calls : List Call)
    : Memory.ChangesOnlyAt (counterpart.writesIn calls) gateway.memory
        (gateway.run calls).1.memory := by
  induction calls generalizing gateway counterpart with
  | nil => exact .refl gateway.memory
  | cons call rest ih => exact (mirrors.changesOnlyAt call).trans (ih (mirrors.step call))

/-- All arrays of a registered handle reach as far as the handle reads. -/
theorem Mirrors.holds_of_handle? (mirrors : gateway.Mirrors counterpart)
    {reference sensor : String} {handle : Handle}
    (there : gateway.handle? reference sensor = some handle) (channel : Channel)
    (buffer : Buffer channel.size) (provided : handle.get channel = some buffer)
    : gateway.memory.Holds buffer := by
  obtain ⟨registry, live, found⟩ := Option.bind_eq_some_iff.mp there
  obtain ⟨history, _, rfl, backs⟩ := mirrors.registries.entry live
  rw [Registry.handles_after, Option.map_eq_some_iff] at found
  obtain ⟨descriptor, registered, rfl⟩ := found
  exact backs descriptor (Registry.registration?_mem registered) channel buffer provided

theorem read_eq_of_handle? {calls : List Call} {reference sensor : String} {handle : Handle}
    (there : (empty.run calls).1.handle? reference sensor = some handle) {later : List Call}
    (unseen : ∀ write ∈ (Counterpart.empty.run calls).writesIn later, ¬ handle.Sees write)
    : handle.read ((empty.run calls).1.run later).1.memory
      = handle.read (empty.run calls).1.memory := by
  have mirrors := run_mirrors calls
  exact (mirrors.changesOnlyAt_run later).read_eq (mirrors.holds_of_handle? there) unseen

end Gateway

end Inertial
