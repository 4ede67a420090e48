import Inertial.Proofs.Memory.Changes
import Inertial.Proofs.Session.Steps

/-! Readings are live. Through whatever registries, names and copies a handle has come, it reads the
latest numbers of the buffers that its sensor was described with, and nothing else.
-/

namespace Inertial

open Session

/-- In each channel, the reading has the latest numbers of the buffer of this origin. -/
def Reading.ShowsLatest (reading : Reading) (ledger : Ledger) (origin : Origin) : Prop :=
  ∀ channel,
    Option.Rel
      (fun values buffer =>
        ∀ index : Fin channel.size,
          ledger.latest? buffer index.val = some (getElem values index.val index.isLt))
      (reading.get channel) (origin channel)

/-- The handle at a place was built with this buffer in the channel. -/
def Chronicle.Views (chronicle : Chronicle) (place : HandlePlace) (channel : Channel)
    (buffer : Nat)
    : Prop :=
  ∃ origin, chronicle.origin? place = some origin ∧ origin channel = some buffer

/-- Drivers make and write buffers, and whoever has a view can write through it. -/
def Session.Command.mayWrite : Session.Command → Bool
  | .driver _ => true
  | .handle _ (.write ..) => true
  | _ => false

theorem Memory.Follows.reading
    {memory : Memory} {ledger : Ledger} (follows : memory.Follows ledger)
    {handle : Handle} {origin : Origin} (built : memory.BuiltFrom handle.toPerChannel origin)
    : (handle.read memory).ShowsLatest ledger origin := by
  intro channel
  have viewed := built channel
  simp only [Handle.read, PerChannel.get_map]
  generalize handle.get channel = buffer at viewed ⊢
  generalize origin channel = number at viewed ⊢
  cases viewed with
  | none => exact .none
  | some numbered =>
      obtain ⟨rfl, fits⟩ := numbered
      exact .some fun index => follows.latest?_eq_load fits.holds index

/-- Two references to the whole of one block have the same size and the same numbers. -/
theorem Memory.load_same_block
    {memory : Memory} {size other : Nat} {buffer : Buffer size} {otherBuffer : Buffer other}
    (fits : memory.Fits buffer) (otherFits : memory.Fits otherBuffer)
    (same : buffer.address = otherBuffer.address)
    : (memory.load buffer).toList = (memory.load otherBuffer).toList := by
  have sizes : size = other := by
    unfold Memory.Fits at fits otherFits
    rw [same, otherFits] at fits
    exact (Option.some.inj fits).symm
  subst sizes
  have buffers : buffer = otherBuffer := congrArg Buffer.mk same
  rw [buffers]

namespace Session

variable {session : Session} {chronicle : Chronicle}

/-- The buffer that a handle has in a channel is the one its origin says. -/
theorem Follows.viewed (follows : session.Follows chronicle)
    {place : HandlePlace} {handle : Handle} (found : session.handleAt? place = some handle)
    {channel : Channel} {number : Nat} (views : chronicle.Views place channel number)
    : ∃ buffer, handle.get channel = some buffer ∧ session.memory.Numbered buffer number := by
  obtain ⟨origin, known, viewed⟩ := views
  have related := follows.handle place
  rw [found, known, rel_some_left] at related
  obtain ⟨_, same, built⟩ := related
  cases same
  have numbered := built channel
  rw [viewed] at numbered
  generalize handle.get channel = buffer at numbered
  cases numbered with
  | some numbered => exact ⟨_, rfl, numbered⟩

/-- The cells of a session change only where its chronicle writes. -/
theorem Follows.changesOnlyAt (follows : session.Follows chronicle) (command : Command)
    : Memory.ChangesOnlyAt (chronicle.writesOf command) session.memory
        (session.step command).result.1.memory :=
  follows.memory.changesOnlyAt (follows.step command).memory

/-- A write that is meant for other buffers never shows. -/
theorem Follows.step_load (follows : session.Follows chronicle) (command : Command)
    {size : Nat} {buffer : Buffer size} {number : Nat}
    (numbered : session.memory.Numbered buffer number)
    (elsewhere : ∀ write ∈ chronicle.writesOf command, write.buffer ≠ number)
    : (session.step command).result.1.memory.load buffer = session.memory.load buffer := by
  obtain ⟨rfl, fits⟩ := numbered
  exact (follows.changesOnlyAt command).load_eq fits.holds fun write member hit =>
    elsewhere write member hit.1

theorem stepRegistry_memory (session : Session) (name : String) (command : RegistryCommand)
    : (session.stepRegistry name command).result.1.memory = session.memory := by
  have kept (other : Session) (keepAs : Option String) (handle : Handle)
      : (other.keepHandle keepAs handle).memory = other.memory := by
    cases keepAs <;> rfl
  cases command with
  | register sensor =>
      simp only [stepRegistry]
      split <;> rfl
  | lookup sensor keepAs =>
      simp only [stepRegistry]
      split
      · exact kept session keepAs _
      · rfl
  | unregister sensor keepAs =>
      simp only [stepRegistry]
      split
      · rfl
      · rw [kept]
  | _ => rfl

theorem stepHandle_memory (session : Session) (handle : Handle) (command : HandleCommand)
    (reads : (Command.handle name command).mayWrite = false)
    : (session.stepHandle handle command).result.1.memory = session.memory := by
  cases command with
  | write _ _ _ => cases reads
  | view _ =>
      simp only [stepHandle]
      split <;> rfl
  | aliases _ _ =>
      simp only [stepHandle]
      split
      · rfl
      · split <;> rfl
  | read keepAs => cases keepAs <;> rfl
  | _ => rfl

/-- No command leaves other memory than it found, except those that may write. -/
theorem step_memory (session : Session) (command : Command) (reads : command.mayWrite = false)
    : (session.step command).result.1.memory = session.memory := by
  cases command with
  | driver command => cases reads
  | registry name command => exact session.stepRegistry_memory name command
  | handle name command =>
      simp only [step]
      split
      · rfl
      · exact session.stepHandle_memory _ command reads
  | _ =>
      simp only [step]
      first | rfl | (split <;> rfl)

/-- In every session, a handle provides exactly the channels for which its sensor was described with
a buffer, and reads there what was written to that buffer last. Fields of one buffer agree, writes
to other buffers never show, and commands that do not write change no number.
-/
theorem readings_are_live (commands : List Command)
    : let session := (empty.run commands).1
      let chronicle := Chronicle.empty.run commands
      (∀ place,
        Option.Rel
          (fun handle origin =>
            (handle.read session.memory).ShowsLatest chronicle.ledger origin)
          (session.handleAt? place) (chronicle.origin? place))
      ∧ (∀ place handle channel buffer other otherHandle otherChannel,
          session.handleAt? place = some handle
          → chronicle.Views place channel buffer
          → session.handleAt? other = some otherHandle
          → chronicle.Views other otherChannel buffer
          → ((handle.read session.memory).get channel).map Vector.toList
            = ((otherHandle.read session.memory).get otherChannel).map Vector.toList)
      ∧ (∀ place handle channel buffer command,
          session.handleAt? place = some handle
          → chronicle.Views place channel buffer
          → (∀ write ∈ chronicle.writesOf command, write.buffer ≠ buffer)
          → (handle.read (session.step command).result.1.memory).get channel
            = (handle.read session.memory).get channel)
      ∧ ∀ command : Command,
          command.mayWrite = false
          → (session.step command).result.1.memory = session.memory := by
  intro session chronicle
  have follows : session.Follows chronicle := run_follows commands
  refine ⟨?_, ?_, ?_, session.step_memory⟩
  · intro place
    exact rel_mono (fun _ _ built => follows.memory.reading built) (follows.handle place)
  · intro place handle channel number other otherHandle otherChannel found views otherFound
      otherViews
    obtain ⟨buffer, here, rfl, fits⟩ := follows.viewed found views
    obtain ⟨otherBuffer, there, same, otherFits⟩ := follows.viewed otherFound otherViews
    simp only [Handle.read, PerChannel.get_map, here, there, Option.map_some]
    exact congrArg some (Memory.load_same_block fits otherFits same.symm)
  · intro place handle channel number command found views elsewhere
    obtain ⟨buffer, here, numbered⟩ := follows.viewed found views
    simp only [Handle.read, PerChannel.get_map, here, Option.map_some]
    rw [follows.step_load command numbered elsewhere]

end Session

end Inertial
