import Inertial.Proofs.CapabilityBits
import Inertial.Proofs.Gateway.Provenance
import Inertial.Proofs.Session.Provenance

/-! All accounts of which channels a handle provides agree, for every handle that any run comes by
and whatever has been written by then.
-/

namespace Inertial

/-- The mask, the buffers, every reading with its own mask and every sample speak of the same
channels, whatever the memory holds. A mask is provided when each of its bits is that of a channel
with a buffer.
-/
structure Handle.Coherent (handle : Handle) : Prop where
  buffers
    : ∀ channel, handle.capabilities.contains channel.flag = (handle.get channel).isSome
  reading : ∀ memory channel, (handle.read memory).has channel = (handle.get channel).isSome
  readingMask : ∀ memory, (handle.read memory).capabilities = handle.capabilities
  sampleMask : ∀ memory, (Sample.ofHandle handle memory).capabilities = handle.capabilities
  noOtherBits : Capabilities.known.contains handle.capabilities = true
  provides
    : ∀ mask,
        handle.has mask = true
        ↔ ∀ place,
            mask.hasBit place = true
            → ∃ channel : Channel,
                channel.bit = place ∧ (handle.get channel).isSome = true

theorem Handle.read_has (handle : Handle) (memory : Memory) (channel : Channel)
    : (handle.read memory).has channel = (handle.get channel).isSome := by
  simp only [Reading.has, read, PerChannel.get_map, Option.isSome_map]

/-- The mask of a reading has the flag of each channel that is present. -/
theorem Reading.capabilities_eq (reading : Reading)
    : reading.capabilities
      = Channel.all.foldl (fun mask channel => mask.set channel.flag (reading.has channel))
          .empty :=
  rfl

/-- A reading works out the mask of its handle's buffers from its own channels. -/
theorem Handle.read_capabilities (handle : Handle) (memory : Memory)
    : (handle.read memory).capabilities = presentChannels handle.toPerChannel := by
  rw [Reading.capabilities_eq, funext (handle.read_has memory), presentChannels]

/-- The handle was made of a description, with the mask of its buffers. -/
def Handle.Described (handle : Handle) : Prop :=
  ∃ descriptor, handle = ofDescriptor descriptor

theorem Handle.ofDescriptor_coherent (descriptor : Descriptor)
    : (ofDescriptor descriptor).Coherent where
  buffers := presentChannels_contains descriptor.toPerChannel
  reading := (ofDescriptor descriptor).read_has
  readingMask := (ofDescriptor descriptor).read_capabilities
  sampleMask _ := rfl
  noOtherBits := known_contains_presentChannels descriptor.toPerChannel
  provides mask := by
    rw [has, Capabilities.contains_iff]
    exact forall_congr' fun place =>
      imp_congr_right fun _ => hasBit_presentChannels descriptor.toPerChannel place

theorem Handle.Described.coherent {handle : Handle} (described : handle.Described)
    : handle.Coherent := by
  obtain ⟨descriptor, rfl⟩ := described
  exact ofDescriptor_coherent descriptor

namespace Session

/-- Only what a description says is made into a handle. -/
theorem exists_descriptor_of_built? {session : Session} {command : Command} {handle : Handle}
    (built : session.built? command = some handle)
    : ∃ sensor descriptor,
        session.descriptor? sensor = some descriptor ∧ .ofDescriptor descriptor = handle := by
  unfold built? at built
  split at built
  · exact ⟨_, Option.map_eq_some_iff.mp built⟩
  · exact ⟨_, Option.map_eq_some_iff.mp built⟩
  · cases built

theorem described_of_built? {session : Session} {command : Command} {handle : Handle}
    (built : session.built? command = some handle)
    : handle.Described := by
  obtain ⟨_, descriptor, _, rfl⟩ := exists_descriptor_of_built? built
  exact ⟨descriptor, rfl⟩

/-- A session that has just started has no handles. -/
theorem not_has_empty (handle : Handle) : ¬ empty.Has handle := by
  rintro ⟨place, there⟩
  cases place with
  | kept name => simp [handleAt?, empty] at there
  | registered registry sensor =>
      simp [handleAt?, registry_empty, Registry.empty] at there

/-- The handle was made of a description by some command of the run. -/
def Made (commands : List Command) (handle : Handle) : Prop :=
  ∃ earlier command later,
    commands = earlier ++ command :: later
    ∧ (empty.run earlier).1.built? command = some handle

theorem Made.described {commands : List Command} {handle : Handle} (made : Made commands handle)
    : handle.Described := by
  obtain ⟨_, _, _, _, built⟩ := made
  exact described_of_built? built

theorem Made.coherent {commands : List Command} {handle : Handle} (made : Made commands handle)
    : handle.Coherent :=
  made.described.coherent

theorem made_of_has {commands : List Command} {handle : Handle}
    (has : (empty.run commands).1.Has handle)
    : Made commands handle :=
  (run_origin commands has).resolve_left (not_has_empty handle)

theorem made_of_answered {commands : List Command} {command : Command} {handle : Handle}
    (given : handle ∈ ((empty.run commands).1.step command).result.2.handles)
    : Made (commands ++ [command]) handle := by
  rcases answered given with has | built
  · obtain ⟨earlier, making, later, rfl, built⟩ := made_of_has has
    exact ⟨earlier, making, later ++ [command], by simp, built⟩
  · exact ⟨commands, command, [], rfl, built⟩

end Session

namespace Gateway

theorem described_of_built? {gateway : Gateway} {call : Call} {handle : Handle}
    (built : gateway.built? call = some handle)
    : handle.Described := by
  unfold built? at built
  split at built
  · cases built
    exact ⟨_, rfl⟩
  · cases built

/-- The handle was made of a record by some call of the run. -/
def Made (calls : List Call) (handle : Handle) : Prop :=
  ∃ earlier call later,
    calls = earlier ++ call :: later ∧ (empty.run earlier).1.built? call = some handle

theorem Made.described {calls : List Call} {handle : Handle} (made : Made calls handle)
    : handle.Described := by
  obtain ⟨_, _, _, _, built⟩ := made
  exact described_of_built? built

theorem Made.coherent {calls : List Call} {handle : Handle} (made : Made calls handle)
    : handle.Coherent :=
  made.described.coherent

theorem made_of_handle? {calls : List Call} {reference sensor : String} {handle : Handle}
    (there : (empty.run calls).1.handle? reference sensor = some handle)
    : Made calls handle := by
  rcases handle?_origin calls there with start | made
  · simp [handle?, empty] at start
  · exact made

end Gateway

/-- In every run of a session or of a gateway, each handle was made of a description at some point
of the run, with the mask that it has ever since, and stays what it is at its place until a command
names the place. All accounts of which channels it provides agree, whatever has been written.
-/
theorem capabilities_agree
    : (∀ commands,
        let session := (Session.empty.run commands).1
        (∀ handle, session.Has handle → handle.Coherent ∧ Session.Made commands handle)
        ∧ (∀ command handle,
            handle ∈ (session.step command).result.2.handles
            → handle.Coherent ∧ Session.Made (commands ++ [command]) handle)
        ∧ ∀ place later,
            (∀ command ∈ later, ¬ command.Assigns place)
            → (session.run later).1.handleAt? place = session.handleAt? place)
      ∧ ∀ calls,
          let gateway := (Gateway.empty.run calls).1
          (∀ reference sensor handle,
            gateway.handle? reference sensor = some handle
            → handle.Coherent ∧ Gateway.Made calls handle)
          ∧ (∀ reference raw handle,
              gateway.handle? reference (Gateway.decodeRaw raw) = some handle
              → (gateway.lookup (some reference) (some raw)).result = .ok handle
                ∧ gateway.outcome (.capabilities (some reference) (some raw))
                  = .status handle.capabilities.bits.toNat
                ∧ ∀ output,
                    gateway.outcome (.read (some reference) (some raw) (some output))
                    = .sampled 0 (some (.ofHandle handle gateway.memory)))
          ∧ ∀ reference sensor later,
              (∀ call ∈ later, ¬ call.Assigns reference sensor)
              → (gateway.run later).1.handle? reference sensor
                = gateway.handle? reference sensor := by
  constructor
  · intro commands session
    refine ⟨?_, ?_, fun place later untouched => Session.handleAt?_run untouched⟩
    · intro handle has
      have made := Session.made_of_has has
      exact ⟨made.coherent, made⟩
    · intro command handle given
      have made := Session.made_of_answered given
      exact ⟨made.coherent, made⟩
  · intro calls gateway
    refine ⟨?_, ?_, fun reference sensor later untouched => Gateway.handle?_run untouched⟩
    · intro reference sensor handle there
      have made := Gateway.made_of_handle? there
      exact ⟨made.coherent, made⟩
    · intro reference raw handle there
      have found := Gateway.lookup_of_handle? there
      refine ⟨found, ?_, fun output => ?_⟩
      · rw [Gateway.outcome_capabilities, found]
      · rw [Gateway.outcome_read, found]

end Inertial
