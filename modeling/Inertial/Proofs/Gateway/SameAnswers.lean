import Inertial.Proofs.Gateway.Mirroring

/-! Calls of a gateway answer as the operations that they stand for, with the current numbers of the
arrays that the latest registration of a sensor refers to.
-/

namespace Inertial

/-- The mask of the sample says which channels have a buffer. Each of these holds the latest numbers
of the buffer, and all others hold zeros.
-/
structure Sample.Shows (sample : Sample) (ledger : Ledger) (buffers : PerChannel OptionalBuffer)
    : Prop where
  mask : ∀ channel, sample.capabilities.contains channel.flag = (buffers.get channel).isSome
  noOtherBits : Capabilities.known.contains sample.capabilities = true
  set
    : ∀ channel,
        sample.capabilities.contains channel.flag = true
        → ∃ buffer,
            buffers.get channel = some buffer
            ∧ ∀ index : Fin channel.size,
                ledger.latest? buffer.address index.val = some (sample.get channel)[index]
  clear
    : ∀ channel,
        sample.capabilities.contains channel.flag = false
        → sample.get channel = Vector.replicate channel.size 0

theorem Memory.Follows.sample
    {memory : Memory} {ledger : Ledger} (follows : memory.Follows ledger) (descriptor : Descriptor)
    (held : ∀ channel buffer, descriptor.get channel = some buffer → memory.Holds buffer)
    : (Sample.ofHandle (.ofDescriptor descriptor) memory).Shows ledger descriptor.toPerChannel := by
  have mask (channel : Channel)
      : (Handle.ofDescriptor descriptor).capabilities.contains channel.flag
        = (descriptor.get channel).isSome :=
    Handle.presentChannels_contains descriptor.toPerChannel channel
  have current (channel : Channel)
      : (Sample.ofHandle (.ofDescriptor descriptor) memory).get channel
        = ((descriptor.get channel).map memory.load).getD (Vector.replicate channel.size 0) := by
    simp only [Sample.ofHandle, Handle.read, PerChannel.get_map]
    rfl
  refine ⟨mask, Handle.known_contains_presentChannels descriptor.toPerChannel, ?_, ?_⟩
  · intro channel marked
    obtain ⟨buffer, found⟩ := Option.isSome_iff_exists.mp ((mask channel).symm.trans marked)
    refine ⟨buffer, found, fun index => ?_⟩
    rw [current, found, follows.latest?_eq_load (held channel buffer found)]
    rfl
  · intro channel unmarked
    have absent := Option.not_isSome_iff_eq_none.mp
      (Bool.eq_false_iff.mp ((mask channel).symm.trans unmarked))
    rw [current, absent]
    rfl

namespace Gateway

/-- Calls on a registry give back what its own operations do after those of the history. -/
structure Serves (gateway : Gateway) (counterpart : Counterpart) (reference : String)
    (history : List Registry.Operation)
    : Prop where
  register
    : ∀ sensor,
        (counterpart.described? sensor).isSome
        → gateway.outcome (.register (some reference) (some sensor)) = .status 0
  size
    : (Registry.after history).size < 2147483648
      → gateway.outcome (.size (some reference)) = .status (Registry.after history).size
  fails
    : ∀ name,
        gateway.outcome (.capabilities (some reference) (some name)) = .status (-1)
        ↔ ((Registry.after history).lookup (decodeRaw name)).result.isOk = false
  registered
    : ∀ name output descriptor,
        Registry.registration? history (decodeRaw name) = some descriptor
        → ∃ handle sample,
            ((Registry.after history).lookup (decodeRaw name)).result = .ok handle
            ∧ handle.Represents descriptor
            ∧ gateway.outcome (.capabilities (some reference) (some name))
              = .status handle.capabilities.bits.toNat
            ∧ gateway.outcome (.read (some reference) (some name) (some output))
              = .sampled 0 (some sample)
            ∧ sample.capabilities = handle.capabilities
            ∧ sample.Shows counterpart.ledger descriptor.toPerChannel
  missing
    : ∀ name output,
        Registry.registration? history (decodeRaw name) = none
        → gateway.outcome (.capabilities (some reference) (some name)) = .status (-1)
          ∧ gateway.outcome (.read (some reference) (some name) (some output))
            = .sampled (-1) (some output)

variable {gateway : Gateway} {counterpart : Counterpart}

theorem Mirrors.lookup_result (mirrors : gateway.Mirrors counterpart) {reference : String}
    {history : List Registry.Operation} (live : counterpart.registries reference = some history)
    (name : List UInt8)
    : (gateway.lookup (some reference) (some name)).result
      = match Registry.registration? history (decodeRaw name) with
        | some descriptor => .ok (.ofDescriptor descriptor)
        | none => .error (.notFound ⟨decodeRaw name, Registry.interfaceName⟩) := by
  rw [Gateway.lookup_result, mirrors.live?, live]
  simp only [Option.map_some, Registry.lookup_after]
  cases Registry.registration? history (decodeRaw name) <;> rfl

/-- No mask is the number of a failure. -/
theorem mask_ne_failed (mask : Capabilities) : (mask.bits.toNat : Int) ≠ failed := by
  unfold failed
  omega

theorem Mirrors.outcome_register (mirrors : gateway.Mirrors counterpart) {reference : String}
    {history : List Registry.Operation} (live : counterpart.registries reference = some history)
    {sensor : SensorRecord} {descriptor : Descriptor}
    (described : counterpart.described? sensor = some descriptor)
    : gateway.outcome (.register (some reference) (some sensor)) = .status 0 := by
  rw [outcome, Gateway.step, register_result, registration_result, mirrors.live?, live]
  cases named : sensor.name with
  | none => simp [Counterpart.described?, named] at described
  | some name => simp only [Option.map_some, named, mirrors.descriptor? named, described]

theorem Mirrors.serves (mirrors : gateway.Mirrors counterpart) {reference : String}
    {history : List Registry.Operation} (live : counterpart.registries reference = some history)
    : gateway.Serves counterpart reference history := by
  refine ⟨?_, ?_, ?_, ?_, ?_⟩
  · intro sensor described
    obtain ⟨descriptor, described⟩ := Option.isSome_iff_exists.mp described
    exact mirrors.outcome_register live described
  · intro few
    have exact : min (Registry.after history).size largestStatus = (Registry.after history).size :=
      Nat.min_eq_left (Nat.le_of_lt_succ few)
    rw [outcome, Gateway.step, size_result, mirrors.live?, live]
    simp only [Option.map_some, exact]
  · intro name
    rw [outcome_capabilities, mirrors.lookup_result live, Registry.lookup_after]
    cases Registry.registration? history (decodeRaw name) with
    | none => exact ⟨fun _ => rfl, fun _ => rfl⟩
    | some descriptor =>
        constructor
        · intro same
          injection same with same
          exact absurd same (mask_ne_failed _)
        · intro isOk
          cases isOk
  · intro name output descriptor last
    refine ⟨.ofDescriptor descriptor, .ofHandle (.ofDescriptor descriptor) gateway.memory,
      ?_, Handle.ofDescriptor_represents descriptor, ?_, ?_, rfl, ?_⟩
    · rw [Registry.lookup_after, last]
    · rw [outcome_capabilities, mirrors.lookup_result live, last]
    · rw [outcome_read, mirrors.lookup_result live, last]
    · exact mirrors.memory.sample descriptor
        (mirrors.backs live descriptor (Registry.registration?_mem last))
  · intro name output last
    rw [outcome_capabilities, outcome_read, mirrors.lookup_result live, last]
    exact ⟨rfl, rfl⟩

/-- In every run, calls on a registry answer as its own operations do after those that the calls
before stand for. A read fails exactly when asking for the mask fails, and otherwise gives that mask
with the latest numbers of the arrays of the last registration.
-/
theorem calls_answer_as_registries (calls : List Call)
    : let gateway := (empty.run calls).1
      let counterpart := Counterpart.empty.run calls
      (∀ reference history,
        counterpart.registries reference = some history
        → gateway.Serves counterpart reference history)
      ∧ ∀ reference name output, ∃ code status sample,
          gateway.outcome (.capabilities reference name) = .status code
          ∧ gateway.outcome (.read reference name (some output)) = .sampled status (some sample)
          ∧ (status = 0 ↔ code ≠ -1)
          ∧ (status = 0 → code = sample.capabilities.bits.toNat) := by
  intro gateway counterpart
  have mirrors : gateway.Mirrors counterpart := run_mirrors calls
  refine ⟨fun reference history live => mirrors.serves live, ?_⟩
  intro reference name output
  rw [outcome_capabilities, outcome_read]
  cases (gateway.lookup reference name).result with
  | error failure =>
      refine ⟨failed, failed, output, rfl, rfl, ?_, nofun⟩
      exact ⟨nofun, fun code => absurd rfl code⟩
  | ok handle =>
      refine ⟨handle.capabilities.bits.toNat, 0, .ofHandle handle gateway.memory, rfl, rfl, ?_,
        fun _ => rfl⟩
      exact ⟨fun _ => mask_ne_failed handle.capabilities, fun _ => rfl⟩

-- A write after the registration shows, and a name goes on only up to its first zero byte.
example
    : let gyro : SensorRecord :=
        ⟨some [105, 109, 117, 0, 46], none, fun channel =>
          if channel = .angularVelocity then some "gyro" else none⟩
      let calls : List Call :=
        [.newArray "gyro" 4 (Vector.replicate 4 0), .newRegistry "robot",
          .register (some "robot") (some gyro), .writeArray "gyro" 1 1]
      let request : Call :=
        .read (some "robot") (some [105, 109, 117]) (some (.filled .empty 1))
      match ((empty.run calls).1.step request).result.2 with
      | .sampled code (some sample) => code = 0 ∧ sample.angularVelocity = #v[0, 1, 0]
      | _ => False := by
  exact ⟨rfl, rfl⟩

end Gateway

end Inertial
