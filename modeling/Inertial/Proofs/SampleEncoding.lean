import Inertial.Proofs.CapabilityAgreement

/-! Samples are readings in another layout. Decoding a sample gives back the reading that it was
made of, and the samples that are made are those with zeros wherever the mask has nothing.
-/

namespace Inertial

namespace Sample

-----------------------------------------------------------------------------------------
-- Decoding
-----------------------------------------------------------------------------------------

/-- No bit is set that stands for no channel, and channels whose bits are clear hold zeros. -/
structure Canonical (sample : Sample) : Prop where
  known : Capabilities.known.contains sample.capabilities = true
  zeros
    : ∀ channel,
        sample.capabilities.contains channel.flag = false
        → sample.get channel = Vector.replicate channel.size 0

theorem get_toReading (sample : Sample) (channel : Channel)
    : sample.toReading.get channel
      = if sample.capabilities.contains channel.flag then some (sample.get channel) else none :=
  PerChannel.get_ofFn _ channel

theorem has_toReading (sample : Sample) (channel : Channel)
    : sample.toReading.has channel = sample.capabilities.contains channel.flag := by
  rw [Reading.has, get_toReading]
  cases sample.capabilities.contains channel.flag <;> rfl

theorem get_ofHandle (handle : Handle) (memory : Memory) (channel : Channel)
    : (ofHandle handle memory).get channel
      = ((handle.read memory).get channel).getD (Vector.replicate channel.size 0) :=
  PerChannel.get_map _ _ channel

/-- The mask is told apart by what is present, the numbers by what is read, and the rest is zero. -/
theorem Canonical.toReading_injective {left right : Sample} (leftCanonical : left.Canonical)
    (rightCanonical : right.Canonical) (same : left.toReading = right.toReading)
    : left = right := by
  have masks : left.capabilities = right.capabilities := by
    refine Capabilities.eq_of_contains_flag leftCanonical.known rightCanonical.known ?_
    intro channel
    rw [← has_toReading, ← has_toReading, same]
  have numbers : left.toPerChannel = right.toPerChannel := by
    refine PerChannel.ext_get fun channel => ?_
    cases present : left.capabilities.contains channel.flag with
    | true =>
        have decoded : left.toReading.get channel = right.toReading.get channel := by rw [same]
        rw [get_toReading, get_toReading, ← masks, if_pos present, if_pos present] at decoded
        exact Option.some.inj decoded
    | false =>
        rw [leftCanonical.zeros channel present, rightCanonical.zeros channel (masks ▸ present)]
  cases left
  cases right
  subst masks numbers
  rfl

-----------------------------------------------------------------------------------------
-- Samples of handles
-----------------------------------------------------------------------------------------

variable {handle : Handle} (memory : Memory)

/-- A bit of the mask is set exactly when the reading has the channel. -/
theorem contains_iff_read (described : handle.Described) (channel : Channel)
    : (ofHandle handle memory).capabilities.contains channel.flag
      = ((handle.read memory).get channel).isSome := by
  have coherent := described.coherent
  exact (coherent.buffers channel).trans (coherent.reading memory channel).symm

theorem get_of_present (described : handle.Described) {channel : Channel}
    (present : (ofHandle handle memory).capabilities.contains channel.flag = true)
    : (handle.read memory).get channel = some ((ofHandle handle memory).get channel) := by
  rw [contains_iff_read memory described] at present
  obtain ⟨values, read⟩ := Option.isSome_iff_exists.mp present
  rw [get_ofHandle, read, Option.getD_some]

theorem get_of_absent (described : handle.Described) {channel : Channel}
    (absent : (ofHandle handle memory).capabilities.contains channel.flag = false)
    : (handle.read memory).get channel = none
      ∧ (ofHandle handle memory).get channel = Vector.replicate channel.size 0 := by
  rw [contains_iff_read memory described, Option.isSome_eq_false_iff, Option.isNone_iff_eq_none]
    at absent
  rw [get_ofHandle, absent, Option.getD_none]
  exact ⟨rfl, rfl⟩

theorem canonical_ofHandle (described : handle.Described) : (ofHandle handle memory).Canonical where
  known := described.coherent.noOtherBits
  zeros _ absent := (get_of_absent memory described absent).2

theorem toReading_ofHandle (described : handle.Described)
    : (ofHandle handle memory).toReading = handle.read memory := by
  have agree : (ofHandle handle memory).toReading.toPerChannel
      = (handle.read memory).toPerChannel := by
    refine PerChannel.ext_get fun channel => ?_
    rw [get_toReading]
    cases present : (ofHandle handle memory).capabilities.contains channel.flag with
    | true => exact (get_of_present memory described present).symm
    | false => exact (get_of_absent memory described present).1.symm
  exact congrArg Reading.mk agree

theorem ofHandle_inj {left right : Handle} (leftDescribed : left.Described)
    (rightDescribed : right.Described) {leftMemory rightMemory : Memory}
    : ofHandle left leftMemory = ofHandle right rightMemory
      ↔ left.read leftMemory = right.read rightMemory := by
  rw [← toReading_ofHandle leftMemory leftDescribed,
    ← toReading_ofHandle rightMemory rightDescribed]
  constructor
  · intro same
    rw [same]
  · exact (canonical_ofHandle leftMemory leftDescribed).toReading_injective
      (canonical_ofHandle rightMemory rightDescribed)

end Sample

-----------------------------------------------------------------------------------------
-- A handle for every canonical sample
-----------------------------------------------------------------------------------------

theorem Channel.label_injective {left right : Channel} (same : left.label = right.label)
    : left = right := by
  cases left <;> cases right <;> first | rfl | exact absurd same (by decide)

theorem Descriptor.find?_eq_some
    {Place : Type} {name frame : String} {place? : Channel → Option Place}
    {find : (channel : Channel) → Place → Option (Buffer channel.size)}
    {buffers : (channel : Channel) → Option (Buffer channel.size)}
    (found : ∀ channel, (place? channel).bind (find channel) = buffers channel)
    (all : ∀ channel, (buffers channel).isSome = (place? channel).isSome)
    : find? name frame place? find = some { toPerChannel := .ofFn buffers, name, frame } := by
  simp only [find?, found, all]
  simp

namespace Memory

variable {size other : Nat}

theorem load_allocate_new (memory : Memory) (values : Vector Double size)
    : (memory.allocate values).1.load (memory.allocate values).2 = values := by
  ext index bound
  simp [load, cell_allocate_new]

theorem load_allocate {memory : Memory} {buffer : Buffer size} (held : memory.Holds buffer)
    (values : Vector Double other)
    : (memory.allocate values).1.load buffer = memory.load buffer := by
  ext index bound
  simp [load, cell_allocate held]

end Memory

namespace Session

/-- A buffer under the label of the channel has these numbers. -/
def Provides (session : Session) (channel : Channel) (values : Vector Double channel.size) : Prop :=
  ∃ buffer : Buffer channel.size,
    session.buffers[channel.label]? = some ⟨channel.size, buffer⟩
    ∧ session.memory.Holds buffer
    ∧ session.memory.load buffer = values

/-- A new buffer under the label of the channel. -/
def provide (channel : Channel) (values : Vector Double channel.size) : Command :=
  .driver (.newBuffer channel.label channel.size values)

def providing (values : PerChannel (Vector Double)) (channels : List Channel) : List Command :=
  channels.map fun channel => provide channel (values.get channel)

/-- A sensor with the channels of the mask, each in the buffer under its label. -/
def labelledSensor (mask : Capabilities) : SensorSource where
  name := ""
  frame := ""
  buffers := .buffers fun channel => if mask.contains channel.flag then some channel.label else none

/-- A session in which a handle has the numbers of the sample. -/
def sampling (sample : Sample) : List Command :=
  providing sample.toPerChannel Channel.all
    ++ [.newHandle "sampled" (labelledSensor sample.capabilities)]

variable {session : Session}

theorem provides_next (channel : Channel) (values : Vector Double channel.size)
    : (session.next (provide channel values)).Provides channel values := by
  refine ⟨(session.memory.allocate values).2, ?_, ?_, ?_⟩
  · exact (NameMap.getElem?_insert _ _ _ _).trans (if_pos rfl)
  · exact Memory.holds_allocate_new session.memory values
  · exact Memory.load_allocate_new session.memory values

/-- A buffer for another channel goes by another label. -/
theorem Provides.next {channel : Channel} {values : Vector Double channel.size}
    (provides : session.Provides channel values) {other : Channel} (different : other ≠ channel)
    (otherValues : Vector Double other.size)
    : (session.next (provide other otherValues)).Provides channel values := by
  obtain ⟨buffer, found, held, loaded⟩ := provides
  have labels : other.label ≠ channel.label := fun same => different (Channel.label_injective same)
  refine ⟨buffer, ?_, ?_, ?_⟩
  · exact (NameMap.getElem?_insert _ _ _ _).trans ((if_neg labels).trans found)
  · exact Memory.holds_allocate held otherValues
  · exact (Memory.load_allocate held otherValues).trans loaded

/-- By induction on the buffers that are still to be made. -/
theorem provides_run (values : PerChannel (Vector Double)) (channels : List Channel)
    {channel : Channel}
    (provided : channel ∈ channels ∨ session.Provides channel (values.get channel))
    : (session.run (providing values channels)).1.Provides channel (values.get channel) := by
  induction channels generalizing session with
  | nil => exact provided.resolve_left List.not_mem_nil
  | cons first rest ih =>
      change ((session.next (provide first _)).run (providing values rest)).1.Provides channel _
      refine ih ?_
      by_cases same : first = channel
      · subst first
        exact .inr (provides_next channel (values.get channel))
      · rcases provided with member | provides
        · exact .inl ((List.mem_cons.mp member).resolve_left (Ne.symm same))
        · exact .inr (provides.next same _)

/-- Every buffer that the mask asks for is found, and no other one. -/
theorem descriptor?_labelledSensor {values : PerChannel (Vector Double)}
    (provides : ∀ channel, session.Provides channel (values.get channel)) (mask : Capabilities)
    : ∃ descriptor,
        session.descriptor? (labelledSensor mask) = some descriptor
        ∧ ∀ channel,
            (descriptor.get channel).map session.memory.load
            = if mask.contains channel.flag then some (values.get channel) else none := by
  choose buffer found held loaded using provides
  have looked (channel : Channel)
      : session.buffer? channel.size (.named channel.label) = some (buffer channel) := by
    rw [buffer?, sizedBuffer?, found, Option.bind_some, SizedBuffer.ofSize?, if_pos rfl]
    rfl
  have described
      : session.descriptor? (labelledSensor mask)
        = some
            {
              toPerChannel :=
                .ofFn fun channel =>
                  if mask.contains channel.flag then some (buffer channel) else none,
              name := "",
              frame := ""
            } := by
    refine Descriptor.find?_eq_some (fun channel => ?_) (fun channel => ?_)
    · simp only [labelledSensor, BufferSource.buffers]
      split
      · exact looked channel
      · rfl
    · simp only [labelledSensor, BufferSource.buffers]
      split <;> rfl
  refine ⟨_, described, fun channel => ?_⟩
  rw [PerChannel.get_ofFn]
  split
  · rw [Option.map_some, loaded]
  · rfl

/-- The handle of the session is read as the sample decodes, and canonical samples that decode to
the same reading are the same.
-/
theorem sampled_of_canonical {sample : Sample} (canonical : sample.Canonical)
    : ∃ handle,
        (empty.run (sampling sample)).1.Has handle
        ∧ Sample.ofHandle handle (empty.run (sampling sample)).1.memory = sample := by
  set provided := (empty.run (providing sample.toPerChannel Channel.all)).1
  have provides (channel : Channel) : provided.Provides channel (sample.get channel) :=
    provides_run sample.toPerChannel Channel.all (.inl channel.mem_all)
  obtain ⟨descriptor, described, loaded⟩ :=
    descriptor?_labelledSensor provides sample.capabilities
  have final
      : (empty.run (sampling sample)).1
        = provided.keepHandle (some "sampled") (.ofDescriptor descriptor) := by
    rw [sampling, run_append]
    change (provided.step (.newHandle "sampled" (labelledSensor sample.capabilities))).result.1 = _
    simp only [step, described]
    rfl
  rw [final]
  refine ⟨.ofDescriptor descriptor, ⟨.kept "sampled", ?_⟩, ?_⟩
  · exact (NameMap.getElem?_insert _ _ _ _).trans (if_pos rfl)
  · refine (Sample.canonical_ofHandle _ ⟨descriptor, rfl⟩).toReading_injective canonical ?_
    rw [Sample.toReading_ofHandle _ ⟨descriptor, rfl⟩]
    refine congrArg Reading.mk (PerChannel.ext_get fun channel => ?_)
    rw [PerChannel.get_map, PerChannel.get_ofFn]
    exact loaded channel

end Session

/-- Every handle of a run was made of a description. Of such a handle, each channel is read as the
sample has it when its bit is set, and is absent and zero in the sample when the bit is clear. So
two samples are the same exactly when the readings are, and a channel that only one reading has
shows in the masks. The samples that come up are the canonical ones.
-/
theorem samples_encode_readings
    : ((∀ commands handle, (Session.empty.run commands).1.Has handle → handle.Described)
        ∧ (∀ commands command handle,
            handle ∈ ((Session.empty.run commands).1.step command).result.2.handles
            → handle.Described)
        ∧ ∀ calls reference sensor handle,
            (Gateway.empty.run calls).1.handle? reference sensor = some handle
            → handle.Described)
      ∧ (∀ (handle : Handle) memory,
          handle.Described
          → let sample := Sample.ofHandle handle memory
            let reading := handle.read memory
            sample.toReading = reading
            ∧ ∀ channel : Channel,
                if sample.capabilities.contains channel.flag then
                  reading.get channel = some (sample.get channel)
                else
                  reading.get channel = none
                  ∧ sample.get channel = Vector.replicate channel.size 0)
      ∧ (∀ (left right : Handle) leftMemory rightMemory,
          left.Described
          → right.Described
          → (Sample.ofHandle left leftMemory = Sample.ofHandle right rightMemory
              ↔ ∀ channel,
                  (left.read leftMemory).get channel = (right.read rightMemory).get channel)
            ∧ ∀ channel,
                (left.read leftMemory).has channel ≠ (right.read rightMemory).has channel
                → (Sample.ofHandle left leftMemory).capabilities
                  ≠ (Sample.ofHandle right rightMemory).capabilities)
      ∧ ∀ sample : Sample,
          sample.Canonical
          ↔ ∃ commands handle,
              let session := (Session.empty.run commands).1
              session.Has handle
              ∧ Sample.ofHandle handle session.memory = sample
              ∧ sample.toReading = handle.read session.memory := by
  refine ⟨⟨?_, ?_, ?_⟩, ?_, ?_, ?_⟩
  · intro commands handle has
    exact (Session.made_of_has has).described
  · intro commands command handle given
    exact (Session.made_of_answered given).described
  · intro calls reference sensor handle there
    exact (Gateway.made_of_handle? there).described
  · intro handle memory described
    refine ⟨Sample.toReading_ofHandle memory described, fun channel => ?_⟩
    split
    · next present => exact Sample.get_of_present memory described present
    · next absent =>
        exact Sample.get_of_absent memory described (Bool.eq_false_iff.mpr absent)
  · intro left right leftMemory rightMemory leftDescribed rightDescribed
    constructor
    · rw [Sample.ofHandle_inj leftDescribed rightDescribed]
      exact ⟨fun same channel => by rw [same],
        fun same => congrArg Reading.mk (PerChannel.ext_get same)⟩
    · intro channel different masks
      have leftBit := Sample.contains_iff_read leftMemory leftDescribed channel
      have rightBit := Sample.contains_iff_read rightMemory rightDescribed channel
      rw [masks] at leftBit
      exact different (leftBit.symm.trans rightBit)
  · intro sample
    constructor
    · intro canonical
      obtain ⟨handle, has, encoded⟩ := Session.sampled_of_canonical canonical
      have described := (Session.made_of_has has).described
      refine ⟨Session.sampling sample, handle, has, encoded, ?_⟩
      rw [← Sample.toReading_ofHandle _ described, encoded]
    · rintro ⟨commands, handle, has, rfl, _⟩
      exact Sample.canonical_ofHandle _ (Session.made_of_has has).described

end Inertial
