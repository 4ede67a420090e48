import Inertial.Handle

/-! Capability masks bit by bit. The mask of a handle has exactly the bits of the channels for which
its sensor was described with a buffer.
-/

namespace Inertial

/-- The place of the channel's bit in a mask. -/
def Channel.bit : Channel → Nat
  | orientation => 0
  | orientationCovariance => 1
  | angularVelocity => 2
  | angularVelocityCovariance => 3
  | linearAcceleration => 4
  | linearAccelerationCovariance => 5

theorem Channel.bit_injective {left right : Channel} (same : left.bit = right.bit)
    : left = right := by
  cases left <;> cases right <;> first | rfl | cases same

namespace Capabilities

def hasBit (mask : Capabilities) (place : Nat) : Bool := mask.bits.toBitVec.getLsbD place

theorem eq_of_hasBit {left right : Capabilities}
    (same : ∀ place, left.hasBit place = right.hasBit place)
    : left = right := by
  have bits : left.bits = right.bits :=
    UInt16.toBitVec_inj.mp (BitVec.eq_of_getLsbD_eq fun place _ => same place)
  cases left
  cases right
  exact congrArg mk bits

theorem hasBit_empty (place : Nat) : empty.hasBit place = false := by
  simp [hasBit, empty]

theorem hasBit_flag (channel : Channel) (place : Nat)
    : channel.flag.hasBit place = decide (channel.bit = place) := by
  have power : channel.flag.bits.toBitVec = BitVec.twoPow 16 channel.bit := by
    cases channel <;> rfl
  have inMask : channel.bit < 16 := by
    cases channel <;> decide
  rw [hasBit, power, BitVec.getLsbD_twoPow]
  simp [inMask, eq_comm]

theorem hasBit_inter (left right : Capabilities) (place : Nat)
    : (left.inter right).hasBit place = (left.hasBit place && right.hasBit place) := by
  simp [hasBit, inter]

/-- Every bit of the one mask is set in the other. -/
theorem contains_iff (mask flags : Capabilities)
    : mask.contains flags ↔ ∀ place, flags.hasBit place → mask.hasBit place := by
  rw [contains, beq_iff_eq]
  constructor
  · intro same place set
    rw [← same, hasBit_inter, Bool.and_eq_true] at set
    exact set.1
  · intro included
    apply eq_of_hasBit
    intro place
    rw [hasBit_inter]
    cases set : flags.hasBit place with
    | false => simp
    | true => simp [included place set]

theorem contains_flag (mask : Capabilities) (channel : Channel)
    : mask.contains channel.flag = mask.hasBit channel.bit := by
  rw [Bool.eq_iff_iff, contains_iff]
  simp [hasBit_flag]

theorem hasBit_set (mask flags : Capabilities) (present : Bool) (place : Nat)
    : (mask.set flags present).hasBit place
      = if flags.hasBit place then present else mask.hasBit place := by
  cases present with
  | true => cases marked : flags.hasBit place <;> simp_all [set, union, hasBit]
  | false =>
      by_cases inMask : place < 16
      · cases marked : flags.hasBit place <;> simp_all [set, diff, hasBit]
      · have beyond : 16 ≤ place := Nat.le_of_not_lt inMask
        simp [hasBit, BitVec.getLsbD_of_ge _ _ beyond]

/-- Setting the flags of some channels leaves all other bits, by induction on the channels. -/
theorem hasBit_setAll_other
    (present : Channel → Bool) (channels : List Channel) (mask : Capabilities) {place : Nat}
    (others : ∀ channel ∈ channels, channel.bit ≠ place)
    : (channels.foldl (fun mask channel => mask.set channel.flag (present channel)) mask).hasBit
        place
      = mask.hasBit place := by
  induction channels generalizing mask with
  | nil => rfl
  | cons first rest ih =>
      have other := others first (by simp)
      rw [List.foldl_cons, ih _ fun channel member => others channel (by simp [member]),
        hasBit_set, hasBit_flag]
      simp [other]

/-- A channel's flag is as it was set, because no other channel has the same bit. -/
theorem hasBit_setAll
    (present : Channel → Bool) (channels : List Channel) (mask : Capabilities) {channel : Channel}
    (member : channel ∈ channels)
    : (channels.foldl (fun mask channel => mask.set channel.flag (present channel)) mask).hasBit
        channel.bit
      = present channel := by
  induction channels generalizing mask with
  | nil => cases member
  | cons first rest ih =>
      rw [List.foldl_cons]
      by_cases later : channel ∈ rest
      · exact ih _ later
      · have same : channel = first := by simpa [later] using member
        subst first
        have others : ∀ other ∈ rest, other.bit ≠ channel.bit := by
          intro other found equal
          exact later (Channel.bit_injective equal ▸ found)
        rw [hasBit_setAll_other present rest _ others, hasBit_set, hasBit_flag]
        simp

theorem hasBit_known (channel : Channel) : known.hasBit channel.bit = true := by
  cases channel <;> decide

/-- The known bits are those of the channels. -/
theorem hasBit_known_other {place : Nat} (other : ¬ ∃ channel : Channel, channel.bit = place)
    : known.hasBit place = false := by
  by_cases inMask : place < 16
  · have all : ∀ place : Fin 16,
        known.hasBit place = true → ∃ channel ∈ Channel.all, channel.bit = place := by
      decide
    rw [Bool.eq_false_iff]
    intro marked
    obtain ⟨channel, _, same⟩ := all ⟨place, inMask⟩ marked
    exact other ⟨channel, same⟩
  · exact BitVec.getLsbD_of_ge _ _ (Nat.le_of_not_lt inMask)

/-- A mask without other bits is known by its channels. -/
theorem eq_of_contains_flag {left right : Capabilities} (leftKnown : known.contains left = true)
    (rightKnown : known.contains right = true)
    (same : ∀ channel : Channel, left.contains channel.flag = right.contains channel.flag)
    : left = right := by
  apply eq_of_hasBit
  intro place
  by_cases some : ∃ channel : Channel, channel.bit = place
  · obtain ⟨channel, rfl⟩ := some
    simpa only [contains_flag] using same channel
  · have cleared {mask : Capabilities} (inside : known.contains mask = true)
        : mask.hasBit place = false := by
      rw [Bool.eq_false_iff]
      intro marked
      have beyond := (contains_iff known mask).mp inside place marked
      rw [hasBit_known_other some] at beyond
      cases beyond
    rw [cleared leftKnown, cleared rightKnown]

end Capabilities

namespace Handle

variable (buffers : PerChannel OptionalBuffer)

theorem presentChannels_contains (channel : Channel)
    : (presentChannels buffers).contains channel.flag = (buffers.get channel).isSome := by
  rw [Capabilities.contains_flag]
  exact Capabilities.hasBit_setAll (fun channel => (buffers.get channel).isSome) Channel.all .empty
    channel.mem_all

/-- The bits of a handle's mask are those of the channels that have a buffer, and no others. -/
theorem hasBit_presentChannels (place : Nat)
    : (presentChannels buffers).hasBit place = true
      ↔ ∃ channel : Channel, channel.bit = place ∧ (buffers.get channel).isSome = true := by
  constructor
  · intro marked
    by_cases some : ∃ channel : Channel, channel.bit = place
    · obtain ⟨channel, rfl⟩ := some
      exact ⟨channel, rfl, by rwa [← presentChannels_contains, Capabilities.contains_flag]⟩
    · have others : ∀ channel ∈ Channel.all, channel.bit ≠ place := by
        intro channel _ same
        exact some ⟨channel, same⟩
      have cleared :=
        Capabilities.hasBit_setAll_other (fun channel => (buffers.get channel).isSome) Channel.all
          .empty others
      rw [Capabilities.hasBit_empty] at cleared
      exact absurd marked (by simpa [presentChannels] using cleared)
  · rintro ⟨channel, rfl, provided⟩
    rwa [← Capabilities.contains_flag, presentChannels_contains]

/-- A handle's mask has no bit that stands for no channel. -/
theorem known_contains_presentChannels
    : Capabilities.known.contains (presentChannels buffers) = true := by
  rw [Capabilities.contains_iff]
  intro place marked
  obtain ⟨channel, rfl, _⟩ := (hasBit_presentChannels buffers place).mp marked
  exact Capabilities.hasBit_known channel

end Handle

end Inertial
