import Inertial.Proofs.Text.RoundTrip

/-! A decoder is always in a sound state: it only awaits code points that are characters, and that
need more than one byte.
-/

namespace Inertial.Text

theorem toNat_charOfNat {point : Nat} (valid : point.isValidChar)
    : (Char.ofNat point).toNat = point := by
  rw [Char.ofNat, dif_pos valid]
  rfl

/-- Whatever the state can still complete is a character outside of ASCII. -/
def DecoderState.Sound : DecoderState → Prop
  | ground => True
  | within value remaining low high =>
      0 < remaining
      ∧ 0x80 ≤ low
      ∧ high ≤ 0xBF
      ∧ ∀ point, (within value remaining low high).Awaits point → 0x80 ≤ point ∧ point.isValidChar

theorem sound_pair {byte : UInt8} (low : 0xC2 ≤ byte) (high : byte < 0xE0)
    : (decodeFirst byte).2.Sound := by
  have least : 0xC2 ≤ byte.toNat := low
  have most : byte.toNat < 0xE0 := high
  rw [decodeFirst_pair low high]
  refine ⟨by decide, by decide, by decide, ?_⟩
  rintro point ⟨starts, _, _⟩
  have read : point / 64 = byte.toNat % 32 := starts
  simp only [Nat.isValidChar]
  omega

theorem sound_triple {byte : UInt8} (low : 0xE0 ≤ byte) (high : byte < 0xF0)
    : (decodeFirst byte).2.Sound := by
  have least : 0xE0 ≤ byte.toNat := low
  have most : byte.toNat < 0xF0 := high
  rw [decodeFirst_triple low high]
  refine ⟨by decide, by grind, by grind, ?_⟩
  rintro point ⟨starts, above, below⟩
  have read : point / 64 / 64 = byte.toNat % 16 := starts
  -- After these two bytes, the bounds shut out overlong encodings and surrogates.
  have smallest : byte.toNat = 0xE0 → 0xA0 ≤ point / 64 % 64 + 0x80 := by
    intro same
    rwa [if_pos (UInt8.toNat_inj.mp same)] at above
  have beforeSurrogates : byte.toNat = 0xED → point / 64 % 64 + 0x80 ≤ 0x9F := by
    intro same
    rwa [if_pos (UInt8.toNat_inj.mp same)] at below
  simp only [Nat.isValidChar]
  omega

theorem sound_quadruple {byte : UInt8} (low : 0xF0 ≤ byte) (high : byte ≤ 0xF4)
    : (decodeFirst byte).2.Sound := by
  have least : 0xF0 ≤ byte.toNat := low
  have most : byte.toNat ≤ 0xF4 := high
  rw [decodeFirst_quadruple low high]
  refine ⟨by decide, by grind, by grind, ?_⟩
  rintro point ⟨starts, above, below⟩
  have read : point / 64 / 64 / 64 = byte.toNat % 8 := starts
  -- After these two bytes, the bounds shut out overlong encodings and what is too large.
  have smallest : byte.toNat = 0xF0 → 0x90 ≤ point / 64 / 64 % 64 + 0x80 := by
    intro same
    rwa [if_pos (UInt8.toNat_inj.mp same)] at above
  have largest : byte.toNat = 0xF4 → point / 64 / 64 % 64 + 0x80 ≤ 0x8F := by
    intro same
    rwa [if_pos (UInt8.toNat_inj.mp same)] at below
  simp only [Nat.isValidChar]
  omega

theorem decodeFirst_sound (byte : UInt8) : (decodeFirst byte).2.Sound := by
  rcases byte_ranges byte with ascii | invalid | ⟨low, high⟩ | ⟨low, high⟩ | ⟨low, high⟩
  · rw [decodeFirst_single ascii]
    trivial
  · rw [decodeFirst_none invalid]
    trivial
  · exact sound_pair low high
  · exact sound_triple low high
  · exact sound_quadruple low high

/-- A code point that goes on with an accepted byte was awaited before. -/
theorem awaits_of_accepted {value count point : Nat} {low high byte : UInt8}
    (least : 0x80 ≤ low) (most : high ≤ 0xBF) (accepted : low ≤ byte ∧ byte ≤ high)
    (starts : leadingBits point count = value * 64 + (byte &&& 0x3F).toNat)
    : (DecoderState.within value (count + 1) low high).Awaits point := by
  have bits : (byte &&& 0x3F).toNat = byte.toNat % 64 := toNat_and_ones byte 0x3F 64 6 rfl rfl
  have above : 0x80 ≤ byte.toNat := UInt8.le_trans least accepted.1
  have below : byte.toNat ≤ 0xBF := UInt8.le_trans accepted.2 most
  have next : leadingBits point count % 64 + 0x80 = byte.toNat := by
    omega
  refine ⟨?_, ?_, ?_⟩
  · change leadingBits point count / 64 = value
    omega
  · rw [Nat.add_sub_cancel, next]
    exact accepted.1
  · rw [Nat.add_sub_cancel, next]
    exact accepted.2

theorem decodeNext_sound {state : DecoderState} (sound : state.Sound) (byte : UInt8)
    : (decodeNext state byte).2.Sound := by
  cases state with
  | ground => exact decodeFirst_sound byte
  | within value remaining low high =>
      obtain ⟨positive, least, most, characters⟩ := sound
      simp only [decodeNext]
      split
      · next accepted =>
          split
          · trivial
          · next several =>
              obtain ⟨count, rfl⟩ : ∃ count, remaining = count + 1 := ⟨remaining - 1, by omega⟩
              refine ⟨by omega, by decide, by decide, ?_⟩
              rintro point ⟨starts, _, _⟩
              exact characters point (awaits_of_accepted least most accepted starts)
      · exact decodeFirst_sound byte

end Inertial.Text
