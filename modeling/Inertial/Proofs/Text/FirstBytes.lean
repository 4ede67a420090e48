import Inertial.Text.Utf8

/-! What a decoder makes of the first byte of a character, by the range that the byte is in. -/

namespace Inertial.Text

/-- A mask of ones at the low end keeps the remainder by a power of two. -/
theorem toNat_and_ones (byte mask : UInt8) (modulus width : Nat)
    (power : modulus = Nat.pow 2 width) (ones : mask.toNat = modulus - 1)
    : (byte &&& mask).toNat = byte.toNat % modulus := by
  rw [UInt8.toNat_and, ones, power]
  exact Nat.and_two_pow_sub_one_eq_mod byte.toNat width

theorem toNat_ofNat {number : Nat} (small : number < 0x100)
    : (UInt8.ofNat number).toNat = number :=
  UInt8.toNat_ofNat_of_lt' small

theorem decodeFirst_single {byte : UInt8} (below : byte < 0x80)
    : decodeFirst byte = ([Char.ofNat byte.toNat], .ground) := by
  simp only [decodeFirst]
  rw [if_pos below]

theorem decodeFirst_pair {byte : UInt8} (low : 0xC2 ≤ byte) (high : byte < 0xE0)
    : decodeFirst byte = ([], .within (byte.toNat % 32) 1 0x80 0xBF) := by
  simp only [decodeFirst]
  rw [if_neg (by grind), if_neg (by grind), if_pos high,
    toNat_and_ones byte 0x1F 32 5 rfl rfl]

theorem decodeFirst_triple {byte : UInt8} (low : 0xE0 ≤ byte) (high : byte < 0xF0)
    : decodeFirst byte
      = ([], .within (byte.toNat % 16) 2 (if byte = 0xE0 then 0xA0 else 0x80)
          (if byte = 0xED then 0x9F else 0xBF)) := by
  simp only [decodeFirst]
  rw [if_neg (by grind), if_neg (by grind), if_neg (by grind),
    toNat_and_ones byte 0x0F 16 4 rfl rfl]
  grind

theorem decodeFirst_quadruple {byte : UInt8} (low : 0xF0 ≤ byte) (high : byte ≤ 0xF4)
    : decodeFirst byte
      = ([], .within (byte.toNat % 8) 3 (if byte = 0xF0 then 0x90 else 0x80)
          (if byte = 0xF4 then 0x8F else 0xBF)) := by
  simp only [decodeFirst]
  rw [if_neg (by grind), if_neg (by grind), if_neg (by grind), if_neg (by grind),
    if_neg (by grind), if_neg (by grind), toNat_and_ones byte 0x07 8 3 rfl rfl]
  grind

theorem decodeFirst_none {byte : UInt8} (outside : 0x80 ≤ byte ∧ byte < 0xC2 ∨ 0xF4 < byte)
    : decodeFirst byte = ([replacement], .ground) := by
  simp only [decodeFirst]
  grind

theorem byte_ranges (byte : UInt8)
    : byte < 0x80
      ∨ (0x80 ≤ byte ∧ byte < 0xC2 ∨ 0xF4 < byte)
      ∨ (0xC2 ≤ byte ∧ byte < 0xE0)
      ∨ (0xE0 ≤ byte ∧ byte < 0xF0)
      ∨ (0xF0 ≤ byte ∧ byte ≤ 0xF4) := by
  grind

end Inertial.Text
