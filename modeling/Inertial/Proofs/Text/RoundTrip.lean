import Inertial.Proofs.Text.FirstBytes

/-! Decoding undoes encoding. It follows from which code points a decoder can still complete in each
of its states.
-/

namespace Inertial.Text

/-- The bits of a code point that come before its last bytes, which have six bits each. -/
def leadingBits (point : Nat) : Nat → Nat
  | 0 => point
  | count + 1 => leadingBits point count / 64

/-- The last bytes in the encoding of a code point. -/
def continuation (point : Nat) : Nat → List UInt8
  | 0 => []
  | count + 1 => UInt8.ofNat (leadingBits point count % 64 + 0x80) :: continuation point count

/-- The code point starts with the bits that were read, and the state accepts its next byte. -/
def DecoderState.Awaits : DecoderState → Nat → Prop
  | ground, _ => False
  | within value remaining low high, point =>
      leadingBits point remaining = value
      ∧ low.toNat ≤ leadingBits point (remaining - 1) % 64 + 0x80
      ∧ leadingBits point (remaining - 1) % 64 + 0x80 ≤ high.toNat

/-- One more byte adds the next six bits. -/
theorem leadingBits_step (point count : Nat)
    : leadingBits point (count + 1) * 64 + leadingBits point count % 64 = leadingBits point count :=
  Nat.div_add_mod' (leadingBits point count) 64

/-- The next byte of an awaited code point is taken. -/
theorem decodeNext_awaited {value count point : Nat} {low high : UInt8}
    (awaits : (DecoderState.within value (count + 1) low high).Awaits point)
    : decodeNext (.within value (count + 1) low high)
        (UInt8.ofNat (leadingBits point count % 64 + 0x80))
      = if count = 0 then ([Char.ofNat point], .ground)
        else ([], .within (leadingBits point count) count 0x80 0xBF) := by
  obtain ⟨rfl, above, below⟩ := awaits
  rw [Nat.add_sub_cancel] at above below
  have small : leadingBits point count % 64 < 64 := Nat.mod_lt _ (by decide)
  have byte : (UInt8.ofNat (leadingBits point count % 64 + 0x80)).toNat
      = leadingBits point count % 64 + 0x80 :=
    toNat_ofNat (by omega)
  have bits : (UInt8.ofNat (leadingBits point count % 64 + 0x80) &&& 0x3F).toNat
      = leadingBits point count % 64 := by
    rw [toNat_and_ones _ 0x3F 64 6 rfl rfl, byte]
    omega
  have accepted : low ≤ UInt8.ofNat (leadingBits point count % 64 + 0x80)
      ∧ UInt8.ofNat (leadingBits point count % 64 + 0x80) ≤ high := by
    rw [UInt8.le_iff_toNat_le, UInt8.le_iff_toNat_le, byte]
    exact ⟨above, below⟩
  simp only [decodeNext, if_pos accepted, bits, leadingBits_step]
  cases count with
  | zero => simp [leadingBits]
  | succ count => simp

/-- A decoder that awaits a code point completes it, by induction on the bytes to come. -/
theorem decodeFrom_continuation {value count point : Nat} {low high : UInt8}
    (awaits : (DecoderState.within value (count + 1) low high).Awaits point) (rest : List UInt8)
    : decodeFrom (.within value (count + 1) low high) (continuation point (count + 1) ++ rest)
      = Char.ofNat point :: decodeFrom .ground rest := by
  induction count generalizing value low high with
  | zero =>
      rw [continuation, List.cons_append, decodeFrom, decodeNext_awaited awaits, if_pos rfl]
      rfl
  | succ count ih =>
      let value := leadingBits point (count + 1)
      have next : (DecoderState.within value (count + 1) 0x80 0xBF).Awaits point := by
        have small : leadingBits point count % 64 < 64 := Nat.mod_lt _ (by decide)
        refine ⟨rfl, Nat.le_add_left _ _, ?_⟩
        exact Nat.le_of_lt_succ (Nat.add_lt_add_right small 0x80)
      rw [continuation, List.cons_append, decodeFrom, decodeNext_awaited awaits,
        if_neg (Nat.succ_ne_zero count)]
      exact ih next

section Leading

variable {point : Nat} {first : UInt8}

/-- The byte makes a decoder await the code point, with as many bytes to come. -/
def Leads (first : UInt8) (point count : Nat) : Prop :=
  ∃ value low high,
    decodeFirst first = ([], .within value count low high)
    ∧ (DecoderState.within value count low high).Awaits point

theorem leads_pair (least : 0x80 ≤ point) (most : point ≤ 0x7FF)
    (leading : first.toNat = point / 64 + 0xC0)
    : Leads first point 1 := by
  have low : 0xC2 ≤ first := UInt8.le_iff_toNat_le.mpr (show 0xC2 ≤ first.toNat by omega)
  have high : first < 0xE0 := UInt8.lt_iff_toNat_lt.mpr (show first.toNat < 0xE0 by omega)
  refine ⟨_, _, _, decodeFirst_pair low high, ?_, ?_, ?_⟩
  · change point / 64 = first.toNat % 32
    omega
  · change 0x80 ≤ point % 64 + 0x80
    omega
  · change point % 64 + 0x80 ≤ 0xBF
    omega

/-- The second byte is bounded where the code point could be overlong or a surrogate. -/
theorem leads_triple (least : 0x800 ≤ point) (most : point ≤ 0xFFFF)
    (scalar : point < 0xD800 ∨ 0xDFFF < point)
    (leading : first.toNat = point / 4096 + 0xE0)
    : Leads first point 2 := by
  have low : 0xE0 ≤ first := UInt8.le_iff_toNat_le.mpr (show 0xE0 ≤ first.toNat by omega)
  have high : first < 0xF0 := UInt8.lt_iff_toNat_lt.mpr (show first.toNat < 0xF0 by omega)
  refine ⟨_, _, _, decodeFirst_triple low high, ?_, ?_, ?_⟩
  · change point / 64 / 64 = first.toNat % 16
    omega
  · split
    · next smallest =>
        have same : first.toNat = 0xE0 := congrArg UInt8.toNat smallest
        change 0xA0 ≤ point / 64 % 64 + 0x80
        omega
    · change 0x80 ≤ point / 64 % 64 + 0x80
      omega
  · split
    · next beforeSurrogates =>
        have same : first.toNat = 0xED := congrArg UInt8.toNat beforeSurrogates
        change point / 64 % 64 + 0x80 ≤ 0x9F
        omega
    · change point / 64 % 64 + 0x80 ≤ 0xBF
      omega

/-- The second byte is bounded where the code point could be overlong or too large. -/
theorem leads_quadruple (least : 0x10000 ≤ point) (most : point ≤ 0x10FFFF)
    (leading : first.toNat = point / 262144 + 0xF0)
    : Leads first point 3 := by
  have low : 0xF0 ≤ first := UInt8.le_iff_toNat_le.mpr (show 0xF0 ≤ first.toNat by omega)
  have high : first ≤ 0xF4 := UInt8.le_iff_toNat_le.mpr (show first.toNat ≤ 0xF4 by omega)
  refine ⟨_, _, _, decodeFirst_quadruple low high, ?_, ?_, ?_⟩
  · change point / 64 / 64 / 64 = first.toNat % 8
    omega
  · split
    · next smallest =>
        have same : first.toNat = 0xF0 := congrArg UInt8.toNat smallest
        change 0x90 ≤ point / 64 / 64 % 64 + 0x80
        omega
    · change 0x80 ≤ point / 64 / 64 % 64 + 0x80
      omega
  · split
    · next largest =>
        have same : first.toNat = 0xF4 := congrArg UInt8.toNat largest
        change point / 64 / 64 % 64 + 0x80 ≤ 0x8F
        omega
    · change point / 64 / 64 % 64 + 0x80 ≤ 0xBF
      omega

end Leading

section Encoding

variable {character : Char}

theorem encodeChar_single (most : character.toNat ≤ 0x7F)
    : String.utf8EncodeChar character = [UInt8.ofNat character.toNat] :=
  if_pos most

theorem encodeChar_pair (least : 0x80 ≤ character.toNat) (most : character.toNat ≤ 0x7FF)
    : String.utf8EncodeChar character
      = UInt8.ofNat (character.toNat / 64 + 0xC0) :: continuation character.toNat 1 := by
  have point : character.val.toNat = character.toNat := rfl
  unfold String.utf8EncodeChar
  rw [point, if_neg (by omega), if_pos most, Nat.mod_eq_of_lt (by omega)]
  rfl

theorem encodeChar_triple (least : 0x800 ≤ character.toNat) (most : character.toNat ≤ 0xFFFF)
    : String.utf8EncodeChar character
      = UInt8.ofNat (character.toNat / 4096 + 0xE0) :: continuation character.toNat 2 := by
  have point : character.val.toNat = character.toNat := rfl
  unfold String.utf8EncodeChar
  rw [point, if_neg (by omega), if_neg (by omega), if_pos most, Nat.mod_eq_of_lt (by omega)]
  rfl

theorem encodeChar_quadruple (least : 0x10000 ≤ character.toNat)
    : String.utf8EncodeChar character
      = UInt8.ofNat (character.toNat / 262144 + 0xF0) :: continuation character.toNat 3 := by
  have scalar : character.toNat < 0xD800 ∨ 0xDFFF < character.toNat ∧ character.toNat < 0x110000 :=
    character.valid
  have point : character.val.toNat = character.toNat := rfl
  unfold String.utf8EncodeChar
  rw [point, if_neg (by omega), if_neg (by omega), if_neg (by omega),
    Nat.mod_eq_of_lt (by omega)]
  simp [continuation, leadingBits, Nat.div_div_eq_div_mul]

/-- The encoding of a character outside of ASCII. -/
theorem encodeChar_leading (large : 0x80 ≤ character.toNat)
    : ∃ first count,
        String.utf8EncodeChar character = first :: continuation character.toNat (count + 1)
        ∧ Leads first character.toNat (count + 1) := by
  have scalar : character.toNat < 0xD800 ∨ 0xDFFF < character.toNat ∧ character.toNat < 0x110000 :=
    character.valid
  by_cases pair : character.toNat ≤ 0x7FF
  · exact ⟨_, 0, encodeChar_pair large pair, leads_pair large pair (toNat_ofNat (by omega))⟩
  · by_cases triple : character.toNat ≤ 0xFFFF
    · exact ⟨_, 1, encodeChar_triple (by omega) triple,
        leads_triple (by omega) triple (by omega) (toNat_ofNat (by omega))⟩
    · exact ⟨_, 2, encodeChar_quadruple (by omega),
        leads_quadruple (by omega) (by omega) (toNat_ofNat (by omega))⟩

end Encoding

/-- Decoding takes one encoded character at a time. -/
theorem decodeFrom_encodeChar (character : Char) (rest : List UInt8)
    : decodeFrom .ground (String.utf8EncodeChar character ++ rest)
      = character :: decodeFrom .ground rest := by
  by_cases large : 0x80 ≤ character.toNat
  · obtain ⟨first, count, encoded, value, low, high, leading, awaits⟩ :=
      encodeChar_leading large
    rw [encoded, List.cons_append, decodeFrom, decodeNext, leading]
    simp only [List.nil_append]
    rw [decodeFrom_continuation awaits, Char.ofNat_toNat]
  · have small : character.toNat ≤ 0x7F := Nat.le_of_lt_succ (Nat.lt_of_not_le large)
    have byte : (UInt8.ofNat character.toNat).toNat = character.toNat :=
      toNat_ofNat (Nat.lt_of_le_of_lt small (by decide))
    have ascii : UInt8.ofNat character.toNat < 0x80 := by
      rw [UInt8.lt_iff_toNat_lt, byte]
      exact Nat.lt_of_not_le large
    rw [encodeChar_single small, List.singleton_append, decodeFrom, decodeNext,
      decodeFirst_single ascii, byte, Char.ofNat_toNat]
    rfl

theorem utf8Bytes_eq_flatMap (text : String)
    : utf8Bytes text = text.toList.flatMap String.utf8EncodeChar := by
  rw [utf8Bytes, String.toUTF8_eq_toByteArray, ← String.utf8Encode_toList, List.utf8Encode,
    List.toList_data_toByteArray]

/-- Decoding the encoding of a text gives back the text, by induction on its characters. -/
theorem decodeLossy_utf8Bytes (text : String) : decodeLossy (utf8Bytes text) = text := by
  have decoded (characters : List Char)
      : decodeFrom .ground (characters.flatMap String.utf8EncodeChar) = characters := by
    induction characters with
    | nil => rfl
    | cons first rest ih => rw [List.flatMap_cons, decodeFrom_encodeChar, ih]
  rw [decodeLossy, utf8Bytes_eq_flatMap, decoded, String.ofList_toList]

end Inertial.Text
