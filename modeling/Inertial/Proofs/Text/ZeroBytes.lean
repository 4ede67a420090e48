import Inertial.Proofs.Text.SoundStates

/-! Bytes that are not zero decode to characters that are not zero, and the other way round. So text
without a zero character keeps its end when it is passed with a zero byte after it.
-/

namespace Inertial.Text

/-- The text has no zero character. -/
def ZeroFree (text : String) : Prop := '\x00' ∉ text.toList

instance (text : String) : Decidable (ZeroFree text) :=
  inferInstanceAs (Decidable ('\x00' ∉ text.toList))

theorem ZeroFree.append {left right : String} (first : ZeroFree left) (second : ZeroFree right)
    : ZeroFree (left ++ right) := by
  rw [ZeroFree, String.toList_append, List.mem_append, not_or]
  exact ⟨first, second⟩

theorem ofNat_ne_zero {point : Nat} (positive : 0 < point) (valid : point.isValidChar)
    : Char.ofNat point ≠ '\x00' := by
  intro zero
  have same : (Char.ofNat point).toNat = 0 := congrArg Char.toNat zero
  rw [toNat_charOfNat valid] at same
  omega

/-- A byte that is not zero completes no zero character. -/
theorem decodeFirst_zero {byte : UInt8} (nonzero : byte ≠ 0) : '\x00' ∉ (decodeFirst byte).1 := by
  have positive : 0 < byte.toNat := by
    rw [Nat.pos_iff_ne_zero]
    intro zero
    exact nonzero (UInt8.toNat_inj.mp zero)
  rcases byte_ranges byte with ascii | invalid | ⟨low, high⟩ | ⟨low, high⟩ | ⟨low, high⟩
  · have small : byte.toNat < 0x80 := ascii
    have valid : byte.toNat.isValidChar := Or.inl (by omega)
    rw [decodeFirst_single ascii, List.mem_singleton]
    exact Ne.symm (ofNat_ne_zero positive valid)
  · rw [decodeFirst_none invalid]
    decide
  · rw [decodeFirst_pair low high]
    exact List.not_mem_nil
  · rw [decodeFirst_triple low high]
    exact List.not_mem_nil
  · rw [decodeFirst_quadruple low high]
    exact List.not_mem_nil

theorem decodeNext_zero {state : DecoderState} (sound : state.Sound) {byte : UInt8}
    (nonzero : byte ≠ 0)
    : '\x00' ∉ (decodeNext state byte).1 := by
  cases state with
  | ground => exact decodeFirst_zero nonzero
  | within value remaining low high =>
      obtain ⟨positive, least, most, characters⟩ := sound
      simp only [decodeNext]
      split
      · next accepted =>
          split
          · next last =>
              obtain rfl : remaining = 0 + 1 := by omega
              let point := value * 64 + (byte &&& 0x3F).toNat
              have awaited := characters point
                (awaits_of_accepted least most accepted rfl)
              rw [List.mem_singleton]
              exact Ne.symm (ofNat_ne_zero (by omega) awaited.2)
          · exact List.not_mem_nil
      · simp only [List.mem_cons, not_or]
        exact ⟨by decide, decodeFirst_zero nonzero⟩

/-- Bytes that are not zero decode to characters that are not zero, by induction on the bytes. -/
theorem decodeFrom_zero {state : DecoderState} (sound : state.Sound) {bytes : List UInt8}
    (nonzero : 0 ∉ bytes)
    : '\x00' ∉ decodeFrom state bytes := by
  induction bytes generalizing state with
  | nil => cases state <;> simp [decodeFrom, decodeEnd, replacement]
  | cons byte rest ih =>
      simp only [List.mem_cons, not_or] at nonzero
      rw [decodeFrom]
      simp only [List.mem_append, not_or]
      exact ⟨decodeNext_zero sound (Ne.symm nonzero.1), ih (decodeNext_sound sound byte) nonzero.2⟩

theorem decodeLossy_zeroFree {bytes : List UInt8} (nonzero : 0 ∉ bytes)
    : ZeroFree (decodeLossy bytes) := by
  have start : DecoderState.ground.Sound := trivial
  rw [ZeroFree, decodeLossy, String.toList_ofList]
  exact decodeFrom_zero start nonzero

theorem zero_not_mem_untilZero (bytes : List UInt8) : 0 ∉ untilZero bytes := by
  intro member
  have nonzero := List.all_eq_true.mp List.all_takeWhile 0 member
  exact absurd nonzero (by decide)

theorem zero_not_mem_continuation (point count : Nat) : 0 ∉ continuation point count := by
  induction count with
  | zero => nofun
  | succ count ih =>
      simp only [continuation, List.mem_cons, not_or]
      refine ⟨?_, ih⟩
      intro zero
      have byte : (UInt8.ofNat (leadingBits point count % 64 + 0x80)).toNat
          = leadingBits point count % 64 + 0x80 :=
        toNat_ofNat (by omega)
      rw [← zero] at byte
      exact absurd byte (Nat.ne_of_lt (Nat.succ_pos _))

/-- No longer encoding starts with a zero byte, because that byte is a character of its own. -/
theorem encodeChar_zero {character : Char} (nonzero : character ≠ '\x00')
    : 0 ∉ String.utf8EncodeChar character := by
  by_cases large : 0x80 ≤ character.toNat
  · obtain ⟨first, count, encoded, value, low, high, leading, _⟩ :=
      encodeChar_leading large
    rw [encoded]
    simp only [List.mem_cons, not_or]
    refine ⟨?_, zero_not_mem_continuation _ _⟩
    rintro rfl
    cases leading
  · have small : character.toNat ≤ 0x7F := Nat.le_of_lt_succ (Nat.lt_of_not_le large)
    have byte : (UInt8.ofNat character.toNat).toNat = character.toNat :=
      toNat_ofNat (Nat.lt_of_le_of_lt small (by decide))
    rw [encodeChar_single small, List.mem_singleton]
    intro zero
    rw [← zero] at byte
    exact nonzero (Char.toNat_inj.mp byte.symm)

theorem ZeroFree.zero_not_mem {text : String} (zeroFree : ZeroFree text) : 0 ∉ utf8Bytes text := by
  rw [utf8Bytes_eq_flatMap]
  intro member
  obtain ⟨character, found, zero⟩ := List.mem_flatMap.mp member
  refine encodeChar_zero ?_ zero
  rintro rfl
  exact zeroFree found

theorem untilZero_append {bytes : List UInt8} (nonzero : 0 ∉ bytes) (rest : List UInt8)
    : untilZero (bytes ++ rest) = bytes ++ untilZero rest := by
  apply List.takeWhile_append_of_pos
  intro byte member
  rw [bne_iff_ne]
  rintro rfl
  exact nonzero member

theorem untilZero_of_not_mem {bytes : List UInt8} (nonzero : 0 ∉ bytes)
    : untilZero bytes = bytes := by
  rw [← List.append_nil bytes, untilZero_append nonzero]
  rfl

theorem ZeroFree.untilZero_zeroTerminated {text : String} (zeroFree : ZeroFree text)
    : untilZero (zeroTerminated text) = utf8Bytes text := by
  rw [zeroTerminated, untilZero_append zeroFree.zero_not_mem]
  exact List.append_nil _

end Inertial.Text
