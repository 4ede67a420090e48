import Inertial.Proofs.Text.SoundStates

/-! Decoding loses nothing unless it says so. Bytes that decode to a text without replacement
characters are the encoding of that text, so different bytes decode to the same text only if the
text has a replacement character.
-/

namespace Inertial.Text

/-- These bytes were read of the character under way, and those to come complete its encoding. -/
def DecoderState.HasRead (read : List UInt8) : DecoderState → Prop
  | ground => read = []
  | within value remaining low high =>
      ∀ point,
        (within value remaining low high).Awaits point
        → String.utf8EncodeChar (Char.ofNat point) = read ++ continuation point remaining

/-- A byte is that of a number below 256 when it is that number. -/
theorem ofNat_eq {number : Nat} {byte : UInt8} (same : number = byte.toNat)
    : UInt8.ofNat number = byte := by
  rw [same, UInt8.ofNat_toNat]

theorem hasRead_pair {byte : UInt8} (low : 0xC2 ≤ byte) (high : byte < 0xE0)
    : (decodeFirst byte).2.HasRead [byte] := by
  have least : 0xC2 ≤ byte.toNat := low
  have most : byte.toNat < 0xE0 := high
  have sound := sound_pair low high
  rw [decodeFirst_pair low high] at sound ⊢
  obtain ⟨_, _, _, characters⟩ := sound
  intro point awaits
  have scalar := toNat_charOfNat (characters point awaits).2
  have read : point / 64 = byte.toNat % 32 := awaits.1
  have leading : point / 64 + 0xC0 = byte.toNat := by
    omega
  rw [encodeChar_pair (by omega) (by omega), scalar, ofNat_eq leading]
  rfl

theorem hasRead_triple {byte : UInt8} (low : 0xE0 ≤ byte) (high : byte < 0xF0)
    : (decodeFirst byte).2.HasRead [byte] := by
  have least : 0xE0 ≤ byte.toNat := low
  have most : byte.toNat < 0xF0 := high
  have sound := sound_triple low high
  rw [decodeFirst_triple low high] at sound ⊢
  obtain ⟨_, _, _, characters⟩ := sound
  intro point awaits
  have scalar := toNat_charOfNat (characters point awaits).2
  obtain ⟨starts, above, _⟩ := awaits
  have read : point / 64 / 64 = byte.toNat % 16 := starts
  -- What two bytes encode is not encoded by three.
  have smallest : byte.toNat = 0xE0 → 0xA0 ≤ point / 64 % 64 + 0x80 := by
    intro same
    rwa [if_pos (UInt8.toNat_inj.mp same)] at above
  have leading : point / 4096 + 0xE0 = byte.toNat := by
    omega
  rw [encodeChar_triple (by omega) (by omega), scalar, ofNat_eq leading]
  rfl

theorem hasRead_quadruple {byte : UInt8} (low : 0xF0 ≤ byte) (high : byte ≤ 0xF4)
    : (decodeFirst byte).2.HasRead [byte] := by
  have least : 0xF0 ≤ byte.toNat := low
  have most : byte.toNat ≤ 0xF4 := high
  have sound := sound_quadruple low high
  rw [decodeFirst_quadruple low high] at sound ⊢
  obtain ⟨_, _, _, characters⟩ := sound
  intro point awaits
  have scalar := toNat_charOfNat (characters point awaits).2
  obtain ⟨starts, above, _⟩ := awaits
  have read : point / 64 / 64 / 64 = byte.toNat % 8 := starts
  -- What three bytes encode is not encoded by four.
  have smallest : byte.toNat = 0xF0 → 0x90 ≤ point / 64 / 64 % 64 + 0x80 := by
    intro same
    rwa [if_pos (UInt8.toNat_inj.mp same)] at above
  have leading : point / 262144 + 0xF0 = byte.toNat := by
    omega
  rw [encodeChar_quadruple (by omega), scalar, ofNat_eq leading]
  rfl

/-- Either the first byte completes the character that it encodes, or it was read of one. -/
theorem decodeFirst_faithful {byte : UInt8} (clean : replacement ∉ (decodeFirst byte).1)
    : ∃ read,
        (decodeFirst byte).2.HasRead read
        ∧ (decodeFirst byte).1.flatMap String.utf8EncodeChar ++ read = [byte] := by
  rcases byte_ranges byte with ascii | invalid | ⟨low, high⟩ | ⟨low, high⟩ | ⟨low, high⟩
  · have small : byte.toNat < 0x80 := ascii
    have scalar : (Char.ofNat byte.toNat).toNat = byte.toNat :=
      toNat_charOfNat (Or.inl (by omega))
    refine ⟨[], ?_, ?_⟩
    · rw [decodeFirst_single ascii]
      rfl
    · rw [decodeFirst_single ascii, List.flatMap_singleton, List.append_nil,
        encodeChar_single (by omega), scalar, UInt8.ofNat_toNat]
  · rw [decodeFirst_none invalid] at clean
    exact absurd (List.mem_singleton.mpr rfl) clean
  · refine ⟨[byte], hasRead_pair low high, ?_⟩
    rw [decodeFirst_pair low high]
    rfl
  · refine ⟨[byte], hasRead_triple low high, ?_⟩
    rw [decodeFirst_triple low high]
    rfl
  · refine ⟨[byte], hasRead_quadruple low high, ?_⟩
    rw [decodeFirst_quadruple low high]
    rfl

/-- An accepted byte is the next one of every code point that goes on with its bits. -/
theorem continuation_accepted {value count point : Nat} {low high byte : UInt8}
    (least : 0x80 ≤ low) (most : high ≤ 0xBF) (accepted : low ≤ byte ∧ byte ≤ high)
    (starts : leadingBits point count = value * 64 + (byte &&& 0x3F).toNat)
    : continuation point (count + 1) = byte :: continuation point count := by
  have bits : (byte &&& 0x3F).toNat = byte.toNat % 64 := toNat_and_ones byte 0x3F 64 6 rfl rfl
  have above : 0x80 ≤ byte.toNat := UInt8.le_trans least accepted.1
  have below : byte.toNat ≤ 0xBF := UInt8.le_trans accepted.2 most
  have next : leadingBits point count % 64 + 0x80 = byte.toNat := by
    omega
  rw [continuation, ofNat_eq next]

/-- One more byte is added to what was read, or completes the character that it all encodes. -/
theorem decodeNext_faithful {state : DecoderState} (sound : state.Sound) {before : List UInt8}
    (hasRead : state.HasRead before) {byte : UInt8}
    (clean : replacement ∉ (decodeNext state byte).1)
    : ∃ read,
        (decodeNext state byte).2.HasRead read
        ∧ (decodeNext state byte).1.flatMap String.utf8EncodeChar ++ read = before ++ [byte] := by
  cases state with
  | ground =>
      obtain rfl : before = [] := hasRead
      exact decodeFirst_faithful clean
  | within value remaining low high =>
      obtain ⟨positive, least, most, characters⟩ := sound
      obtain ⟨count, rfl⟩ : ∃ count, remaining = count + 1 := ⟨remaining - 1, by omega⟩
      simp only [decodeNext] at clean ⊢
      split at clean
      · next accepted =>
          rw [if_pos accepted]
          let extended := value * 64 + (byte &&& 0x3F).toNat
          have encoded (point : Nat) (starts : leadingBits point count = extended)
              : String.utf8EncodeChar (Char.ofNat point)
                = before ++ byte :: continuation point count := by
            rw [hasRead point (awaits_of_accepted least most accepted starts),
              continuation_accepted least most accepted starts]
          split
          · next last =>
              obtain rfl : count = 0 := by omega
              refine ⟨[], rfl, ?_⟩
              rw [List.flatMap_singleton, List.append_nil]
              exact encoded extended rfl
          · refine ⟨before ++ [byte], ?_, rfl⟩
            intro point awaits
            rw [encoded point awaits.1, List.append_assoc]
            rfl
      · exact absurd (List.mem_cons_self ..) clean

/-- What is decoded without replacement characters encodes the bytes, by induction on the bytes. -/
theorem decodeFrom_faithful {state : DecoderState} (sound : state.Sound) {before : List UInt8}
    (hasRead : state.HasRead before) {bytes : List UInt8}
    (clean : replacement ∉ decodeFrom state bytes)
    : (decodeFrom state bytes).flatMap String.utf8EncodeChar = before ++ bytes := by
  induction bytes generalizing state before with
  | nil =>
      cases state with
      | ground =>
          obtain rfl : before = [] := hasRead
          rfl
      | within => exact absurd (List.mem_singleton.mpr rfl) clean
  | cons byte rest ih =>
      simp only [decodeFrom, List.mem_append, not_or] at clean ⊢
      obtain ⟨read, next, encoded⟩ := decodeNext_faithful sound hasRead clean.1
      rw [List.flatMap_append, ih (decodeNext_sound sound byte) next clean.2,
        ← List.append_assoc, encoded, List.append_assoc]
      rfl

/-- The text has no replacement character. -/
def Unreplaced (text : String) : Prop := replacement ∉ text.toList

instance (text : String) : Decidable (Unreplaced text) :=
  inferInstanceAs (Decidable (replacement ∉ text.toList))

/-- Bytes that decode to a text without replacement characters are the encoding of the text. -/
theorem utf8Bytes_decodeLossy {bytes : List UInt8} (unreplaced : Unreplaced (decodeLossy bytes))
    : utf8Bytes (decodeLossy bytes) = bytes := by
  have start : DecoderState.ground.Sound := trivial
  rw [Unreplaced, decodeLossy, String.toList_ofList] at unreplaced
  rw [utf8Bytes_eq_flatMap, decodeLossy, String.toList_ofList]
  exact decodeFrom_faithful start rfl unreplaced

/-- Different bytes with the same text have a replacement character in it. -/
theorem eq_of_decodeLossy_eq {left right : List UInt8}
    (same : decodeLossy left = decodeLossy right) (unreplaced : Unreplaced (decodeLossy left))
    : left = right := by
  rw [← utf8Bytes_decodeLossy unreplaced, same, utf8Bytes_decodeLossy (same ▸ unreplaced)]

/-- Only encodings of texts are well formed. -/
theorem eq_utf8Bytes_of_decode? {bytes : List UInt8} {text : String}
    (decoded : decode? bytes = some text)
    : bytes = utf8Bytes text := by
  unfold decode? String.fromUTF8? at decoded
  split at decoded
  · next valid =>
      cases decoded
      rfl
  · cases decoded

theorem decode?_utf8Bytes (text : String) : decode? (utf8Bytes text) = some text := by
  have whole : (⟨(utf8Bytes text).toArray⟩ : ByteArray) = text.toUTF8 := rfl
  rw [decode?, whole]
  exact dif_pos text.isValidUTF8

/-- The encodings of texts are well formed, and nothing else is. -/
theorem decode?_eq_some_iff {bytes : List UInt8} {text : String}
    : decode? bytes = some text ↔ bytes = utf8Bytes text := by
  constructor
  · exact eq_utf8Bytes_of_decode?
  · rintro rfl
    exact decode?_utf8Bytes text

theorem decodeLossy_of_decode? {bytes : List UInt8} {text : String}
    (decoded : decode? bytes = some text)
    : decodeLossy bytes = text := by
  rw [eq_utf8Bytes_of_decode? decoded, decodeLossy_utf8Bytes]

/-- Well-formed bytes whose text has no replacement character. -/
def Plain (bytes : List UInt8) : Prop :=
  ∃ text, decode? bytes = some text ∧ Unreplaced text

theorem Plain.unreplaced {bytes : List UInt8} (plain : Plain bytes)
    : Unreplaced (decodeLossy bytes) := by
  obtain ⟨text, decoded, unreplaced⟩ := plain
  rwa [decodeLossy_of_decode? decoded]

/-- No other bytes, well formed or not, have the text of plain ones. -/
theorem Plain.decodeLossy_eq_iff {left right : List UInt8} (plain : Plain left ∨ Plain right)
    : decodeLossy left = decodeLossy right ↔ left = right := by
  constructor
  · intro same
    rcases plain with plain | plain
    · exact eq_of_decodeLossy_eq same plain.unreplaced
    · exact (eq_of_decodeLossy_eq same.symm plain.unreplaced).symm
  · exact congrArg decodeLossy

end Inertial.Text
