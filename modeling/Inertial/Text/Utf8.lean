/-!
Text as UTF-8 bytes, and bytes as text. Bytes need not be well formed: each maximal ill-formed
stretch, the longest start of a possible encoding or else a single byte, decodes to one replacement
character.
-/

namespace Inertial.Text

def utf8Bytes (text : String) : List UInt8 := text.toUTF8.data.toList

/-- The character that stands for bytes that are not text. -/
def replacement : Char := '\uFFFD'

/-- What is known of the character under way: nothing, or the bits read so far, how many bytes
are still to come, and the bounds of the next one. The bounds after the first byte shut out
overlong encodings, surrogates and code points that are too large.
-/
inductive DecoderState where
  | ground
  | within (value : Nat) (remaining : Nat) (low high : UInt8)
deriving DecidableEq

/-- The first byte of a character, with the characters that it completes. -/
def decodeFirst (byte : UInt8) : List Char × DecoderState :=
  let bits (mask : UInt8) : Nat := (byte &&& mask).toNat
  if byte < 0x80 then ([Char.ofNat byte.toNat], .ground)
  else if byte < 0xC2 then ([replacement], .ground)
  else if byte < 0xE0 then ([], .within (bits 0x1F) 1 0x80 0xBF)
  else if byte = 0xE0 then ([], .within (bits 0x0F) 2 0xA0 0xBF)
  else if byte = 0xED then ([], .within (bits 0x0F) 2 0x80 0x9F)
  else if byte < 0xF0 then ([], .within (bits 0x0F) 2 0x80 0xBF)
  else if byte = 0xF0 then ([], .within (bits 0x07) 3 0x90 0xBF)
  else if byte < 0xF4 then ([], .within (bits 0x07) 3 0x80 0xBF)
  else if byte = 0xF4 then ([], .within (bits 0x07) 3 0x80 0x8F)
  else ([replacement], .ground)

/-- One more byte. A byte that cannot continue the character under way ends it as ill formed, and
starts over.
-/
def decodeNext : DecoderState → UInt8 → List Char × DecoderState
  | .ground, byte => decodeFirst byte
  | .within value remaining low high, byte =>
      if low ≤ byte ∧ byte ≤ high then
        let extended := value * 64 + (byte &&& 0x3F).toNat
        if remaining ≤ 1 then
          ([Char.ofNat extended], .ground)
        else
          ([], .within extended (remaining - 1) 0x80 0xBF)
      else
        let (characters, state) := decodeFirst byte
        (replacement :: characters, state)

/-- A character that the bytes end within is ill formed. -/
def decodeEnd : DecoderState → List Char
  | .ground => []
  | .within .. => [replacement]

def decodeFrom (state : DecoderState) : List UInt8 → List Char
  | [] => decodeEnd state
  | byte :: rest =>
      let (characters, next) := decodeNext state byte
      characters ++ decodeFrom next rest

/-- Bytes as text, with replacement characters for whatever is not well formed. -/
def decodeLossy (bytes : List UInt8) : String := String.ofList (decodeFrom .ground bytes)

/-- Bytes as text, if they are well formed. -/
def decode? (bytes : List UInt8) : Option String := String.fromUTF8? ⟨bytes.toArray⟩

/-- The bytes before the first zero byte. -/
def untilZero (bytes : List UInt8) : List UInt8 := bytes.takeWhile (· != 0)

def zeroTerminated (text : String) : List UInt8 := utf8Bytes text ++ [0]

end Inertial.Text
