import Inertial.Proofs.Text.Prefixes
import Inertial.Text.Quoted
import Mathlib.Data.Set.Operations

/-! Quoted text has a single reading, whatever text stands behind it. -/

namespace Inertial.Text

-----------------------------------------------------------------------------------------
-- Digits
-----------------------------------------------------------------------------------------

/-- A hexadecimal digit as a number, letters being those after nine. -/
def hexValue (digit : Char) : Nat :=
  if digit.isDigit then digit.toNat - '0'.toNat else 10 + digit.toNat - 'a'.toNat

theorem hexValue_digitChar {value : Nat} (small : value < 16)
    : hexValue value.digitChar = value := by
  have all : ∀ value : Fin 16, hexValue value.val.digitChar = value.val := by decide
  exact all ⟨value, small⟩

/-- Hexadecimal digits read back to the number, by induction on the number without its last digit.
-/
theorem foldl_hexValue_toDigits (number : Nat)
    : (Nat.toDigits 16 number).foldl (fun value digit => value * 16 + hexValue digit) 0
      = number := by
  induction number using Nat.strongRecOn with
  | ind number ih =>
      by_cases small : number < 16
      · simp [Nat.toDigits_of_lt_base small, hexValue_digitChar small]
      · have last : number % 16 < 16 := Nat.mod_lt number (by decide)
        rw [Nat.toDigits_of_base_le (by decide) (by omega), List.foldl_append,
          ih (number / 16) (by omega), List.foldl_cons, List.foldl_nil, hexValue_digitChar last]
        omega

theorem toDigits_injective {left right : Nat}
    (same : Nat.toDigits 16 left = Nat.toDigits 16 right)
    : left = right := by
  rw [← foldl_hexValue_toDigits left, same, foldl_hexValue_toDigits]

theorem mem_toDigits {number : Nat} {digit : Char} (member : digit ∈ Nat.toDigits 16 number)
    : ∃ value : Fin 16, digit = value.val.digitChar := by
  induction number using Nat.strongRecOn with
  | ind number ih =>
      by_cases small : number < 16
      · rw [Nat.toDigits_of_lt_base small] at member
        exact ⟨⟨number, small⟩, List.mem_singleton.mp member⟩
      · rw [Nat.toDigits_of_base_le (by decide) (by omega)] at member
        rcases List.mem_append.mp member with front | last
        · exact ih (number / 16) (by omega) front
        · exact ⟨⟨number % 16, Nat.mod_lt number (by decide)⟩, List.mem_singleton.mp last⟩

/-- No brace is a digit. -/
theorem toDigits_ne_brace (number : Nat)
    : ∀ digit ∈ Nat.toDigits 16 number, (digit != '\x7d') = true := by
  intro digit member
  have all : ∀ value : Fin 16, (value.val.digitChar != '\x7d') = true := by decide
  obtain ⟨value, rfl⟩ := mem_toDigits member
  exact all value

-----------------------------------------------------------------------------------------
-- Escapes
-----------------------------------------------------------------------------------------

/-- What the character behind a backslash stands for. -/
def mnemonic? : Char → Option Char
  | '0' => some '\x00'
  | 't' => some '\t'
  | 'n' => some '\n'
  | 'r' => some '\r'
  | '"' => some '"'
  | '\\' => some '\\'
  | _ => none

/-- The three ways in which a character is written. -/
inductive Writes : Char → List Char → Prop where
  | plain {character : Char}
      : character ≠ '"' → character ≠ '\\' → Writes character [character]
  | mnemonic {character letter : Char}
      : mnemonic? letter = some character → Writes character ['\\', letter]
  | codePoint {character : Char} : Writes character (codePointEscape character)

theorem writes_escaped (character : Char) : Writes character (escaped character) := by
  unfold escaped
  split
  case h_7 =>
    split
    · exact .codePoint
    · exact .plain (by assumption) (by assumption)
  all_goals exact .mnemonic rfl

/-- A backslash starts every escape, and the letter `u` only those by code point. -/
theorem Writes.unique {character other : Char} {text otherText rest otherRest : List Char}
    (writes : Writes character text) (others : Writes other otherText)
    (same : text ++ rest = otherText ++ otherRest)
    : character = other := by
  cases writes with
  | plain _ apart =>
      cases others with
      | plain _ _ => exact (List.cons.inj same).1
      | _ => exact absurd (List.cons.inj same).1 apart
  | mnemonic means =>
      cases others with
      | plain _ apart => exact absurd (List.cons.inj same).1.symm apart
      | mnemonic otherMeans =>
          rw [(List.cons.inj (List.cons.inj same).2).1, otherMeans] at means
          exact (Option.some.inj means).symm
      | codePoint =>
          rw [(List.cons.inj (List.cons.inj same).2).1] at means
          cases means
  | codePoint =>
      cases others with
      | plain _ apart => exact absurd (List.cons.inj same).1.symm apart
      | mnemonic means =>
          rw [← (List.cons.inj (List.cons.inj same).2).1] at means
          cases means
      | codePoint =>
          simp only [codePointEscape, List.append_assoc, List.append_cancel_left_eq] at same
          obtain ⟨digits, _⟩ :=
            split_unique (toDigits_ne_brace _) (stops_cons.mpr rfl) (toDigits_ne_brace _)
              (stops_cons.mpr rfl) same
          exact Char.toNat_inj.mp (toDigits_injective digits)

theorem Writes.ne_quote {character : Char} {text rest otherRest : List Char}
    (writes : Writes character text)
    : text ++ rest ≠ '"' :: otherRest := by
  intro same
  cases writes with
  | plain apart _ => exact apart (List.cons.inj same).1
  | _ => cases (List.cons.inj same).1

theorem escaped_unique {character other : Char} {rest otherRest : List Char}
    (same : escaped character ++ rest = escaped other ++ otherRest)
    : character = other :=
  (writes_escaped character).unique (writes_escaped other) same

theorem escaped_ne_quote (character : Char) (rest otherRest : List Char)
    : escaped character ++ rest ≠ '"' :: otherRest :=
  (writes_escaped character).ne_quote

/-- The characters as they stand between the quotation marks, one by one. -/
theorem quoted_append (text : String) (rest : List Char)
    : quoted text ++ rest = '"' :: ((text.toList.map escaped).flatten ++ '"' :: rest) := by
  simp [quoted, List.flatMap_def]

/-- The first quotation mark that is no part of an escape ends the text. -/
theorem quoted_unique {text other : String} {rest otherRest : List Char}
    (same : quoted text ++ rest = quoted other ++ otherRest)
    : text = other ∧ rest = otherRest := by
  have areEscapes (characters : List Char)
      : ∀ unit ∈ characters.map escaped, unit ∈ Set.range escaped := by
    simp
  rw [quoted_append, quoted_append] at same
  obtain ⟨escapes, rests⟩ :=
    flatten_unique (by rintro _ _ _ _ ⟨_, rfl⟩ ⟨_, rfl⟩ same; rw [escaped_unique same])
      (by rintro _ _ _ ⟨_, rfl⟩; exact escaped_ne_quote _ _ _)
      (areEscapes _) (areEscapes _) (List.cons.inj same).2
  have characters :=
    (List.map_inj_right fun _ _ same => escaped_unique (congrArg (· ++ []) same)).mp escapes
  exact ⟨String.toList_inj.mp characters, rests⟩

end Inertial.Text
