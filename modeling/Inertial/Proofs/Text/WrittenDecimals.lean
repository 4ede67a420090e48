import Inertial.Decimal
import Mathlib.Algebra.Field.Rat
import Mathlib.Data.List.TakeWhile
import Mathlib.Tactic.FieldSimp
import Mathlib.Tactic.Linarith
import Mathlib.Tactic.Ring

/-! Decimals as they are written, and the exact numbers that they read back to. -/

namespace Inertial.Decimal

/-- One zero, or digits that start with another one. -/
structure IsWhole (digits : List Char) : Prop where
  isDigit : ∀ digit ∈ digits, digit.isDigit = true
  nonempty : digits ≠ []
  leading : digits.head? = some '0' → digits = ['0']

/-- Digits without superfluous zeros in front, a point, and this many digits behind it. -/
def IsPointed (places : ℕ) (text : List Char) : Prop :=
  ∃ whole fraction,
    text = whole ++ '.' :: fraction
    ∧ IsWhole whole
    ∧ fraction.length = places
    ∧ ∀ digit ∈ fraction, digit.isDigit = true

/-- The number that a decimal stands for. -/
def value (decimal : Decimal) : ℚ := decimal.coefficient * 10 ^ decimal.exponent

theorem zpow_toNat (exponent : ℤ)
    : (10 : ℚ) ^ exponent = 10 ^ exponent.toNat / 10 ^ (-exponent).toNat := by
  obtain ⟨power, rfl | rfl⟩ := exponent.eq_nat_or_neg
  · simp
  · simp

/-- The integer that digits stand for, perhaps with a minus sign in front of them. -/
def readInteger : List Char → ℤ
  | '-' :: digits => -Nat.ofDigitChars 10 digits 0
  | digits => Nat.ofDigitChars 10 digits 0

/-- The number that digits with a point stand for: all digits read as one integer, in units of the
last place. Without a point the last place is that of the ones.
-/
def readSignificand (text : List Char) : ℚ :=
  let whole := text.takeWhile (· != '.')
  let fraction := (text.dropWhile (· != '.')).tail
  Nat.ofDigitChars 10 (whole ++ fraction) 0 / 10 ^ fraction.length

/-- A significand, and the power of ten behind the letter `e` if there is one. -/
def readMagnitude (text : List Char) : ℚ :=
  let exponent := (text.dropWhile (· != 'e')).tail
  readSignificand (text.takeWhile (· != 'e')) * 10 ^ readInteger exponent

/-- The number that a text stands for. A minus sign in front negates. -/
def readBack : List Char → ℚ
  | '-' :: digits => -readMagnitude digits
  | digits => readMagnitude digits

theorem isDigit_of_mem_toDigits {count : ℕ} {digit : Char}
    (member : digit ∈ Nat.toDigits 10 count)
    : digit.isDigit = true :=
  Nat.isDigit_of_mem_toDigits (by decide) (by decide) member

/-- The digits of a number start with a zero only when there is no other, by induction on the
number without its last digit.
-/
theorem isWhole_toDigits (count : ℕ) : IsWhole (Nat.toDigits 10 count) := by
  refine ⟨fun digit member => isDigit_of_mem_toDigits member, Nat.toDigits_ne_nil, ?_⟩
  induction count using Nat.strongRecOn with
  | ind count ih =>
      intro leading
      by_cases small : count < 10
      · rw [Nat.toDigits_of_lt_base small] at leading ⊢
        exact congrArg (fun digit => [digit]) (Option.some.inj leading)
      · have large : 10 ≤ count := Nat.le_of_not_lt small
        rw [Nat.toDigits_of_base_le (by decide) large,
          List.head?_append_of_ne_nil _ Nat.toDigits_ne_nil] at leading
        have front := ih (count / 10) (by omega) leading
        have zero := congrArg (Nat.ofDigitChars 10 · 0) front
        simp only [Nat.ofDigitChars_ten_toDigits] at zero
        have none : count / 10 = 0 := zero.trans (by decide)
        omega

theorem digitCount_le {count width : ℕ} (positive : 0 < width) (small : count < 10 ^ width)
    : digitCount count ≤ width :=
  (Nat.length_toDigits_le_iff (by decide) positive).mpr small

theorem length_padded {count width : ℕ} (positive : 0 < width) (small : count < 10 ^ width)
    : (padded width count).length = width := by
  have fits := digitCount_le positive small
  rw [padded, List.length_append, List.length_replicate]
  exact Nat.sub_add_cancel fits

theorem isDigit_of_mem_padded {width count : ℕ} {digit : Char}
    (member : digit ∈ padded width count)
    : digit.isDigit = true := by
  rcases List.mem_append.mp member with zero | digit
  · rw [List.eq_of_mem_replicate zero]
    decide
  · exact isDigit_of_mem_toDigits digit

theorem ofDigitChars_padded (width count : ℕ)
    : Nat.ofDigitChars 10 (padded width count) 0 = count := by
  rw [padded, Nat.ofDigitChars_append, Nat.ofDigitChars_replicate_zero, Nat.mul_zero,
    Nat.ofDigitChars_ten_toDigits]

theorem mod_pow_lt (coefficient places : ℕ) : coefficient % Nat.pow 10 places < 10 ^ places := by
  rw [Nat.pow_eq]
  exact Nat.mod_lt _ (Nat.pow_pos (by decide))

theorem isPointed_pointed {places : ℕ} (positive : 0 < places) (coefficient : ℕ)
    : IsPointed places (pointed places coefficient) :=
  ⟨_, _, rfl, isWhole_toDigits _, length_padded positive (mod_pow_lt coefficient places),
    fun _ member => isDigit_of_mem_padded member⟩

/-- Neither a point nor a letter is a digit. -/
theorem bne_of_isDigit {mark : Char} (other : mark.isDigit = false) {digits : List Char}
    (isDigit : ∀ digit ∈ digits, digit.isDigit = true)
    : ∀ digit ∈ digits, (digit != mark) = true := by
  intro digit member
  rw [bne_iff_ne]
  rintro rfl
  rw [isDigit digit member] at other
  cases other

theorem IsPointed.bne_exponentMark {places : ℕ} {text : List Char}
    (isPointed : IsPointed places text)
    : ∀ character ∈ text, (character != 'e') = true := by
  obtain ⟨whole, fraction, rfl, isWhole, _, isDigit⟩ := isPointed
  intro character member
  rcases List.mem_append.mp member with digit | rest
  · exact bne_of_isDigit rfl isWhole.isDigit character digit
  · rcases List.mem_cons.mp rest with rfl | digit
    · decide
    · exact bne_of_isDigit rfl isDigit character digit

/-- Reading finds the point again, because no digit is one. -/
theorem readSignificand_pointed {places : ℕ} (positive : 0 < places) (coefficient : ℕ)
    : readSignificand (pointed places coefficient) = coefficient / 10 ^ places := by
  have split
      : ∀ digit ∈ Nat.toDigits 10 (coefficient / Nat.pow 10 places), (digit != '.') = true :=
    bne_of_isDigit rfl (isWhole_toDigits _).isDigit
  have length := length_padded positive (mod_pow_lt coefficient places)
  rw [readSignificand, pointed, List.takeWhile_append_of_pos split,
    List.dropWhile_append_of_pos split]
  simp only [bne_self_eq_false, Bool.false_eq_true, not_false_eq_true, List.takeWhile_cons_of_neg,
    List.dropWhile_cons_of_neg, List.append_nil, List.tail_cons, length]
  rw [Nat.ofDigitChars_append, Nat.ofDigitChars_eq_ofDigitChars_zero, length, ofDigitChars_padded,
    Nat.ofDigitChars_ten_toDigits, Nat.pow_eq, Nat.div_add_mod]

theorem readMagnitude_pointed {places : ℕ} (positive : 0 < places) (coefficient : ℕ)
    : readMagnitude (pointed places coefficient) = coefficient / 10 ^ places := by
  have plain := (isPointed_pointed positive coefficient).bne_exponentMark
  have whole : (pointed places coefficient).takeWhile (· != 'e') = pointed places coefficient :=
    List.takeWhile_eq_self_iff.mpr plain
  have none : (pointed places coefficient).dropWhile (· != 'e') = [] :=
    List.dropWhile_eq_nil_iff.mpr plain
  rw [readMagnitude, whole, none, readSignificand_pointed positive]
  simp [readInteger]

theorem ne_minus_of_isDigit {first : Char} (isDigit : first.isDigit = true) : first ≠ '-' := by
  rintro rfl
  cases isDigit

/-- What starts with a digit is not taken for a number with a sign. -/
theorem readBack_of_isDigit {first : Char} (isDigit : first.isDigit = true) (rest : List Char)
    : readBack (first :: rest) = readMagnitude (first :: rest) := by
  unfold readBack
  split
  · next same => exact absurd (List.cons.inj same).1 (ne_minus_of_isDigit isDigit)
  · rfl

theorem IsPointed.exists_first {places : ℕ} {text : List Char} (isPointed : IsPointed places text)
    : ∃ first rest, text = first :: rest ∧ first.isDigit = true := by
  obtain ⟨whole, fraction, rfl, isWhole, _, _⟩ := isPointed
  obtain ⟨first, rest, rfl⟩ := List.exists_cons_of_ne_nil isWhole.nonempty
  exact ⟨first, _, rfl, isWhole.isDigit first List.mem_cons_self⟩

theorem readBack_pointed {places : ℕ} (positive : 0 < places) (coefficient : ℕ)
    : readBack (pointed places coefficient) = coefficient / 10 ^ places := by
  obtain ⟨first, rest, same, isDigit⟩ := (isPointed_pointed positive coefficient).exists_first
  rw [← readMagnitude_pointed positive, same, readBack_of_isDigit isDigit]

theorem readBack_minus (text : List Char) : readBack ('-' :: text) = -readMagnitude text := rfl

-----------------------------------------------------------------------------------------
-- The two styles
-----------------------------------------------------------------------------------------

theorem normalize_value (decimal : Decimal) : decimal.normalize.value = decimal.value := by
  fun_induction normalize decimal with
  | case1 decimal divisible ih =>
      obtain ⟨quotient, same⟩ := Nat.dvd_of_mod_eq_zero divisible.2
      rw [ih, value, value, same, Nat.mul_div_cancel_left _ (by decide),
        zpow_add_one₀ (by norm_num)]
      push_cast
      ring
  | case2 => rfl

theorem readMagnitude_positional (decimal : Decimal)
    : readMagnitude decimal.positional = decimal.value := by
  rw [positional, readMagnitude_pointed (by omega), value]
  set places := max 1 (-decimal.exponent).toNat with places_eq
  have whole : ((decimal.exponent + places).toNat : ℤ) = decimal.exponent + places := by omega
  rw [Nat.cast_mul, Nat.pow_eq, Nat.cast_pow, Nat.cast_ofNat, ← zpow_natCast, whole,
    zpow_add₀ (by norm_num), zpow_natCast]
  field_simp

theorem readInteger_of_isDigit {first : Char} (isDigit : first.isDigit = true) (rest : List Char)
    : readInteger (first :: rest) = Nat.ofDigitChars 10 (first :: rest) 0 := by
  unfold readInteger
  split
  · next same => exact absurd (List.cons.inj same).1 (ne_minus_of_isDigit isDigit)
  · rfl

theorem exists_first_toDigits (count : ℕ)
    : ∃ first rest, Nat.toDigits 10 count = first :: rest ∧ first.isDigit = true := by
  obtain ⟨first, rest, same⟩ :=
    List.exists_cons_of_ne_nil (Nat.toDigits_ne_nil : Nat.toDigits 10 count ≠ [])
  exact ⟨first, rest, same, isDigit_of_mem_toDigits (same ▸ List.mem_cons_self)⟩

theorem readInteger_signedDigits (number : ℤ) : readInteger (signedDigits number) = number := by
  unfold signedDigits
  split
  · next negative =>
      have digits : readInteger ('-' :: Nat.toDigits 10 number.natAbs) = -(number.natAbs : ℤ) := by
        rw [readInteger, Nat.ofDigitChars_ten_toDigits]
      omega
  · next nonnegative =>
      obtain ⟨first, rest, same, isDigit⟩ := exists_first_toDigits number.natAbs
      rw [same, readInteger_of_isDigit isDigit, ← same, Nat.ofDigitChars_ten_toDigits]
      omega

/-- The digits of a coefficient, with a point behind the first one if there are more. -/
def significand (coefficient : ℕ) : List Char :=
  match Nat.toDigits 10 coefficient with
  | first :: second :: rest => first :: '.' :: second :: rest
  | digits => digits

theorem scientific_eq (decimal : Decimal)
    : decimal.scientific
      = significand decimal.coefficient ++ 'e' :: signedDigits decimal.leadingExponent := rfl

theorem significand_cases (coefficient : ℕ)
    : ∃ first rest,
        Nat.toDigits 10 coefficient = first :: rest
        ∧ (∀ digit ∈ first :: rest, digit.isDigit = true)
        ∧ significand coefficient = first :: (if rest = [] then [] else '.' :: rest) := by
  obtain ⟨first, rest, same, _⟩ := exists_first_toDigits coefficient
  refine ⟨first, rest, same, fun digit member => isDigit_of_mem_toDigits (same ▸ member), ?_⟩
  rw [significand, same]
  cases rest <;> rfl

theorem readSignificand_significand (coefficient : ℕ)
    : readSignificand (significand coefficient)
      = coefficient / 10 ^ (digitCount coefficient - 1) := by
  obtain ⟨first, rest, same, areDigits, shape⟩ := significand_cases coefficient
  have point : (first != '.') = true := bne_of_isDigit rfl areDigits first List.mem_cons_self
  have digits : Nat.ofDigitChars 10 (first :: rest) 0 = coefficient := by
    rw [← same, Nat.ofDigitChars_ten_toDigits]
  rw [readSignificand, shape, digitCount, same]
  cases rest with
  | nil => simp [point, digits]
  | cons second rest => simp [point, digits]

theorem mem_significand {coefficient : ℕ} {character : Char}
    (member : character ∈ significand coefficient)
    : character.isDigit = true ∨ character = '.' := by
  obtain ⟨first, rest, _, areDigits, shape⟩ := significand_cases coefficient
  rw [shape] at member
  rcases List.mem_cons.mp member with rfl | more
  · exact .inl (areDigits _ List.mem_cons_self)
  · split at more
    · cases more
    · rcases List.mem_cons.mp more with point | digit
      · exact .inr point
      · exact .inl (areDigits _ (List.mem_cons_of_mem first digit))

theorem significand_bne_exponentMark (coefficient : ℕ)
    : ∀ character ∈ significand coefficient, (character != 'e') = true := by
  intro character member
  rw [bne_iff_ne]
  rintro rfl
  rcases mem_significand member with digit | point
  · cases digit
  · cases point

theorem mem_signedDigits {number : ℤ} {character : Char} (member : character ∈ signedDigits number)
    : character.isDigit = true ∨ character = '-' := by
  unfold signedDigits at member
  split at member
  · rcases List.mem_cons.mp member with minus | digit
    · exact .inr minus
    · exact .inl (isDigit_of_mem_toDigits digit)
  · exact .inl (isDigit_of_mem_toDigits member)

theorem readMagnitude_scientific (decimal : Decimal)
    : readMagnitude decimal.scientific = decimal.value := by
  have plain := significand_bne_exponentMark decimal.coefficient
  have nonempty : 0 < digitCount decimal.coefficient := Nat.length_toDigits_pos
  have exponent
      : decimal.leadingExponent = decimal.exponent + (digitCount decimal.coefficient - 1 : ℕ) := by
    rw [leadingExponent]
    omega
  rw [readMagnitude, scientific_eq, List.takeWhile_append_of_pos plain,
    List.dropWhile_append_of_pos plain]
  simp only [bne_self_eq_false, Bool.false_eq_true, not_false_eq_true, List.takeWhile_cons_of_neg,
    List.dropWhile_cons_of_neg, List.append_nil, List.tail_cons]
  rw [readInteger_signedDigits, readSignificand_significand, exponent, value,
    zpow_add₀ (by norm_num), zpow_natCast]
  field_simp

theorem readMagnitude_render (style : DecimalStyle) (decimal : Decimal)
    : readMagnitude (decimal.render style) = decimal.value := by
  unfold render
  split
  · exact readMagnitude_positional decimal
  · exact readMagnitude_scientific decimal

theorem exists_first_render (style : DecimalStyle) (decimal : Decimal)
    : ∃ first rest, decimal.render style = first :: rest ∧ first.isDigit = true := by
  unfold render
  split
  · exact (isPointed_pointed (by omega) _).exists_first
  · obtain ⟨first, rest, _, areDigits, shape⟩ := significand_cases decimal.coefficient
    rw [scientific_eq, shape]
    exact ⟨first, _, rfl, areDigits first List.mem_cons_self⟩

/-- The characters of decimals. -/
theorem mem_render {style : DecimalStyle} {decimal : Decimal} {character : Char}
    (member : character ∈ decimal.render style)
    : character.isDigit = true ∨ character ∈ ['.', 'e', '-'] := by
  unfold render at member
  split at member
  · rcases List.mem_append.mp member with whole | rest
    · exact .inl (isDigit_of_mem_toDigits whole)
    · rcases List.mem_cons.mp rest with rfl | fraction
      · exact .inr (by decide)
      · exact .inl (isDigit_of_mem_padded fraction)
  · rw [scientific_eq] at member
    rcases List.mem_append.mp member with digits | rest
    · exact (mem_significand digits).imp_right fun point => by simp [point]
    · rcases List.mem_cons.mp rest with rfl | digits
      · exact .inr (by decide)
      · exact (mem_signedDigits digits).imp_right fun minus => by simp [minus]

end Inertial.Decimal
