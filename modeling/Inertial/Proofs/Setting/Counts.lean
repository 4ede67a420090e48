import Inertial.Proofs.Setting.Trimming
import Inertial.Proofs.Text.FaithfulDecoding
import Mathlib.Algebra.Group.Nat.Defs

/-! Counts are read from exactly those settings that spell one: decimal digits, perhaps behind a
plus sign and with blanks around it all, whose value fits into 64 bits. No step of reading wraps
around, because every step is checked.
-/

namespace Inertial

/-- The variable is set, to the encoding of this text. -/
def Environment.Sets (environment : Environment) (name text : String) : Prop :=
  isVariableName name = true ∧ environment.bytes? name = some (Text.utf8Bytes text)

theorem Environment.text?_eq_some_iff {environment : Environment} {name text : String}
    : environment.text? name = some text ↔ environment.Sets name text := by
  unfold text? Sets
  split
  · next valid =>
      simp only [valid, true_and, Option.bind_eq_some_iff, Text.decode?_eq_some_iff,
        exists_eq_right]
  · next invalid => simp [invalid]

/-- A variable that is set is read as its text is, by every reader. -/
theorem Environment.bind_of_sets {environment : Environment} {name text : String} {Value : Type}
    (sets : environment.Sets name text) (reader : String → Option Value)
    : (environment.text? name).bind reader = reader text := by
  rw [text?_eq_some_iff.mpr sets, Option.bind_some]

namespace Setting

-----------------------------------------------------------------------------------------
-- Digits
-----------------------------------------------------------------------------------------

/-- Decimal digits of this value, of which there is at least one. -/
structure SpellsNumber (digits : List Char) (number : Nat) : Prop where
  nonempty : digits ≠ []
  isDigit : ∀ digit ∈ digits, digit.isDigit = true
  value : Nat.ofDigitChars 10 digits 0 = number

theorem fit?_eq_some_iff {number : Nat} {fitting : UInt64}
    : fit? number = some fitting ↔ fitting.toNat = number := by
  unfold fit?
  split
  · next fits =>
      rw [Option.some.injEq, ← UInt64.toNat_inj, UInt64.toNat_ofNat_of_lt' fits]
      exact eq_comm
  · next large =>
      refine iff_of_false nofun ?_
      rintro rfl
      exact large fitting.toNat_lt

/-- A step of reading succeeds exactly when what it stands for fits, so the product alone is never
too large.
-/
theorem appendDigit?_eq_some_iff {number next : UInt64} {digit : Char}
    : appendDigit? number digit = some next
      ↔ digit.isDigit = true ∧ next.toNat = 10 * number.toNat + (digit.toNat - '0'.toNat) := by
  unfold appendDigit?
  simp only [Option.bind_eq_bind, Option.bind_eq_some_iff, fit?_eq_some_iff]
  constructor
  · rintro ⟨tens, product, sum⟩
    split at sum
    · next isDigit =>
        refine ⟨isDigit, ?_⟩
        rw [fit?_eq_some_iff.mp sum, product, Nat.mul_comm]
    · cases sum
  · rintro ⟨isDigit, value⟩
    have small : number.toNat * 10 < UInt64.size := by
      have fits : next.toNat < UInt64.size := next.toNat_lt
      omega
    refine ⟨.ofNat (number.toNat * 10), UInt64.toNat_ofNat_of_lt' small, ?_⟩
    rw [if_pos isDigit, fit?_eq_some_iff, value, UInt64.toNat_ofNat_of_lt' small, Nat.mul_comm]

/-- Reading more digits never makes a number smaller. -/
theorem le_ofDigitChars (digits : List Char) (start : Nat)
    : start ≤ Nat.ofDigitChars 10 digits start := by
  rw [Nat.ofDigitChars_eq_ofDigitChars_zero]
  have least : 1 ≤ 10 ^ digits.length := Nat.one_le_pow _ _ (by decide)
  calc start
    _ ≤ 10 ^ digits.length * start := Nat.le_mul_of_pos_left start least
    _ ≤ 10 ^ digits.length * start + Nat.ofDigitChars 10 digits 0 := Nat.le_add_right _ _

/-- Reading succeeds exactly when the number fits in the end, by induction on the digits: all
numbers on the way to it are at most as large.
-/
theorem foldlM_appendDigit?_eq_some_iff {digits : List Char} {start number : UInt64}
    : digits.foldlM appendDigit? start = some number
      ↔ (∀ digit ∈ digits, digit.isDigit = true)
        ∧ Nat.ofDigitChars 10 digits start.toNat = number.toNat := by
  induction digits generalizing start with
  | nil =>
      simp only [List.foldlM_nil, Option.pure_def, Option.some.injEq, List.not_mem_nil,
        false_implies, implies_true, true_and, Nat.ofDigitChars_nil]
      exact UInt64.toNat_inj.symm
  | cons digit rest ih =>
      simp only [List.foldlM_cons, Option.bind_eq_bind, Option.bind_eq_some_iff,
        appendDigit?_eq_some_iff, ih, List.forall_mem_cons, Nat.ofDigitChars_cons]
      constructor
      · rintro ⟨next, ⟨isDigit, value⟩, areDigits, final⟩
        exact ⟨⟨isDigit, areDigits⟩, value ▸ final⟩
      · rintro ⟨⟨isDigit, areDigits⟩, final⟩
        have small : 10 * start.toNat + (digit.toNat - '0'.toNat) < UInt64.size := by
          have bound := le_ofDigitChars rest (10 * start.toNat + (digit.toNat - '0'.toNat))
          rw [final] at bound
          exact Nat.lt_of_le_of_lt bound number.toNat_lt
        have value := UInt64.toNat_ofNat_of_lt' small
        exact ⟨_, ⟨isDigit, value⟩, areDigits, value.symm ▸ final⟩

theorem decimal?_eq_some_iff {digits : List Char} {number : UInt64}
    : decimal? digits = some number ↔ SpellsNumber digits number.toNat := by
  cases digits with
  | nil => exact iff_of_false nofun fun spells => spells.nonempty rfl
  | cons first rest =>
      have read : decimal? (first :: rest) = (first :: rest).foldlM appendDigit? 0 := rfl
      rw [read, foldlM_appendDigit?_eq_some_iff]
      exact ⟨fun ⟨isDigit, value⟩ => ⟨nofun, isDigit, value⟩,
        fun spells => ⟨spells.isDigit, spells.value⟩⟩

-----------------------------------------------------------------------------------------
-- Signs and blanks
-----------------------------------------------------------------------------------------

/-- Decimal digits of this value, perhaps behind one plus sign. -/
def SpellsUnsigned (text : List Char) (number : Nat) : Prop :=
  ∃ sign digits, text = sign ++ digits ∧ (sign = [] ∨ sign = ['+']) ∧ SpellsNumber digits number

/-- The spelling of a number, with any blanks around it. -/
def SpellsCount (text : List Char) (number : Nat) : Prop :=
  ∃ before core after,
    text = before ++ core ++ after
    ∧ IsBlank before
    ∧ IsBlank after
    ∧ SpellsUnsigned core number

theorem SpellsNumber.head?_ne_plus {digits : List Char} {number : Nat}
    (spells : SpellsNumber digits number)
    : digits.head? ≠ some '+' := by
  intro plus
  exact absurd (spells.isDigit '+' (List.mem_of_mem_head? plus)) (by decide)

theorem unsigned?_eq_some_iff {text : List Char} {number : UInt64}
    : unsigned? text = some number ↔ SpellsUnsigned text number.toNat := by
  unfold unsigned?
  split
  · next digits =>
      rw [decimal?_eq_some_iff]
      constructor
      · intro spells
        exact ⟨['+'], digits, rfl, .inr rfl, spells⟩
      · rintro ⟨sign, rest, same, isSign, spells⟩
        rcases isSign with rfl | rfl
        · exact absurd (congrArg List.head? same).symm spells.head?_ne_plus
        · cases same
          exact spells
  · next unsigned =>
      rw [decimal?_eq_some_iff]
      constructor
      · intro spells
        exact ⟨[], text, rfl, .inl rfl, spells⟩
      · rintro ⟨sign, rest, same, isSign, spells⟩
        rcases isSign with rfl | rfl
        · exact same ▸ spells
        · exact absurd same (unsigned rest)

theorem blank_of_isDigit {digit : Char} (isDigit : digit.isDigit = true)
    : Text.blank.contains digit = false := by
  have range : 48 ≤ digit.toNat ∧ digit.toNat ≤ 57 := Char.isDigit_iff_toNat.mp isDigit
  simp only [Text.blank, Text.CharClass.contains, List.any_cons, List.any_nil]
  grind

/-- A spelling without blanks around it has none at its ends. -/
theorem SpellsUnsigned.isTrimmed {text : List Char} {number : Nat}
    (spells : SpellsUnsigned text number)
    : IsTrimmed text := by
  obtain ⟨sign, digits, rfl, isSign, spellsNumber⟩ := spells
  have solid : ∀ character ∈ sign ++ digits, Text.blank.contains character = false := by
    intro character member
    rcases List.mem_append.mp member with isPlus | digit
    · rcases isSign with rfl | rfl
      · cases isPlus
      · rw [List.mem_singleton.mp isPlus]
        decide
    · exact blank_of_isDigit (spellsNumber.isDigit character digit)
  exact {
    start := fun character first => solid character (List.mem_of_mem_head? first)
    finish := fun character last =>
      solid character (List.mem_reverse.mp (List.mem_of_mem_head? last))
  }

theorem count?_eq_some_iff {text : String} {number : UInt64}
    : count? text = some number ↔ SpellsCount text.toList number.toNat := by
  rw [count?, unsigned?_eq_some_iff]
  constructor
  · intro spells
    obtain ⟨before, after, blankBefore, blankAfter, same⟩ := exists_padding text.toList
    exact ⟨before, _, after, same, blankBefore, blankAfter, spells⟩
  · rintro ⟨before, core, after, same, blankBefore, blankAfter, spells⟩
    rwa [same, spells.isTrimmed.trimmed_padded blankBefore blankAfter]

/-- The digits of a number, behind any zeros, spell the number. -/
theorem spellsNumber_toDigits (zeros number : Nat)
    : SpellsNumber (List.replicate zeros '0' ++ Nat.toDigits 10 number) number where
  nonempty := by
    simp [Nat.toDigits_ne_nil]
  isDigit := by
    intro digit member
    rcases List.mem_append.mp member with zero | member
    · rw [List.eq_of_mem_replicate zero]
      decide
    · exact Nat.isDigit_of_mem_toDigits (by decide) (by decide) member
  value := by
    rw [Nat.ofDigitChars_append, Nat.ofDigitChars_replicate_zero, Nat.mul_zero,
      Nat.ofDigitChars_ten_toDigits]

end Setting

open Setting

/-- A variable that spells a number below `2 ^ 64` is read as that number, and any other variable,
set or not, as the default. So the digits of a number read back, whatever blanks and zeros there
are.
-/
theorem counts_are_read_as_spelled (environment : Environment) (name : String)
    : (∀ text number,
        environment.Sets name text
        → SpellsCount text.toList number
        → number < 2 ^ 64
        → ∀ default, (environment.count name default).toNat = number)
      ∧ ((∀ text number,
            environment.Sets name text → SpellsCount text.toList number → 2 ^ 64 ≤ number)
          → ∀ default, environment.count name default = default)
      ∧ ∀ (number : UInt64) (zeros : Nat) before after,
          IsBlank before
          → IsBlank after
          → environment.Sets name
              (.ofList
                (before ++ (List.replicate zeros '0' ++ Nat.toDigits 10 number.toNat) ++ after))
          → ∀ default, environment.count name default = number := by
  have read {text : String} {number : UInt64} (sets : environment.Sets name text)
      (spells : SpellsCount text.toList number.toNat) (default : UInt64)
      : environment.count name default = number := by
    rw [Environment.count, Environment.bind_of_sets sets, count?_eq_some_iff.mpr spells,
      Option.getD_some]
  refine ⟨?_, ?_, ?_⟩
  · intro text number sets spells small default
    have value : (UInt64.ofNat number).toNat = number := UInt64.toNat_ofNat_of_lt' small
    rw [read sets (value.symm ▸ spells) default, value]
  · intro large default
    have none : (environment.text? name).bind count? = none := by
      rw [Option.eq_none_iff_forall_ne_some]
      intro number found
      obtain ⟨text, set, counted⟩ := Option.bind_eq_some_iff.mp found
      have fits := large text number.toNat (Environment.text?_eq_some_iff.mp set)
        (count?_eq_some_iff.mp counted)
      exact absurd number.toNat_lt (Nat.not_lt.mpr fits)
    rw [Environment.count, none, Option.getD_none]
  · intro number zeros before after blankBefore blankAfter sets default
    refine read sets ?_ default
    rw [String.toList_ofList]
    exact ⟨before, _, after, rfl, blankBefore, blankAfter, [], _, rfl, .inl rfl,
      spellsNumber_toDigits zeros number.toNat⟩

-- Only one plus may stand before the digits and only blanks around them, and then the value counts.
example
    : ["", " ", "+", "++1", "-0", "1 2", "1_0", "١", "18446744073709551616",
          "\u3000+0018446744073709551615\n"].map
        count?
      = List.replicate 9 none ++ [some 18446744073709551615] := by
  rfl

end Inertial
