import Inertial.Proofs.Setting.Counts
import Mathlib.Data.List.Forall2

/-! Settings are the same with blanks around them and with their ASCII letters in another case,
because all that is read of a setting is its normal form.
-/

namespace Inertial

namespace Setting

/-- The same character, or the same ASCII letter in the other case. -/
def SameLetter (left right : Char) : Prop :=
  left = right
  ∨ (left.isUpper = true ∧ right.toNat = left.toNat + 32)
  ∨ (right.isUpper = true ∧ left.toNat = right.toNat + 32)

-----------------------------------------------------------------------------------------
-- Letters
-----------------------------------------------------------------------------------------

theorem isUpper_iff_toNat {character : Char}
    : character.isUpper = true ↔ 65 ≤ character.toNat ∧ character.toNat ≤ 90 := by
  have compared : character.isUpper = decide ('A'.val ≤ character.val ∧ character.val ≤ 'Z'.val) :=
    rfl
  simp [compared, UInt32.le_iff_toNat_le]

theorem isAlpha_iff_toNat {character : Char}
    : character.isAlpha = true
      ↔ 65 ≤ character.toNat ∧ character.toNat ≤ 90
        ∨ 97 ≤ character.toNat ∧ character.toNat ≤ 122 := by
  have either : character.isAlpha = (character.isUpper || character.isLower) := rfl
  have compared
      : character.isLower
        = (decide ('a'.val ≤ character.val) && decide (character.val ≤ 'z'.val)) :=
    rfl
  rw [either, Bool.or_eq_true, isUpper_iff_toNat]
  simp [compared, UInt32.le_iff_toNat_le]

/-- Small letters stand 32 places behind their capital ones, and all else stays. -/
theorem toNat_toLower (character : Char)
    : character.toLower.toNat
      = if 65 ≤ character.toNat ∧ character.toNat ≤ 90 then
          character.toNat + 32
        else
          character.toNat := by
  split
  · next range =>
      have moved : character.toLower.toNat = (character.val + 32).toNat :=
        congrArg Char.toNat (dif_pos range)
      have small : character.toNat + 32 < 2 ^ 32 := by omega
      exact moved.trans ((UInt32.toNat_add _ _).trans (Nat.mod_eq_of_lt small))
  · next other => exact congrArg Char.toNat (dif_neg other)

theorem isUpper_toLower (character : Char) : character.toLower.isUpper = false := by
  rw [Bool.eq_false_iff, ne_eq, isUpper_iff_toNat, toNat_toLower]
  split <;> omega

theorem isAlpha_toLower (character : Char) : character.toLower.isAlpha = character.isAlpha := by
  rw [Bool.eq_iff_iff, isAlpha_iff_toNat, isAlpha_iff_toNat, toNat_toLower]
  split <;> omega

theorem toLower_of_not_isUpper {character : Char} (notUpper : character.isUpper = false)
    : character.toLower = character := by
  rw [Bool.eq_false_iff, ne_eq, isUpper_iff_toNat] at notUpper
  rw [← Char.toNat_inj, toNat_toLower, if_neg notUpper]

theorem toLower_toLower (character : Char) : character.toLower.toLower = character.toLower :=
  toLower_of_not_isUpper (isUpper_toLower character)

/-- The character 32 places behind a capital letter is its small one. -/
theorem toLower_of_isUpper {capital small : Char} (isUpper : capital.isUpper = true)
    (behind : small.toNat = capital.toNat + 32)
    : capital.toLower = small := by
  rw [← Char.toNat_inj, toNat_toLower, if_pos (isUpper_iff_toNat.mp isUpper), behind]

theorem SameLetter.toLower_eq {left right : Char} (same : SameLetter left right)
    : left.toLower = right.toLower := by
  rcases same with rfl | ⟨isUpper, behind⟩ | ⟨isUpper, behind⟩
  · rfl
  · rw [← toLower_of_isUpper isUpper behind, toLower_toLower]
  · rw [← toLower_of_isUpper isUpper behind, toLower_toLower]

theorem map_toLower_eq {text variant : List Char} (same : List.Forall₂ SameLetter text variant)
    : text.map Char.toLower = variant.map Char.toLower := by
  induction same with
  | nil => rfl
  | cons first _ ih => rw [List.map_cons, List.map_cons, first.toLower_eq, ih]

/-- No letter is blank, neither a capital one nor a small one. -/
theorem blank_toLower (character : Char)
    : Text.blank.contains character.toLower = Text.blank.contains character := by
  cases isUpper : character.isUpper with
  | true =>
      have range := isUpper_iff_toNat.mp isUpper
      have small : character.toLower.toNat = character.toNat + 32 := by
        rw [toNat_toLower, if_pos range]
      simp only [Text.blank, Text.CharClass.contains, List.any_cons, List.any_nil, small]
      grind
  | false => rw [toLower_of_not_isUpper isUpper]

-----------------------------------------------------------------------------------------
-- Normal forms
-----------------------------------------------------------------------------------------

variable {text before after : List Char}

theorem IsBlank.map_toLower (blank : IsBlank text) : IsBlank (text.map Char.toLower) := by
  intro character member
  obtain ⟨original, found, rfl⟩ := List.mem_map.mp member
  rw [blank_toLower]
  exact blank original found

theorem stops_map_toLower (stops : Text.Stops Text.blank.contains text)
    : Text.Stops Text.blank.contains (text.map Char.toLower) := by
  cases text with
  | nil => exact Text.stops_nil
  | cons first rest =>
      rw [List.map_cons, Text.stops_cons, blank_toLower]
      exact Text.stops_cons.mp stops

theorem IsTrimmed.map_toLower (isTrimmed : IsTrimmed text)
    : IsTrimmed (text.map Char.toLower) where
  start := stops_map_toLower isTrimmed.start
  finish := by
    rw [← List.map_reverse]
    exact stops_map_toLower isTrimmed.finish

theorem isTrimmed_normalized (text : List Char) : IsTrimmed (normalized text) :=
  (isTrimmed_trimmed text).map_toLower

/-- It does not matter whether blanks are taken off before or after letters are made small. -/
theorem trimmed_map_toLower (text : List Char)
    : trimmed (text.map Char.toLower) = normalized text := by
  obtain ⟨before, after, blankBefore, blankAfter, same⟩ := exists_padding text
  have padded := (isTrimmed_normalized text).trimmed_padded blankBefore.map_toLower
    blankAfter.map_toLower
  rwa [normalized, ← List.map_append, ← List.map_append, ← same] at padded

theorem normalized_normalized (text : List Char)
    : normalized (normalized text) = normalized text := by
  rw [normalized, (isTrimmed_normalized text).trimmed_eq, normalized, List.map_map]
  exact List.map_congr_left fun character _ => toLower_toLower character

/-- Blanks around a text and the case of its letters do not show in its normal form. -/
theorem normalized_padded {variant : List Char} (blankBefore : IsBlank before)
    (blankAfter : IsBlank after) (same : List.Forall₂ SameLetter text variant)
    : normalized (before ++ variant ++ after) = normalized text := by
  rw [normalized, trimmed_padded blankBefore blankAfter, ← normalized, ← trimmed_map_toLower,
    ← map_toLower_eq same, trimmed_map_toLower]

theorem normalized_eq_nil_iff : normalized text = [] ↔ IsBlank text := by
  rw [normalized, List.map_eq_nil_iff, trimmed_eq_nil_iff]

theorem isUpper_of_mem_normalized {character : Char} (member : character ∈ normalized text)
    : character.isUpper = false := by
  obtain ⟨original, _, rfl⟩ := List.mem_map.mp member
  exact isUpper_toLower original

-----------------------------------------------------------------------------------------
-- What is read of a normal form
-----------------------------------------------------------------------------------------

theorem isAlpha_of_isDigit {digit : Char} (isDigit : digit.isDigit = true)
    : digit.isAlpha = false := by
  have range : 48 ≤ digit.toNat ∧ digit.toNat ≤ 57 := Char.isDigit_iff_toNat.mp isDigit
  rw [Bool.eq_false_iff, ne_eq, isAlpha_iff_toNat]
  omega

/-- No letter stands in the spelling of a number. -/
theorem SpellsUnsigned.isAlpha {number : Nat} (spells : SpellsUnsigned text number)
    : ∀ character ∈ text, character.isAlpha = false := by
  obtain ⟨sign, digits, rfl, isSign, spellsNumber⟩ := spells
  intro character member
  rcases List.mem_append.mp member with isPlus | digit
  · rcases isSign with rfl | rfl
    · cases isPlus
    · rw [List.mem_singleton.mp isPlus]
      decide
  · exact isAlpha_of_isDigit (spellsNumber.isDigit character digit)

/-- A text without letters is as it is in small letters. -/
theorem map_toLower_of_isAlpha (without : ∀ character ∈ text, character.isAlpha = false)
    : text.map Char.toLower = text := by
  have kept : text.map Char.toLower = text.map id := by
    refine List.map_congr_left fun character member => ?_
    have noLetter := without character member
    exact toLower_of_not_isUpper (Bool.or_eq_false_iff.mp noLetter).1
  rw [kept, List.map_id]

/-- Letters stay letters when they are made small, so the two texts are the same if either one
spells a number.
-/
theorem unsigned?_map_toLower (text : List Char)
    : unsigned? (text.map Char.toLower) = unsigned? text := by
  refine Option.ext fun number => ?_
  rw [unsigned?_eq_some_iff, unsigned?_eq_some_iff]
  constructor
  · intro spells
    have without : ∀ character ∈ text, character.isAlpha = false := by
      intro character member
      rw [← isAlpha_toLower]
      exact spells.isAlpha _ (List.mem_map_of_mem member)
    rwa [map_toLower_of_isAlpha without] at spells
  · intro spells
    rwa [map_toLower_of_isAlpha spells.isAlpha]

theorem count?_eq (text : String) : count? text = unsigned? (normalized text.toList) :=
  (unsigned?_map_toLower _).symm

/-- The normal form decides what is read of a text, in all three ways. -/
theorem readers_congr {text other : String}
    (same : normalized text.toList = normalized other.toList)
    : flag? text = flag? other ∧ count? text = count? other ∧ word? text = word? other := by
  refine ⟨?_, ?_, ?_⟩
  · rw [flag?, flag?, same]
  · rw [count?_eq, count?_eq, same]
  · rw [word?, word?, same]

theorem word?_blank {text : String} (blank : IsBlank text.toList) : word? text = none := by
  rw [word?, normalized_eq_nil_iff.mpr blank]

theorem word?_not_blank {text : String} (visible : ¬ IsBlank text.toList)
    : word? text = some (.ofList (normalized text.toList)) := by
  unfold word?
  split
  · next none => exact absurd (normalized_eq_nil_iff.mp none) visible
  · rfl

end Setting

namespace Environment

open Setting

variable {environment : Environment} {name text : String}

/-- Variables with one normal form are read alike, in all three ways and for every default. -/
theorem reads_congr {otherEnvironment : Environment} {other otherText : String}
    (sets : environment.Sets name text) (otherSets : otherEnvironment.Sets other otherText)
    (same : normalized otherText.toList = normalized text.toList)
    : (∀ default, otherEnvironment.flag other default = environment.flag name default)
      ∧ (∀ default, otherEnvironment.count other default = environment.count name default)
      ∧ ∀ default, otherEnvironment.word other default = environment.word name default := by
  obtain ⟨flags, counts, words⟩ := readers_congr same
  refine ⟨fun default => ?_, fun default => ?_, fun default => ?_⟩
  · rw [flag, flag, bind_of_sets sets, bind_of_sets otherSets, flags]
  · rw [count, count, bind_of_sets sets, bind_of_sets otherSets, counts]
  · rw [word, word, bind_of_sets sets, bind_of_sets otherSets, words]

theorem word_not_blank (sets : environment.Sets name text) (visible : ¬ IsBlank text.toList)
    (default : String)
    : environment.word name default = .ofList (normalized text.toList) := by
  rw [word, bind_of_sets sets, word?_not_blank visible, Option.getD_some]

/-- The default is the answer, whatever it is, exactly when there is nothing to read. -/
theorem word_eq_default_iff (environment : Environment) (name : String)
    : (∀ default, environment.word name default = default)
      ↔ (∀ text, ¬ environment.Sets name text)
        ∨ ∃ text, environment.Sets name text ∧ IsBlank text.toList := by
  constructor
  · intro defaults
    by_contra read
    rw [not_or] at read
    obtain ⟨text, sets⟩ := not_forall_not.mp read.1
    have visible : ¬ IsBlank text.toList := fun blank => read.2 ⟨text, sets, blank⟩
    -- The answer would have to be two defaults at once.
    have first := word_not_blank sets visible "1"
    have second := word_not_blank sets visible "2"
    rw [defaults] at first second
    exact absurd (first.trans second.symm) (by decide)
  · rintro (unset | ⟨text, sets, blank⟩) default
    · have none : environment.text? name = none :=
        Option.eq_none_iff_forall_ne_some.mpr fun text found =>
          unset text (text?_eq_some_iff.mp found)
      rw [word, none, Option.bind_none, Option.getD_none]
    · rw [word, bind_of_sets sets, word?_blank blank, Option.getD_none]

end Environment

open Setting

/-- Blanks around a setting and the case of its ASCII letters make no difference to any reader. A
word that is read of a setting is in normal form already: reading it again changes nothing, and as a
flag it means what the setting means. Only settings that are not there, that are not text, or that
are blank leave the default in place.
-/
theorem settings_are_read_in_normal_form
    : (∀ (environment padded : Environment) (name other : String) (text variant before after),
        environment.Sets name text
        → padded.Sets other (before ++ variant ++ after)
        → IsBlank before.toList
        → IsBlank after.toList
        → List.Forall₂ SameLetter text.toList variant.toList
        → (∀ default, padded.flag other default = environment.flag name default)
          ∧ (∀ default, padded.count other default = environment.count name default)
          ∧ ∀ default, padded.word other default = environment.word name default)
      ∧ (∀ (environment : Environment) (name text : String),
          environment.Sets name text
          → ¬ IsBlank text.toList
          → ∃ word,
              (∀ default, environment.word name default = word)
              ∧ word ≠ ""
              ∧ IsTrimmed word.toList
              ∧ (∀ character ∈ word.toList, character.isUpper = false)
              ∧ ∀ (again : Environment) (other : String),
                  again.Sets other word
                  → (∀ default, again.word other default = word)
                    ∧ ∀ default, again.flag other default = environment.flag name default)
      ∧ ∀ (environment : Environment) (name : String),
          (∀ default, environment.word name default = default)
          ↔ (∀ text, ¬ environment.Sets name text)
            ∨ ∃ text, environment.Sets name text ∧ IsBlank text.toList := by
  refine ⟨?_, ?_, Environment.word_eq_default_iff⟩
  · intro environment padded name other text variant before after sets paddedSets blankBefore
      blankAfter same
    refine Environment.reads_congr sets paddedSets ?_
    rw [String.toList_append, String.toList_append]
    exact normalized_padded blankBefore blankAfter same
  · intro environment name text sets visible
    have read := Environment.word_not_blank sets visible
    refine ⟨.ofList (normalized text.toList), read, ?_, ?_, ?_, ?_⟩
    · intro empty
      have none := congrArg String.toList empty
      rw [String.toList_ofList] at none
      exact visible (normalized_eq_nil_iff.mp none)
    · rw [String.toList_ofList]
      exact isTrimmed_normalized text.toList
    · rw [String.toList_ofList]
      exact fun character member => isUpper_of_mem_normalized member
    · intro again other againSets
      have same : normalized (String.ofList (normalized text.toList)).toList
          = normalized text.toList := by
        rw [String.toList_ofList, normalized_normalized]
      obtain ⟨flags, _, words⟩ := Environment.reads_congr sets againSets same
      exact ⟨fun default => (words default).trans (read default), flags⟩

end Inertial
