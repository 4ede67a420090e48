import Inertial.Inspect
import Inertial.Proofs.CapabilityBits
import Inertial.Proofs.Double.Rendering
import Inertial.Proofs.Text.Legibility

/-! Whatever names, frames and numbers a registry has, its outline is legible. -/

namespace Inertial

open Text (IsBare IsToken Legible Outline)

-----------------------------------------------------------------------------------------
-- Numbers
-----------------------------------------------------------------------------------------

/-- A digit is no sign, no quotation mark and no space. -/
theorem Text.not_mem_of_isDigit {digit : Char} (isDigit : digit.isDigit = true)
    : digit ∉ ' ' :: '"' :: signs := by
  intro sign
  simp only [signs, openingSigns, closingSigns, List.cons_append, List.nil_append, List.mem_cons,
    List.not_mem_nil, or_false] at sign
  rcases sign with rfl | rfl | rfl | rfl | rfl | rfl | rfl | rfl | rfl | rfl <;> cases isDigit

theorem Double.isBare_render (style : DecimalStyle) (number : Double)
    : IsBare (number.render style) := by
  refine Text.isBare_of_plain fun character member => ?_
  rcases number.mem_render member with digit | letter
  · exact Text.not_mem_of_isDigit digit
  · have apart
        : Text.Avoids (' ' :: '"' :: Text.signs) ['.', 'e', '-', 'N', 'a', 'i', 'n', 'f'] := by
      decide
    exact apart character letter

-----------------------------------------------------------------------------------------
-- Masks
-----------------------------------------------------------------------------------------

namespace Capabilities

/-- Bare words with bars between them. -/
theorem isBare_intercalate {first : List Char} {words : List (List Char)}
    (areBare : ∀ word ∈ first :: words, IsBare word ∧ word ≠ [])
    : IsBare ([' ', '|', ' '].intercalate (first :: words))
      ∧ [' ', '|', ' '].intercalate (first :: words) ≠ [] := by
  induction words generalizing first with
  | nil => simpa using areBare first
  | cons next words ih =>
      obtain ⟨isBare, nonempty⟩ := areBare first List.mem_cons_self
      obtain ⟨restBare, restNonempty⟩ :=
        ih fun word member => areBare word (List.mem_cons_of_mem first member)
      rw [List.intercalate_cons_cons, List.append_assoc]
      exact ⟨isBare.join nonempty (by decide) restBare restNonempty, by simp [nonempty]⟩

theorem isBare_hexadecimal (width : ℕ) (mask : Capabilities)
    : IsBare (mask.hexadecimal width).toList ∧ (mask.hexadecimal width).toList ≠ [] := by
  refine ⟨Text.isBare_of_plain fun character member => ?_, by simp [hexadecimal]⟩
  have all : ∀ value : Fin 16, value.val.digitChar ∉ ' ' :: '"' :: Text.signs := by decide
  simp only [hexadecimal, String.toList_append, String.toList_ofList, List.mem_append] at member
  rcases member with mark | zero | digit
  · exact (by decide : Text.Avoids (' ' :: '"' :: Text.signs) "0x".toList) character mark
  · rw [List.eq_of_mem_replicate zero]
    decide
  · obtain ⟨value, rfl⟩ := Text.mem_toDigits digit
    exact all value

theorem isBare_flagName (channel : Channel)
    : IsBare channel.flagName.toList ∧ channel.flagName.toList ≠ [] := by
  constructor
  · refine Text.isBare_of_plain ?_
    cases channel <;> decide
  · cases channel <;> decide

/-- The flag of a channel is set, or a bit that stands for no channel. -/
theorem exists_part {mask : Capabilities} (nonempty : mask.isEmpty = false)
    : mask.channels ≠ [] ∨ (mask.diff known).isEmpty = false := by
  by_contra none
  obtain ⟨noChannel, noOther⟩ := not_or.mp none
  have others : mask.diff known = empty := by simpa [isEmpty] using noOther
  have cleared (channel : Channel) : mask.hasBit channel.bit = false := by
    have absent : channel ∉ mask.channels := by
      rw [not_ne_iff.mp noChannel]
      exact List.not_mem_nil
    simpa [channels, channel.mem_all, contains_flag] using absent
  have same : mask = empty := by
    refine eq_of_hasBit fun place => ?_
    rw [hasBit_empty]
    by_cases some : ∃ channel : Channel, channel.bit = place
    · obtain ⟨channel, rfl⟩ := some
      exact cleared channel
    · have kept
          : (mask.diff known).hasBit place
            = if known.hasBit place then false else mask.hasBit place :=
        mask.hasBit_set known false place
      rw [hasBit_known_other some, others, hasBit_empty] at kept
      simpa using kept.symm
  simp [isEmpty, same] at nonempty

theorem isBare_describe (mask : Capabilities)
    : IsBare mask.describe.toList ∧ mask.describe.toList ≠ [] := by
  cases isEmpty : mask.isEmpty with
  | true =>
      rw [describe, if_pos isEmpty]
      exact isBare_hexadecimal 1 mask
  | false =>
      set others := mask.diff known
      set parts :=
        if others.isEmpty then mask.channels.map Channel.flagName
        else mask.channels.map Channel.flagName ++ [others.hexadecimal 1] with parts_eq
      have described : mask.describe = " | ".intercalate parts := by
        simp [describe, isEmpty, parts_eq, others]
      have nonempty : parts ≠ [] := by
        rcases exists_part isEmpty with some | some
        · rw [parts_eq]
          split <;> simp [some]
        · simp [parts_eq, others, some]
      have areBare : ∀ part ∈ parts, IsBare part.toList ∧ part.toList ≠ [] := by
        have flags : ∀ part ∈ mask.channels.map Channel.flagName,
            IsBare part.toList ∧ part.toList ≠ [] := by
          intro part member
          obtain ⟨channel, _, rfl⟩ := List.mem_map.mp member
          exact isBare_flagName channel
        rw [parts_eq]
        split
        · exact flags
        · exact List.forall_mem_append.mpr
            ⟨flags, List.forall_mem_singleton.mpr (isBare_hexadecimal 1 others)⟩
      obtain ⟨first, rest, same⟩ := List.exists_cons_of_ne_nil nonempty
      rw [described, String.toList_intercalate, same]
      exact isBare_intercalate (by simpa [same] using areBare)

end Capabilities

-----------------------------------------------------------------------------------------
-- Groups
-----------------------------------------------------------------------------------------

namespace Text

/-- Letters and underscores. -/
def IsLabel (name : String) : Prop :=
  name.toList ≠ [] ∧ Avoids (' ' :: '"' :: signs) name.toList

instance (name : String) : Decidable (IsLabel name) :=
  inferInstanceAs (Decidable (_ ∧ _))

theorem IsLabel.isBare {name : String} (isLabel : IsLabel name) : IsBare name.toList :=
  isBare_of_plain isLabel.2

namespace Outline

variable {name : String} {items : List Outline}

theorem legible_word (isLabel : IsLabel name) : Legible (word name) :=
  .leaf (.bare isLabel.isBare) isLabel.1

theorem legible_field (isLabel : IsLabel name) {value : Outline} (legible : Legible value)
    : Legible (field name value) :=
  .entry (.bare isLabel.isBare) isLabel.1 legible

theorem legible_record (isLabel : IsLabel name) (legible : ∀ item ∈ items, Legible item)
    : Legible (record name items) :=
  .group ⟨by decide, _, rfl, isLabel.isBare, fun _ => isLabel.1⟩ legible

theorem legible_tuple (isLabel : IsLabel name) (legible : ∀ item ∈ items, Legible item)
    : Legible (tuple name items) :=
  .group ⟨by decide, _, (List.append_nil _).symm, isLabel.isBare, nofun⟩ legible

theorem legible_list (legible : ∀ item ∈ items, Legible item) : Legible (list items) :=
  .group ⟨by decide, [], rfl, isBare_of_plain nofun, nofun⟩ legible

theorem legible_dictionary (legible : ∀ item ∈ items, Legible item)
    : Legible (dictionary items) :=
  .group ⟨by decide, [], rfl, isBare_of_plain nofun, nofun⟩ legible

theorem legible_optional {value : Option Outline} (legible : ∀ outline ∈ value, Legible outline)
    : Legible (optional value) := by
  cases value with
  | none => exact legible_word (by decide)
  | some outline => exact legible_tuple (by decide) (by simpa using legible)

end Outline

end Text

-----------------------------------------------------------------------------------------
-- The library's outlines
-----------------------------------------------------------------------------------------

namespace Inspect

open Text.Outline

theorem legible_number (value : Double) : Legible (number value) :=
  .leaf (.bare (value.isBare_render numberStyle)) (value.render_ne_nil numberStyle)

theorem legible_numbers {size : ℕ} (values : Vector Double size) : Legible (numbers values) :=
  legible_list (by simp [legible_number])

theorem legible_text (content : String) : Legible (text content) :=
  .leaf (.quoted content) (by simp [Text.quoted])

theorem legible_mask (capabilities : Capabilities) : Legible (mask capabilities) := by
  obtain ⟨isBare, nonempty⟩ := capabilities.isBare_describe
  have word : Legible (.word capabilities.describe) := .leaf (.bare isBare) nonempty
  exact legible_tuple (by decide) (by simp [word])

theorem legible_view (shape : Shape) (values : Vector Double shape.size)
    : Legible (view shape values) := by
  cases shape with
  | quaternion => exact legible_tuple (by decide) (by simp [legible_numbers])
  | vector => exact legible_tuple (by decide) (by simp [legible_numbers])
  | covariance =>
      refine legible_tuple (by decide) (List.forall_mem_singleton.mpr (legible_list ?_))
      simp [legible_numbers]

theorem legible_channels {outline : Channel → Outline}
    (legible : ∀ channel, Legible (outline channel))
    : ∀ item ∈ channels outline, Legible item := by
  intro item member
  obtain ⟨channel, _, rfl⟩ := List.mem_map.mp member
  exact legible_field (by cases channel <;> decide) (legible channel)

theorem legible_handle (memory : Memory) (sensor : Handle) : Legible (handle memory sensor) := by
  refine legible_record (by decide) (List.forall_mem_append.mpr ⟨?_, ?_⟩)
  · refine List.forall_mem_cons.mpr ⟨legible_field (by decide) (legible_text _), ?_⟩
    refine List.forall_mem_cons.mpr ⟨legible_field (by decide) (legible_text _), ?_⟩
    exact legible_channels fun channel => legible_optional (by simp [legible_view])
  · exact List.forall_mem_singleton.mpr (legible_field (by decide) (legible_mask _))

theorem legible_registry (memory : Memory) (sensors : Registry)
    : Legible (registry memory sensors) := by
  refine legible_record (by decide)
    (List.forall_mem_singleton.mpr (legible_field (by decide) (legible_dictionary ?_)))
  intro item member
  obtain ⟨⟨name, sensor⟩, _, rfl⟩ := List.mem_map.mp member
  exact .entry (.quoted name) (by simp [Text.quoted]) (legible_handle memory sensor)

end Inspect

end Inertial
