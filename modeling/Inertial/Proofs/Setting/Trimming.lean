import Inertial.Proofs.Text.Prefixes
import Inertial.Setting
import Mathlib.Data.List.TakeWhile

/-! Trimming takes the blanks off both ends of a text and nothing else. What is left has no blank at
either end, and it is the only part of the text of which that is true.
-/

namespace Inertial.Setting

def IsBlank (text : List Char) : Prop := ∀ character ∈ text, Text.blank.contains character = true

/-- Neither end of the text is a blank. -/
structure IsTrimmed (text : List Char) : Prop where
  start : Text.Stops Text.blank.contains text
  finish : Text.Stops Text.blank.contains text.reverse

variable {text before after core : List Char}

theorem isBlank_nil : IsBlank [] := nofun

theorem IsBlank.append (first : IsBlank before) (second : IsBlank after)
    : IsBlank (before ++ after) := by
  intro character member
  rcases List.mem_append.mp member with member | member
  · exact first character member
  · exact second character member

theorem IsBlank.reverse (blank : IsBlank text) : IsBlank text.reverse :=
  fun character member => blank character (List.mem_reverse.mp member)

-----------------------------------------------------------------------------------------
-- One end
-----------------------------------------------------------------------------------------

theorem dropBlanks_append (blank : IsBlank before) (rest : List Char)
    : dropBlanks (before ++ rest) = dropBlanks rest :=
  List.dropWhile_append_of_pos blank

theorem dropBlanks_of_stops (stops : Text.Stops Text.blank.contains text)
    : dropBlanks text = text := by
  cases text with
  | nil => rfl
  | cons first rest =>
      exact List.dropWhile_cons_of_neg (Bool.eq_false_iff.mp (Text.stops_cons.mp stops))

theorem stops_dropBlanks (text : List Char)
    : Text.Stops Text.blank.contains (dropBlanks text) := by
  intro character first
  have stopped := List.head?_dropWhile_not Text.blank.contains text
  rw [← dropBlanks, Option.mem_def.mp first] at stopped
  exact stopped

theorem exists_dropped (text : List Char)
    : ∃ before, IsBlank before ∧ text = before ++ dropBlanks text :=
  ⟨text.takeWhile Text.blank.contains, List.all_eq_true.mp List.all_takeWhile,
    List.takeWhile_append_dropWhile.symm⟩

-----------------------------------------------------------------------------------------
-- Both ends
-----------------------------------------------------------------------------------------

/-- The last blanks are the first ones of the text read backwards. -/
theorem dropBlanks_eq_trimmed_append (text : List Char)
    : ∃ after, IsBlank after ∧ dropBlanks text = trimmed text ++ after := by
  obtain ⟨dropped, blank, same⟩ := exists_dropped (dropBlanks text).reverse
  refine ⟨dropped.reverse, blank.reverse, ?_⟩
  rw [trimmed, ← List.reverse_append, ← same, List.reverse_reverse]

theorem exists_padding (text : List Char)
    : ∃ before after,
        IsBlank before ∧ IsBlank after ∧ text = before ++ trimmed text ++ after := by
  obtain ⟨before, blankBefore, same⟩ := exists_dropped text
  obtain ⟨after, blankAfter, rest⟩ := dropBlanks_eq_trimmed_append text
  refine ⟨before, after, blankBefore, blankAfter, ?_⟩
  rw [List.append_assoc, ← rest]
  exact same

theorem isTrimmed_trimmed (text : List Char) : IsTrimmed (trimmed text) where
  start := by
    obtain ⟨after, _, rest⟩ := dropBlanks_eq_trimmed_append text
    have stops := stops_dropBlanks text
    rw [rest] at stops
    cases same : trimmed text with
    | nil => exact Text.stops_nil
    | cons first core =>
        rw [same] at stops
        exact Text.stops_cons.mpr (Text.stops_cons.mp stops)
  finish := by
    rw [trimmed, List.reverse_reverse]
    exact stops_dropBlanks _

/-- Blanks around a part that neither starts nor ends with one are all that trimming takes off. -/
theorem IsTrimmed.trimmed_padded (isTrimmed : IsTrimmed core) (blankBefore : IsBlank before)
    (blankAfter : IsBlank after)
    : trimmed (before ++ core ++ after) = core := by
  cases core with
  | nil =>
      have none : dropBlanks (before ++ after) = [] :=
        List.dropWhile_eq_nil_iff.mpr (blankBefore.append blankAfter)
      rw [trimmed, List.append_nil, none]
      rfl
  | cons first rest =>
      have stops : Text.Stops Text.blank.contains ((first :: rest) ++ after) :=
        Text.stops_cons.mpr (Text.stops_cons.mp isTrimmed.start)
      rw [trimmed, List.append_assoc, dropBlanks_append blankBefore, dropBlanks_of_stops stops,
        List.reverse_append, dropBlanks_append blankAfter.reverse,
        dropBlanks_of_stops isTrimmed.finish, List.reverse_reverse]

theorem IsTrimmed.trimmed_eq (isTrimmed : IsTrimmed text) : trimmed text = text := by
  have padded := isTrimmed.trimmed_padded isBlank_nil isBlank_nil
  rwa [List.nil_append, List.append_nil] at padded

/-- What is left of a text is left of it with more blanks around it, too. -/
theorem trimmed_padded (blankBefore : IsBlank before) (blankAfter : IsBlank after)
    (text : List Char)
    : trimmed (before ++ text ++ after) = trimmed text := by
  obtain ⟨front, back, blankFront, blankBack, same⟩ := exists_padding text
  have wider
      : before ++ text ++ after = (before ++ front) ++ trimmed text ++ (back ++ after) :=
    calc before ++ text ++ after
      _ = before ++ (front ++ trimmed text ++ back) ++ after := by rw [← same]
      _ = (before ++ front) ++ trimmed text ++ (back ++ after) := by
          simp only [List.append_assoc]
  rw [wider]
  exact (isTrimmed_trimmed text).trimmed_padded (blankBefore.append blankFront)
    (blankBack.append blankAfter)

theorem trimmed_eq_nil_iff : trimmed text = [] ↔ IsBlank text := by
  constructor
  · intro none
    obtain ⟨before, after, blankBefore, blankAfter, same⟩ := exists_padding text
    rw [none, List.append_nil] at same
    rw [same]
    exact blankBefore.append blankAfter
  · intro blank
    have padded := trimmed_padded blank isBlank_nil []
    rwa [List.append_nil, List.append_nil] at padded

end Inertial.Setting
