import Inertial.Proofs.Text.Escaping
import Inertial.Text.Outline

/-!
Outlines can be read back from their texts. The compact and the indented layout differ only in what
stands before, between and after the items of a group, so both are read in the same way.
-/

namespace Inertial.Text

-----------------------------------------------------------------------------------------
-- Layouts
-----------------------------------------------------------------------------------------

/-- The space inside the signs of a spaced group. -/
def Bracket.space (bracket : Bracket) : List Char := if bracket.spaced then [' '] else []

/-- What stands around the items of a group, after its opening sign and up to its closing sign. -/
structure Layout where
  empty : Bracket → List Char
  before : Bracket → (level : Nat) → List Char
  between : (level : Nat) → List Char
  after : Bracket → (level : Nat) → List Char

namespace Layout

open Outline (indentation)

def compact : Layout where
  empty bracket := bracket.space ++ bracket.space ++ [bracket.closing]
  before bracket _ := bracket.space
  between _ := [',', ' ']
  after bracket _ := bracket.space ++ [bracket.closing]

def indented : Layout where
  empty bracket := [bracket.closing]
  before _ level := '\n' :: indentation (level + 1)
  between level := ',' :: '\n' :: indentation (level + 1)
  after bracket level := ',' :: '\n' :: indentation level ++ [bracket.closing]

variable (layout : Layout)

mutual

def text (level : Nat) : Outline → List Char
  | .leaf text => text
  | .entry key value => key ++ ':' :: ' ' :: text level value
  | .group heading bracket [] => heading ++ bracket.opening :: layout.empty bracket
  | .group heading bracket (first :: rest) =>
      heading ++ bracket.opening :: layout.before bracket level ++ text (level + 1) first
        ++ further level bracket rest

/-- What follows behind the first item of a group. -/
def further (level : Nat) (bracket : Bracket) : List Outline → List Char
  | [] => layout.after bracket level
  | next :: rest =>
      layout.between level ++ text (level + 1) next ++ further level bracket rest

end

mutual

/-- By induction on the outline, and on the items of each group from the first one on. -/
theorem compact_text
    : (outline : Outline) → (level : Nat) → compact.text level outline = outline.compact
  | .leaf _, _ => rfl
  | .entry key value, level => by rw [Outline.compact, text, compact_text value level]
  | .group heading bracket [], level => by
      simp [Outline.compact, text, Outline.compactItems, compact, Bracket.space]
  | .group heading bracket (first :: rest), level => by
      have items := compact_further rest level bracket first
      rw [Outline.compact, text, compact_text first, List.append_assoc, ← items]
      simp [compact, Bracket.space]

theorem compact_further
    : (rest : List Outline) → (level : Nat) → (bracket : Bracket) → (first : Outline)
      → Outline.compactItems (first :: rest) ++ (bracket.space ++ [bracket.closing])
        = first.compact ++ compact.further level bracket rest
  | [], level, bracket, first => rfl
  | next :: rest, level, bracket, first => by
      have items := compact_further rest level bracket next
      rw [Outline.compactItems, further, compact_text next, List.append_assoc, List.append_assoc,
        List.cons_append, List.cons_append, items]
      rfl

end

mutual

theorem indented_text
    : (outline : Outline) → (level : Nat) → indented.text level outline = outline.indented level
  | .leaf _, _ => rfl
  | .entry key value, level => by rw [Outline.indented, text, indented_text value level]
  | .group heading bracket [], level => rfl
  | .group heading bracket (first :: rest), level => by
      have items := indented_further rest level bracket
      rw [Outline.indented, text, indented_text first, Outline.indentedItems]
      simp only [List.append_assoc, List.cons_append] at items ⊢
      rw [← items]
      rfl

theorem indented_further
    : (rest : List Outline) → (level : Nat) → (bracket : Bracket)
      → ',' :: '\n' :: Outline.indentedItems (level + 1) rest
          ++ (indentation level ++ [bracket.closing])
        = indented.further level bracket rest
  | [], level, bracket => rfl
  | next :: rest, level, bracket => by
      have items := indented_further rest level bracket
      rw [Outline.indentedItems, further, indented_text next, ← items]
      simp [indented]

end

end Layout

end Inertial.Text
