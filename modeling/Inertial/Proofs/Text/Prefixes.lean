/-! Where one part of a text ends and the next one starts. -/

namespace Inertial.Text

/-- The text ends here, or goes on with another character than those of the part before. -/
def Stops (part : Char → Bool) (rest : List Char) : Prop :=
  ∀ character ∈ rest.head?, part character = false

section Parts

variable {part : Char → Bool}

@[simp] theorem stops_nil : Stops part [] := by simp [Stops]

@[simp] theorem stops_cons {first : Char} {rest : List Char}
    : Stops part (first :: rest) ↔ part first = false := by
  simp [Stops]

theorem takeWhile_of_stops {front rest : List Char}
    (inside : ∀ character ∈ front, part character = true) (stops : Stops part rest)
    : (front ++ rest).takeWhile part = front := by
  rw [List.takeWhile_append_of_pos inside]
  cases rest with
  | nil => simp
  | cons first rest => simp [stops_cons.mp stops]

/-- A part that is followed by something else is all that the text starts with of its kind. -/
theorem split_unique {front otherFront rest otherRest : List Char}
    (inside : ∀ character ∈ front, part character = true) (stops : Stops part rest)
    (otherInside : ∀ character ∈ otherFront, part character = true)
    (otherStops : Stops part otherRest) (same : front ++ rest = otherFront ++ otherRest)
    : front = otherFront ∧ rest = otherRest := by
  have fronts : front = otherFront := by
    rw [← takeWhile_of_stops inside stops, same, takeWhile_of_stops otherInside otherStops]
  rw [fronts] at same
  exact ⟨fronts, List.append_cancel_left same⟩

end Parts

/-- Units of which none is the start of another are told apart one by one, up to a mark that no
unit starts with.
-/
theorem flatten_unique {IsUnit : List Char → Prop} {mark : Char}
    (apart : ∀ {unit other rest otherRest : List Char},
      IsUnit unit → IsUnit other → unit ++ rest = other ++ otherRest → unit = other)
    (unmarked : ∀ {unit rest otherRest : List Char},
      IsUnit unit → unit ++ rest ≠ mark :: otherRest)
    {units others : List (List Char)} {rest otherRest : List Char}
    (areUnits : ∀ unit ∈ units, IsUnit unit) (areOthers : ∀ unit ∈ others, IsUnit unit)
    (same : units.flatten ++ mark :: rest = others.flatten ++ mark :: otherRest)
    : units = others ∧ rest = otherRest := by
  induction units generalizing others with
  | nil =>
      cases others with
      | nil => exact ⟨rfl, (List.cons.inj same).2⟩
      | cons other others =>
          rw [List.flatten_cons, List.append_assoc] at same
          exact absurd same.symm (unmarked (areOthers other List.mem_cons_self))
  | cons unit units ih =>
      obtain ⟨isUnit, further⟩ := List.forall_mem_cons.mp areUnits
      cases others with
      | nil =>
          rw [List.flatten_cons, List.append_assoc] at same
          exact absurd same (unmarked isUnit)
      | cons other others =>
          simp only [List.flatten_cons, List.append_assoc] at same
          obtain ⟨isOther, furtherOthers⟩ := List.forall_mem_cons.mp areOthers
          obtain rfl := apart isUnit isOther same
          obtain ⟨rfl, rests⟩ := ih further furtherOthers (List.append_cancel_left same)
          exact ⟨rfl, rests⟩

end Inertial.Text
