import Inertial.Proofs.Double.Spacing

/-! The shortest decimals of doubles tell all of them apart, except for the patterns of NaN. -/

namespace Inertial.Double

-----------------------------------------------------------------------------------------
-- The shortest decimal reads back
-----------------------------------------------------------------------------------------

theorem quarters_exact (units : ℕ)
    : quarters (Decimal.mk (units * Nat.pow 5 1074) (-1074)).value = 4 * units := by
  have negated : (-1074 : ℤ) = -((1074 : ℕ) : ℤ) := rfl
  rw [quarters, Decimal.value, unitsPerOne_cast, negated]
  generalize 1074 = power
  rw [zpow_neg, zpow_natCast, Nat.pow_eq, Nat.cast_mul, Nat.cast_pow, Nat.cast_ofNat,
    show (10 : ℚ) = 5 * 2 by norm_num, mul_pow]
  field_simp

/-- A number lies between its own midpoints, and on none of them unless it is zero. -/
theorem exactDecimal_readsBack (number : Double) : number.ReadsBack number.exactDecimal.value := by
  have spacing : 0 < Nat.pow 2 number.shift := Nat.pow_pos (by decide)
  have upper : 4 * number.units < number.upperMidpoint := by
    unfold upperMidpoint
    omega
  have lower : number.lowerMidpoint ≤ 4 * number.units := by
    unfold lowerMidpoint
    split <;> omega
  have apart (odd : number.mantissa % 2 ≠ 0) : number.lowerMidpoint ≠ 4 * number.units := by
    have positive : 0 < number.units := Nat.mul_pos (by omega) spacing
    unfold lowerMidpoint
    split <;> omega
  rw [exactDecimal]
  refine ⟨?_, ?_, fun odd => ⟨?_, ?_⟩⟩
  · rw [quarters_exact]
    exact_mod_cast lower
  · rw [quarters_exact]
    exact_mod_cast upper.le
  · rw [quarters_exact]
    exact_mod_cast apart odd
  · rw [quarters_exact]
    exact_mod_cast upper.ne

theorem zero_readsBack {number : Double} (zero : number.isZero = true)
    : number.ReadsBack (Decimal.mk 0 0).value := by
  obtain ⟨exponent, fraction⟩ := Bool.and_eq_true_iff.mp zero
  have exponent := eq_of_beq exponent
  have fraction := eq_of_beq fraction
  have mantissa : number.mantissa = 0 := by rw [mantissa, if_pos exponent, fraction]
  have shift : number.shift = 0 := by rw [shift, exponent]
  have none : quarters (Decimal.mk 0 0).value = 0 := by
    rw [quarters, Decimal.value, Nat.cast_zero, zero_mul, zero_mul]
  refine ⟨?_, ?_, fun odd => absurd (by rw [mantissa]) odd⟩
  · rw [none, lowerMidpoint, units, mantissa, shift]
    simp
  · rw [none]
    exact Nat.cast_nonneg _

theorem shortest_readsBack (number : Double) : number.ReadsBack number.shortest.value := by
  unfold shortest
  split
  · next zero => exact zero_readsBack zero
  · rw [Decimal.normalize_value]
    cases found : (List.range 17).findSome? fun (further : ℕ) =>
        number.neighbour? (number.leadingExponent - further) with
    | none => exact number.exactDecimal_readsBack
    | some decimal =>
        obtain ⟨further, _, neighbour⟩ := List.exists_of_findSome?_eq_some found
        exact (number.readsBack_iff decimal).mp (List.find?_some neighbour)

-----------------------------------------------------------------------------------------
-- The written number reads back
-----------------------------------------------------------------------------------------

/-- What is written behind the sign. -/
def body (style : DecimalStyle) (number : Double) : List Char :=
  if number.isFinite then number.shortest.render style else "inf".toList

theorem render_eq {style : DecimalStyle} {number : Double} (isNumber : number.isNaN = false)
    : number.render style = number.sign ++ number.body style := by
  rw [render, isNumber]
  rfl

theorem exists_first_body (style : DecimalStyle) (number : Double)
    : ∃ first rest,
        number.body style = first :: rest
        ∧ first.isDigit = number.isFinite
        ∧ first ∉ ['-', 'N'] := by
  unfold body
  split
  · next finite =>
      obtain ⟨first, rest, same, isDigit⟩ := Decimal.exists_first_render style number.shortest
      refine ⟨first, rest, same, isDigit.trans finite.symm, fun letter => ?_⟩
      rcases List.mem_pair.mp letter with rfl | rfl <;> cases isDigit
  · next infinite => exact ⟨'i', _, rfl, by simp [infinite], by decide⟩

theorem infinite_magnitudeBits {number : Double} (isNumber : number.isNaN = false)
    (infinite : number.isFinite = false)
    : number.magnitudeBits = 2 ^ 52 * 2047 := by
  have exponent : number.exponentField = 2047 := bne_eq_false_iff_eq.mp infinite
  have fraction : number.fraction = 0 := by simpa [isNaN, exponent] using isNumber
  rw [exponentField_eq] at exponent
  rw [fraction_eq] at fraction
  omega

/-- The magnitude can be read off the text behind the sign. -/
theorem magnitudeBits_eq {style : DecimalStyle} {left right : Double}
    (leftNumber : left.isNaN = false) (rightNumber : right.isNaN = false)
    (same : left.body style = right.body style)
    : left.magnitudeBits = right.magnitudeBits := by
  have finite : left.isFinite = right.isFinite := by
    obtain ⟨first, rest, starts, isDigit, _⟩ := exists_first_body style left
    obtain ⟨otherFirst, otherRest, otherStarts, otherIsDigit, _⟩ := exists_first_body style right
    rw [starts, otherStarts] at same
    rw [← isDigit, ← otherIsDigit, (List.cons.inj same).1]
  unfold body at same
  cases leftFinite : left.isFinite with
  | true =>
      rw [← finite, leftFinite, if_pos rfl, if_pos rfl] at same
      have values : left.shortest.value = right.shortest.value := by
        rw [← Decimal.readMagnitude_render style, same, Decimal.readMagnitude_render]
      exact left.shortest_readsBack.unique (values ▸ right.shortest_readsBack)
  | false =>
      rw [infinite_magnitudeBits leftNumber leftFinite,
        infinite_magnitudeBits rightNumber (finite ▸ leftFinite)]

/-- Neither a sign nor what stands behind it is taken for the word of NaN. -/
theorem render_ne_nan (style : DecimalStyle) {number : Double} (isNumber : number.isNaN = false)
    : number.render style ≠ "NaN".toList := by
  obtain ⟨first, rest, starts, _, apart⟩ := exists_first_body style number
  rw [render_eq isNumber, starts, sign]
  split
  · intro nan
    cases (List.cons.inj nan).1
  · intro nan
    exact apart ((List.cons.inj nan).1 ▸ by decide)

/-- The sign can be read off the text, because nothing behind it starts with one. -/
theorem sign_unique {style : DecimalStyle} {left right : Double}
    (same : left.sign ++ left.body style = right.sign ++ right.body style)
    : left.isNegative = right.isNegative ∧ left.body style = right.body style := by
  obtain ⟨first, rest, starts, _, apart⟩ := exists_first_body style left
  obtain ⟨otherFirst, otherRest, otherStarts, _, otherApart⟩ := exists_first_body style right
  unfold sign at same
  cases leftSign : left.isNegative <;> cases rightSign : right.isNegative <;>
    simp only [leftSign, rightSign, Bool.false_eq_true, if_true, if_false, List.nil_append] at same
  · exact ⟨rfl, same⟩
  · rw [starts] at same
    exact absurd ((List.cons.inj same).1 ▸ List.mem_cons_self) apart
  · rw [otherStarts] at same
    exact absurd ((List.cons.inj same).1 ▸ List.mem_cons_self) otherApart
  · exact ⟨rfl, List.append_cancel_left same⟩

/-- Equal texts are those of equal patterns, or of two that are NaN. -/
theorem render_injective {style : DecimalStyle} {left right : Double}
    (same : left.render style = right.render style)
    : left = right ∨ (left.isNaN = true ∧ right.isNaN = true) := by
  have nan {number : Double} (isNaN : number.isNaN = true)
      : number.render style = "NaN".toList := by
    rw [render, if_pos isNaN]
  cases leftNaN : left.isNaN with
  | true =>
      cases rightNaN : right.isNaN with
      | true => exact .inr ⟨rfl, rfl⟩
      | false => exact absurd (same.symm.trans (nan leftNaN)) (render_ne_nan style rightNaN)
  | false =>
      cases rightNaN : right.isNaN with
      | true => exact absurd (same.trans (nan rightNaN)) (render_ne_nan style leftNaN)
      | false =>
          rw [render_eq leftNaN, render_eq rightNaN] at same
          obtain ⟨signs, bodies⟩ := sign_unique same
          exact .inl (eq_of_magnitudeBits signs (magnitudeBits_eq leftNaN rightNaN bodies))

theorem mem_render {style : DecimalStyle} {number : Double} {character : Char}
    (member : character ∈ number.render style)
    : character.isDigit = true ∨ character ∈ ['.', 'e', '-', 'N', 'a', 'i', 'n', 'f'] := by
  cases isNaN : number.isNaN with
  | true =>
      rw [render, if_pos isNaN] at member
      exact .inr ((by decide : "NaN".toList ⊆ ['.', 'e', '-', 'N', 'a', 'i', 'n', 'f']) member)
  | false =>
      rw [render_eq isNaN, sign, body] at member
      rcases List.mem_append.mp member with minus | rest
      · split at minus
        · exact .inr (by simp [List.mem_singleton.mp minus])
        · cases minus
      · split at rest
        · exact (Decimal.mem_render rest).imp_right fun mark =>
            (by decide : ['.', 'e', '-'] ⊆ ['.', 'e', '-', 'N', 'a', 'i', 'n', 'f']) mark
        · exact .inr ((by decide : "inf".toList ⊆ ['.', 'e', '-', 'N', 'a', 'i', 'n', 'f']) rest)

theorem render_ne_nil (style : DecimalStyle) (number : Double) : number.render style ≠ [] := by
  cases isNaN : number.isNaN with
  | true => simp [render, isNaN]
  | false =>
      obtain ⟨first, rest, starts, _⟩ := exists_first_body style number
      simp [render_eq isNaN, starts]

end Inertial.Double
