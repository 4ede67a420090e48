import Inertial.NameMap

/-! Names are listed in the byte-wise order of their UTF-8 encodings, each with its own value. -/

namespace Inertial

/-- The comparison of byte strings is their lexicographic order, by induction on both. -/
theorem compare_bytes_lt (left right : List UInt8)
    : compare left right = .lt ↔ left < right := by
  induction left generalizing right with
  | nil =>
      cases right with
      | nil => simp
      | cons last rest => simp
  | cons first rest ih =>
      cases right with
      | nil => simp
      | cons last others =>
          rw [List.compare_eq_compareLex, List.compareLex_cons_cons, Ordering.then_eq_lt,
            ← List.compare_eq_compareLex, ih, List.cons_lt_cons_iff, Std.compare_eq_lt,
            Std.LawfulEqCmp.compare_eq_iff_eq]

theorem nameOrder_lt (left right : String)
    : nameOrder left right = .lt ↔ Text.utf8Bytes left < Text.utf8Bytes right :=
  compare_bytes_lt (Text.utf8Bytes left) (Text.utf8Bytes right)

namespace NameMap

variable {Value : Type}

theorem keys_increasing (map : NameMap Value)
    : map.keys.Pairwise fun left right => Text.utf8Bytes left < Text.utf8Bytes right :=
  map.ordered_keys.imp fun less => (nameOrder_lt _ _).mp less

theorem values_eq_map_snd (map : NameMap Value) : map.values = map.toList.map Prod.snd := by
  obtain ⟨inner⟩ := map
  induction inner using Std.ExtDTreeMap.inductionOn with
  | _ tree =>
      change tree.inner.values = (Std.DTreeMap.Internal.Impl.Const.toList tree.inner).map Prod.snd
      rw [Std.DTreeMap.Internal.Impl.values_eq_map_snd,
        Std.DTreeMap.Internal.Impl.Const.toList_eq_toListModel_map]
      simp

end NameMap

end Inertial
