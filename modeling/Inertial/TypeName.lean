/-!
Names of types in reports. The text for a type has the path of its module in front and may have
arguments behind; reports only show the name itself.
-/

namespace Inertial

/-- The characters before the first double colon. -/
def untilColons : List Char → List Char
  | [] => []
  | ':' :: ':' :: _ => []
  | first :: rest => first :: untilColons rest

/-- What stands before the first angle bracket, and in that after the last double colon. -/
def bareTypeName (text : String) : String :=
  let base := text.toList.takeWhile (· != '<')
  -- Read from its end, the text up to the first double colon is what follows the last one.
  String.ofList (untilColons base.reverse).reverse

/-- The text stands for a type of this name: the path of a module, the name and arguments, of which
path and arguments may be missing.
-/
structure NamesType (text name : String) : Prop where
  parts
    : ∃ path arguments,
        text = path ++ name ++ arguments
        ∧ (path = "" ∨ ∃ modules, path = modules ++ "::")
        ∧ (arguments = "" ∨ ∃ rest, arguments = "<" ++ rest)
        ∧ '<' ∉ path.toList
  plain : '<' ∉ name.toList ∧ ':' ∉ name.toList

theorem untilColons_append {front rest : List Char} (plain : ':' ∉ front)
    (stops : rest = [] ∨ ∃ more, rest = ':' :: ':' :: more)
    : untilColons (front ++ rest) = front := by
  induction front with
  | nil => rcases stops with rfl | ⟨more, rfl⟩ <;> rfl
  | cons first front ih =>
      obtain ⟨different, others⟩ := not_or.mp (mt List.mem_cons.mpr plain)
      rw [List.cons_append, untilColons, ih others]
      rintro more rfl
      exact absurd rfl different

theorem NamesType.bareTypeName_eq {text name : String} (names : NamesType text name)
    : bareTypeName text = name := by
  obtain ⟨⟨path, arguments, rfl, modules, opens, plainPath⟩, plainName, noColon⟩ := names
  have base
      : (path ++ name ++ arguments).toList.takeWhile (· != '<') = path.toList ++ name.toList := by
    have before : ∀ character ∈ path.toList ++ name.toList, (character != '<') = true := by
      intro character member
      rw [bne_iff_ne]
      rintro rfl
      exact (List.mem_append.mp member).elim plainPath plainName
    rw [String.toList_append, String.toList_append, List.takeWhile_append_of_pos before]
    rcases opens with rfl | ⟨rest, rfl⟩
    · simp
    · simp [String.toList_append]
  have stops : path.toList.reverse = [] ∨ ∃ more, path.toList.reverse = ':' :: ':' :: more := by
    rcases modules with rfl | ⟨modules, rfl⟩
    · exact .inl rfl
    · exact .inr ⟨modules.toList.reverse, by simp [String.toList_append]⟩
  have reversed : ':' ∉ name.toList.reverse := mt List.mem_reverse.mp noColon
  rw [bareTypeName, base, List.reverse_append, untilColons_append reversed stops,
    List.reverse_reverse, String.ofList_toList]

end Inertial
