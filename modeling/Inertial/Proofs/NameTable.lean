import Inertial.NameMap
import Mathlib.Logic.Function.Basic

/-!
Tables: what stands under each name, as a plain function. A map tracks a table when both have
entries under the same names and the entries are related.
-/

namespace Inertial

abbrev NameTable (Entry : Type) := String → Option Entry

section Related

variable {Value Entry : Type} {relation weaker : Value → Entry → Prop}

theorem rel_some_left {value : Value} {entry : Option Entry}
    : Option.Rel relation (some value) entry
      ↔ ∃ found, entry = some found ∧ relation value found := by
  constructor
  · intro related
    cases related with
    | some related => exact ⟨_, rfl, related⟩
  · rintro ⟨found, rfl, related⟩
    exact .some related

theorem rel_some_right {value : Option Value} {entry : Entry}
    : Option.Rel relation value (some entry)
      ↔ ∃ found, value = some found ∧ relation found entry := by
  constructor
  · intro related
    cases related with
    | some related => exact ⟨_, rfl, related⟩
  · rintro ⟨found, rfl, related⟩
    exact .some related

theorem rel_none_left {entry : Option Entry}
    : Option.Rel relation none entry ↔ entry = none := by
  constructor
  · intro related
    cases related
    rfl
  · rintro rfl
    exact .none

theorem rel_mono
    (weaken : ∀ value entry, relation value entry → weaker value entry)
    {value : Option Value} {entry : Option Entry} (related : Option.Rel relation value entry)
    : Option.Rel weaker value entry := by
  cases related with
  | some related => exact .some (weaken _ _ related)
  | none => exact .none

theorem rel_swap {swapped : Entry → Value → Prop}
    (swap : ∀ value entry, relation value entry → swapped entry value)
    {value : Option Value} {entry : Option Entry} (related : Option.Rel relation value entry)
    : Option.Rel swapped entry value := by
  cases related with
  | some related => exact .some (swap _ _ related)
  | none => exact .none

theorem rel_comp {Result : Type} {next : Entry → Result → Prop} {composed : Value → Result → Prop}
    (compose
      : ∀ value entry result, relation value entry → next entry result → composed value result)
    {value : Option Value} {entry : Option Entry} {result : Option Result}
    (former : Option.Rel relation value entry) (latter : Option.Rel next entry result)
    : Option.Rel composed value result := by
  cases former with
  | some former =>
      cases latter with
      | some latter => exact .some (compose _ _ _ former latter)
  | none =>
      cases latter with
      | none => exact .none

theorem rel_isSome {value : Option Value} {entry : Option Entry}
    (related : Option.Rel relation value entry)
    : value.isSome = entry.isSome := by
  cases related <;> rfl

end Related

namespace NameMap

variable {Value Entry : Type} {relation : Value → Entry → Prop}

def Tracks (relation : Value → Entry → Prop) (map : NameMap Value) (table : NameTable Entry)
    : Prop :=
  ∀ name, Option.Rel relation map[name]? (table name)

theorem getElem?_insert (map : NameMap Value) (key : String) (value : Value) (name : String)
    : (map.insert key value)[name]? = if key = name then some value else map[name]? := by
  rw [Std.ExtTreeMap.getElem?_insert]
  simp only [Std.LawfulEqCmp.compare_eq_iff_eq]

theorem getElem?_erase (map : NameMap Value) (key name : String)
    : (map.erase key)[name]? = if key = name then none else map[name]? := by
  rw [Std.ExtTreeMap.getElem?_erase]
  simp only [Std.LawfulEqCmp.compare_eq_iff_eq]

theorem tracks_empty : Tracks relation ∅ fun _ => none := by
  intro name
  simp [rel_none_left]

theorem Tracks.insert
    {map : NameMap Value} {table : NameTable Entry} (tracks : Tracks relation map table)
    (key : String) {value : Value} {entry : Entry} (related : relation value entry)
    : Tracks relation (map.insert key value) (Function.update table key (some entry)) := by
  intro name
  rw [getElem?_insert]
  by_cases same : key = name
  · subst name
    rw [if_pos rfl, Function.update_self]
    exact .some related
  · rw [if_neg same, Function.update_of_ne (Ne.symm same)]
    exact tracks name

theorem Tracks.erase
    {map : NameMap Value} {table : NameTable Entry} (tracks : Tracks relation map table)
    (key : String)
    : Tracks relation (map.erase key) (Function.update table key none) := by
  intro name
  rw [getElem?_erase]
  by_cases same : key = name
  · subst name
    rw [if_pos rfl, Function.update_self]
    exact .none
  · rw [if_neg same, Function.update_of_ne (Ne.symm same)]
    exact tracks name

/-- An entry of the table may change as long as the value in the map is related to the new one. -/
theorem Tracks.update
    {map : NameMap Value} {table : NameTable Entry} (tracks : Tracks relation map table)
    {key : String} {value : Value} (found : map[key]? = some value) {entry : Entry}
    (related : relation value entry)
    : Tracks relation map (Function.update table key (some entry)) := by
  intro name
  by_cases same : name = key
  · subst name
    rw [found, Function.update_self]
    exact .some related
  · rw [Function.update_of_ne same]
    exact tracks name

theorem Tracks.mono
    {map : NameMap Value} {table : NameTable Entry} (tracks : Tracks relation map table)
    {weaker : Value → Entry → Prop}
    (weaken : ∀ value entry, relation value entry → weaker value entry)
    : Tracks weaker map table :=
  fun name => rel_mono weaken (tracks name)

/-- An entry of the map is related to the entry of the table under the same name. -/
theorem Tracks.entry
    {map : NameMap Value} {table : NameTable Entry} (tracks : Tracks relation map table)
    {name : String} {value : Value} (found : map[name]? = some value)
    : ∃ entry, table name = some entry ∧ relation value entry :=
  rel_some_left.mp (found ▸ tracks name)

theorem Tracks.absent
    {map : NameMap Value} {table : NameTable Entry} (tracks : Tracks relation map table)
    {name : String} (missing : map[name]? = none)
    : table name = none :=
  rel_none_left.mp (missing ▸ tracks name)

end NameMap

end Inertial
