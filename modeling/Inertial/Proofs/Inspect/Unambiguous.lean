import Inertial.Proofs.Inspect.Legible
import Inertial.Proofs.NameOrder
import Inertial.Proofs.Registry.LastOperation
import Mathlib.Data.List.TFAE
import Mathlib.Tactic.IntervalCases
import Mathlib.Tactic.TFAE

/-!
The texts of registries for people who debug are unambiguous: registries have the same text exactly
when they hold the same sensors with the same numbers.
-/

namespace Inertial

open Text (Outline)

-----------------------------------------------------------------------------------------
-- What a text shows
-----------------------------------------------------------------------------------------

/-- The same pattern, all patterns of NaN being taken for one. -/
def Double.Same (left right : Double) : Prop :=
  left = right ∨ (left.isNaN = true ∧ right.isNaN = true)

/-- The same channels, with the same number in every cell. -/
def Reading.Same (left right : Reading) : Prop :=
  ∀ channel,
    Option.Rel
      (fun values others => ∀ index : Fin channel.size, (values.get index).Same (others.get index))
      (left.get channel) (right.get channel)

/-- The same names in the same order, and under each name the same frame and the same reading. -/
def Registry.ShowsSame (registry : Registry) (memory : Memory) (other : Registry)
    (otherMemory : Memory)
    : Prop :=
  registry.names = other.names
  ∧ ∀ name : String,
      Option.Rel
        (fun sensor otherSensor : Handle =>
          sensor.frame = otherSensor.frame
          ∧ (sensor.read memory).Same (otherSensor.read otherMemory))
        registry.handles[name]? other.handles[name]?

-----------------------------------------------------------------------------------------
-- Equal outlines
-----------------------------------------------------------------------------------------

theorem Text.quoted_inj {left right : String} : quoted left = quoted right ↔ left = right :=
  ⟨fun same => (quoted_unique (congrArg (· ++ []) same)).1, fun same => by rw [same]⟩

section Related

variable {Value Other Result : Type} (shown : Value → Result) (otherShown : Other → Result)

theorem map_eq_map_iff_rel (value : Option Value) (other : Option Other)
    : value.map shown = other.map otherShown
      ↔ Option.Rel (fun value other => shown value = otherShown other) value other := by
  cases value <;> cases other <;> simp

theorem rel_map_map (related : Result → Result → Prop) (value : Option Value)
    (other : Option Other)
    : Option.Rel related (value.map shown) (other.map otherShown)
      ↔ Option.Rel (fun value other => related (shown value) (otherShown other)) value other := by
  cases value <;> cases other <;> simp

theorem map_toList_iff {size : ℕ} (values : Vector Value size) (others : Vector Other size)
    : values.toList.map shown = others.toList.map otherShown
      ↔ ∀ index : Fin size, shown values[index] = otherShown others[index] := by
  rw [← Vector.toList_map, ← Vector.toList_map, Vector.toList_inj]
  constructor
  · intro same index
    simpa using congrArg (·[index]) same
  · intro same
    ext index bound
    simpa using same ⟨index, bound⟩

end Related

namespace Text.Outline

theorem list_inj {items others : List Outline} : list items = list others ↔ items = others := by
  simp [list]

theorem tuple_inj {name : String} {items others : List Outline}
    : tuple name items = tuple name others ↔ items = others := by
  simp [tuple]

theorem record_inj {name : String} {items others : List Outline}
    : record name items = record name others ↔ items = others := by
  simp [record]

theorem field_inj {label : String} {value other : Outline}
    : field label value = field label other ↔ value = other := by
  simp [field]

theorem optional_inj {value other : Option Outline}
    : optional value = optional other ↔ value = other := by
  cases value <;> cases other <;> simp [optional, word, tuple]

end Text.Outline

namespace Inspect

open Text.Outline

theorem number_iff (left right : Double) : number left = number right ↔ left.Same right := by
  rw [number, number, Outline.leaf.injEq]
  refine ⟨Double.render_injective, ?_⟩
  rintro (same | ⟨leftNaN, rightNaN⟩)
  · rw [same]
  · rw [Double.render, if_pos leftNaN, Double.render, if_pos rightNaN]

theorem numbers_iff {size : ℕ} (left right : Vector Double size)
    : numbers left = numbers right ↔ ∀ index : Fin size, left[index].Same right[index] := by
  rw [numbers, numbers, list_inj, map_toList_iff]
  simp only [number_iff]

theorem text_iff (left right : String) : text left = text right ↔ left = right := by
  rw [text, text, Outline.leaf.injEq, Text.quoted_inj]

/-- The nine entries of a matrix are those of its three rows. -/
theorem covariance_iff (left right : Vector Double 9)
    : covariance ⟨left⟩ = covariance ⟨right⟩
      ↔ ∀ index : Fin 9, left[index].Same right[index] := by
  rw [covariance, covariance, tuple_inj, List.singleton_inj, list_inj, map_toList_iff]
  simp only [numbers_iff, Covariance.rows, Covariance.entry, Fin.getElem_fin, Vector.getElem_ofFn]
  constructor
  · intro same index
    have bound := index.isLt
    have split : 3 * (index.val / 3) + index.val % 3 = index.val := Nat.div_add_mod index.val 3
    simpa only [split] using same ⟨index.val / 3, by omega⟩ ⟨index.val % 3, by omega⟩
  · intro same row column
    exact same ⟨3 * row.val + column.val, by omega⟩

theorem view_iff (shape : Shape) (left right : Vector Double shape.size)
    : view shape left = view shape right
      ↔ ∀ index : Fin shape.size, left[index].Same right[index] := by
  cases shape with
  | quaternion =>
      have whole (values : Vector Double 4) : (Quaternion.ofVector values).toVector = values := by
        ext index bound
        interval_cases index <;> rfl
      rw [view, view, quaternion, quaternion, tuple_inj, List.singleton_inj, whole, whole,
        numbers_iff]
  | vector =>
      have whole (values : Vector Double 3) : (Vector3.ofVector values).toVector = values := by
        ext index bound
        interval_cases index <;> rfl
      rw [view, view, vector, vector, tuple_inj, List.singleton_inj, whole, whole, numbers_iff]
  | covariance => exact covariance_iff left right

theorem channels_iff (left right : Channel → Outline)
    : channels left = channels right ↔ ∀ channel, left channel = right channel := by
  simp only [channels, List.map_inj_left, field_inj, Channel.mem_all, true_implies]

theorem get_read (sensor : Handle) (memory : Memory) (channel : Channel)
    : (sensor.read memory).get channel = (sensor.get channel).map memory.load :=
  PerChannel.get_map _ _ channel

theorem viewed_iff (memory otherMemory : Memory) (sensor other : Handle) (channel : Channel)
    : (sensor.get channel).map (fun buffer => view channel.shape (memory.load buffer))
        = (other.get channel).map (fun buffer => view channel.shape (otherMemory.load buffer))
      ↔ Option.Rel
          (fun values others =>
            ∀ index : Fin channel.size, (values.get index).Same (others.get index))
          ((sensor.read memory).get channel) ((other.read otherMemory).get channel) := by
  rw [map_eq_map_iff_rel, get_read, get_read, rel_map_map]
  simp only [view_iff]
  exact Iff.rfl

/-- A handle shows what it is called, what it reads, and its mask. -/
theorem handle_iff (memory otherMemory : Memory) (sensor other : Handle)
    : handle memory sensor = handle otherMemory other
      ↔ sensor.name = other.name
        ∧ sensor.frame = other.frame
        ∧ (sensor.read memory).Same (other.read otherMemory)
        ∧ mask sensor.capabilities = mask other.capabilities := by
  rw [handle, handle, record_inj, List.append_singleton_inj, List.cons.injEq, List.cons.injEq,
    field_inj, field_inj, field_inj, text_iff, text_iff, channels_iff]
  simp only [optional_inj, viewed_iff, and_assoc]
  rfl

/-- Entries are equal when their keys and what is shown of their values are, by induction. -/
theorem entries_iff {Value Other : Type} (shown : Value → Outline) (otherShown : Other → Outline)
    (entries : List (String × Value)) (others : List (String × Other))
    : entries.map (fun (name, value) => .entry (Text.quoted name) (shown value))
        = others.map (fun (name, value) => Outline.entry (Text.quoted name) (otherShown value))
      ↔ entries.map Prod.fst = others.map Prod.fst
        ∧ entries.map (fun entry => shown entry.2)
          = others.map (fun entry => otherShown entry.2) := by
  induction entries generalizing others with
  | nil => cases others <;> simp
  | cons entry entries ih =>
      cases others with
      | nil => simp
      | cons other others =>
          simp only [List.map_cons, List.cons.injEq, Outline.entry.injEq, Text.quoted_inj, ih]
          tauto

theorem map_names (sensors : Registry) (shown : Handle → Outline)
    : sensors.names.map (fun name => sensors.handles[name]?.map shown)
      = (sensors.handles.toList.map fun entry => shown entry.2).map some := by
  rw [Registry.names, ← Std.ExtTreeMap.map_fst_toList_eq_keys, List.map_map, List.map_map]
  apply List.map_congr_left
  rintro ⟨name, sensor⟩ member
  have found := Std.ExtTreeMap.mem_toList_iff_getElem?_eq_some.mp member
  simp only [Function.comp_apply, found, Option.map_some]

theorem getElem?_eq_none {sensors : Registry} {name : String} (absent : name ∉ sensors.names)
    : sensors.handles[name]? = none := by
  rw [Registry.names, Std.ExtTreeMap.mem_keys] at absent
  exact Std.ExtTreeMap.getElem?_eq_none absent

/-- A registry shows its names in order, and the handle under each of them. -/
theorem registry_iff (memory otherMemory : Memory) (sensors others : Registry)
    : registry memory sensors = registry otherMemory others
      ↔ sensors.names = others.names
        ∧ ∀ name : String,
            sensors.handles[name]?.map (handle memory)
              = others.handles[name]?.map (handle otherMemory) := by
  have names (registry : Registry) : registry.handles.toList.map Prod.fst = registry.names :=
    Std.ExtTreeMap.map_fst_toList_eq_keys
  rw [registry, registry, record_inj, List.singleton_inj, field_inj, dictionary, dictionary,
    Outline.group.injEq]
  simp only [true_and, entries_iff, names]
  refine and_congr_right fun sameNames => ?_
  rw [← List.map_inj_right (fun _ _ => Option.some.inj), ← map_names, ← map_names, sameNames,
    List.map_inj_left]
  refine ⟨fun listed name => ?_, fun all name _ => all name⟩
  by_cases known : name ∈ others.names
  · exact listed name known
  · rw [getElem?_eq_none known, getElem?_eq_none (sameNames ▸ known)]
    rfl

end Inspect

-----------------------------------------------------------------------------------------
-- Equal texts
-----------------------------------------------------------------------------------------

namespace Registry

/-- Handles are called as they are found, and their masks follow from what they read. -/
theorem handle_iff_of_found {operations others : List Operation} {memory otherMemory : Memory}
    {name : String} {sensor other : Handle}
    (found : (after operations).handles[name]? = some sensor)
    (otherFound : (after others).handles[name]? = some other)
    : Inspect.handle memory sensor = Inspect.handle otherMemory other
      ↔ sensor.frame = other.frame ∧ (sensor.read memory).Same (other.read otherMemory) := by
  have names : sensor.name = other.name :=
    (found_name operations found).trans (found_name others otherFound).symm
  rw [handles_after, Option.map_eq_some_iff] at found otherFound
  obtain ⟨descriptor, _, rfl⟩ := found
  obtain ⟨otherDescriptor, _, rfl⟩ := otherFound
  rw [Inspect.handle_iff]
  refine ⟨fun ⟨_, frames, readings, _⟩ => ⟨frames, readings⟩, fun ⟨frames, readings⟩ => ?_⟩
  have present (channel : Channel)
      : (descriptor.get channel).isSome = (otherDescriptor.get channel).isSome := by
    have same := rel_isSome (readings channel)
    rwa [Inspect.get_read, Inspect.get_read, Option.isSome_map, Option.isSome_map] at same
  have masks : Handle.presentChannels descriptor.toPerChannel
      = Handle.presentChannels otherDescriptor.toPerChannel := by
    simp only [Handle.presentChannels, present]
  exact ⟨names, frames, readings, congrArg Inspect.mask masks⟩

theorem registry_iff_showsSame (operations others : List Operation) (memory otherMemory : Memory)
    : Inspect.registry memory (after operations) = Inspect.registry otherMemory (after others)
      ↔ (after operations).ShowsSame memory (after others) otherMemory := by
  rw [Inspect.registry_iff, ShowsSame]
  refine and_congr_right fun _ => forall_congr' fun name => ?_
  rw [map_eq_map_iff_rel]
  cases found : (after operations).handles[name]? with
  | none => cases (after others).handles[name]? <;> simp
  | some sensor =>
      cases otherFound : (after others).handles[name]? with
      | none => simp
      | some other => simpa using handle_iff_of_found found otherFound

/-- Registries have the same compact text exactly when they have the same indented one, and exactly
when they hold the same sensors with the same numbers, whatever characters the names and frames
have.
-/
theorem inspected_unambiguously (operations others : List Operation) (memory otherMemory : Memory)
    : List.TFAE
        [(Inspect.registry memory (after operations)).render false
            = (Inspect.registry otherMemory (after others)).render false,
          (Inspect.registry memory (after operations)).render true
            = (Inspect.registry otherMemory (after others)).render true,
          (after operations).ShowsSame memory (after others) otherMemory] := by
  have injective (pretty : Bool) :=
    (Inspect.legible_registry memory (after operations)).render_injective
      (Inspect.legible_registry otherMemory (after others)) pretty
  have shows := registry_iff_showsSame operations others memory otherMemory
  tfae_have 1 → 3 := fun same => shows.mp (injective false same)
  tfae_have 2 → 3 := fun same => shows.mp (injective true same)
  tfae_have 3 → 1 := fun same => by rw [shows.mpr same]
  tfae_have 3 → 2 := fun same => by rw [shows.mpr same]
  tfae_finish

end Registry

end Inertial
