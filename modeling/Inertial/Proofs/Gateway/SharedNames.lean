import Inertial.Proofs.Gateway.Provenance
import Inertial.Proofs.Text.FaithfulDecoding
import Inertial.Proofs.Text.ZeroBytes

/-! Which raw names share an entry of a registry. Two do exactly when they decode to one text, so a
name that is well formed and has no replacement character shares its entry with no other.
-/

namespace Inertial.Gateway

/-- The record names its sensor by these bytes, and its arrays all exist and are long enough. -/
structure Describes (gateway : Gateway) (record : SensorRecord) (raw : List UInt8)
    (sensor : Descriptor)
    : Prop where
  named : record.name = some raw
  given : gateway.descriptor? record raw = some sensor

/-- A look-up by these bytes finds the sensor, with its name, its frame and its buffers. -/
def Finds (gateway : Gateway) (reference : String) (raw : List UInt8) (sensor : Descriptor)
    : Prop :=
  ∃ handle : Handle,
    (gateway.lookup (some reference) (some raw)).result = .ok handle ∧ handle.Represents sensor

/-- How many sensors a registry in use has. -/
def sizeOf? (gateway : Gateway) (reference : String) : Option Nat :=
  gateway.registries[reference]?.map Registry.size

/-- The last registration took the place of the one under these bytes: the registry has not grown by
it, and the bytes lead to its sensor.
-/
structure Displaces (before after : Gateway) (reference : String) (raw : List UInt8)
    (sensor : Descriptor)
    : Prop where
  size : after.sizeOf? reference = before.sizeOf? reference
  found : after.Finds reference raw sensor

/-- The call registers a sensor under these bytes, up to the first zero byte. -/
def Call.Registers (reference : String) (raw : List UInt8) : Call → Prop
  | register (some other) (some record) =>
      other = reference ∧ record.name.map Text.untilZero = some raw
  | _ => False

/-- A call names the place of a sensor by ending or making its registry, or by bytes with its text.
-/
theorem Call.Assigns.cause {call : Call} {reference sensor : String}
    (assigns : call.Assigns reference sensor)
    : call.resets reference = true
      ∨ ∃ raw, call.Registers reference (Text.untilZero raw) ∧ decodeRaw raw = sensor := by
  cases call with
  | newRegistry name => exact .inl (beq_iff_eq.mpr assigns)
  | freeRegistry freed =>
      cases freed with
      | none => exact assigns.elim
      | some name => exact .inl (beq_iff_eq.mpr assigns)
  | register target record =>
      cases target with
      | none => exact assigns.elim
      | some name =>
          cases record with
          | none => exact assigns.elim
          | some record =>
              obtain ⟨same, named⟩ := assigns
              obtain ⟨raw, given, text⟩ := Option.map_eq_some_iff.mp named
              exact .inr ⟨raw, ⟨same, by rw [given, Option.map_some]⟩, text⟩
  | _ => exact assigns.elim

theorem untilZero_of_plain {first other : List UInt8} (plain : Text.Plain first)
    (same : decodeRaw other = Text.decodeLossy first)
    : Text.untilZero other = first :=
  (Text.Plain.decodeLossy_eq_iff (Or.inr plain)).mp same

/-- The place of a plain name is named only by its own bytes. -/
theorem not_assigns_of_plain {first : List UInt8} (plain : Text.Plain first) {call : Call}
    {reference : String}
    (kept : call.resets reference = false ∧ ¬ call.Registers reference first)
    : ¬ call.Assigns reference (Text.decodeLossy first) := by
  intro assigns
  rcases assigns.cause with reset | ⟨raw, registers, same⟩
  · exact absurd reset (Bool.eq_false_iff.mp kept.1)
  · rw [untilZero_of_plain plain same] at registers
    exact kept.2 registers

variable {gateway : Gateway} {reference : String} {registry : Registry}

theorem finds_of_handle? {raw : List UInt8} {sensor : Descriptor}
    (there : gateway.handle? reference (decodeRaw raw) = some (.ofDescriptor sensor))
    : gateway.Finds reference raw sensor :=
  ⟨.ofDescriptor sensor, lookup_of_handle? there, Handle.ofDescriptor_represents sensor⟩

theorem registries_described (live : gateway.registries[reference]? = some registry)
    {record : SensorRecord} {raw : List UInt8} {sensor : Descriptor}
    (describes : gateway.Describes record raw sensor)
    : (gateway.next (.register (some reference) (some record))).registries[reference]?
      = some (registry.register sensor).result := by
  rw [next_register_described live describes.named describes.given, NameMap.getElem?_insert,
    if_pos rfl]

/-- A registration changes no array, so other records describe what they did before. -/
theorem Describes.after_register {record : SensorRecord} {raw : List UInt8} {sensor : Descriptor}
    (describes : gateway.Describes record raw sensor) (call : Call)
    (kept : (gateway.next call).arrays = gateway.arrays)
    : (gateway.next call).Describes record raw sensor := by
  refine ⟨describes.named, ?_⟩
  rw [← describes.given]
  simp only [descriptor?, kept]

section Registrations

variable {between after : Gateway} {sensor newer : Descriptor} {raw : List UInt8}
  (liveAfter
    : after.registries[reference]?
      = some ((registry.register sensor).result.register newer).result)
include liveAfter

/-- The second registration adds no entry when its sensor has the name of the first. -/
theorem sizeOf?_same
    (liveBetween : between.registries[reference]? = some (registry.register sensor).result)
    (same : sensor.name = newer.name)
    : after.sizeOf? reference = between.sizeOf? reference := by
  have contained : (registry.register sensor).result.contains newer.name = true := by
    rw [Registry.contains_register, same, BEq.rfl, Bool.true_or]
  rw [sizeOf?, sizeOf?, liveBetween, liveAfter, Option.map_some, Option.map_some,
    Registry.size_register, if_pos contained]

theorem finds_newer (text : decodeRaw raw = newer.name) : after.Finds reference raw newer := by
  apply finds_of_handle?
  rw [handle?_live liveAfter, Registry.register_result, NameMap.getElem?_insert, if_pos text.symm]

theorem finds_older (text : decodeRaw raw = sensor.name) (different : sensor.name ≠ newer.name)
    : after.Finds reference raw sensor := by
  apply finds_of_handle?
  rw [handle?_live liveAfter, Registry.register_result, NameMap.getElem?_insert, text,
    if_neg (Ne.symm different), Registry.register_result, NameMap.getElem?_insert, if_pos rfl]

/-- Only a sensor of the same name takes the place of the first, as its own name shows. -/
theorem displaces_iff
    (liveBetween : between.registries[reference]? = some (registry.register sensor).result)
    (text : decodeRaw raw = sensor.name)
    : between.Displaces after reference raw newer ↔ sensor.name = newer.name := by
  constructor
  · rintro ⟨_, handle, found, represents⟩
    by_contra different
    obtain ⟨older, stillFound, olderRepresents⟩ :=
      finds_older liveAfter text different
    rw [found] at stillFound
    cases stillFound
    exact different (olderRepresents.name.symm.trans represents.name)
  · intro same
    exact ⟨sizeOf?_same liveAfter liveBetween same, finds_newer liveAfter (text.trans same)⟩

/-- Two sensors with new names need one entry exactly when they have the same name. -/
theorem sizeOf?_eq_succ_iff (fresh : registry.contains sensor.name = false)
    (otherFresh : registry.contains newer.name = false)
    : after.sizeOf? reference = some (registry.size + 1) ↔ sensor.name = newer.name := by
  rw [sizeOf?, liveAfter, Option.map_some, Registry.size_register, Registry.size_register,
    Registry.contains_register, fresh, otherFresh]
  by_cases same : sensor.name = newer.name
  · simp [same]
  · simp [same]

end Registrations

/-- Two registrations in a registry share an entry exactly when their names decode to one text. When
one of the names is well formed and has no replacement character, they do exactly when they are the
same bytes: no call with other bytes then displaces the sensor or has its look-ups answered by
another.
-/
theorem names_share_entry
    (live : gateway.registries[reference]? = some registry)
    {first second : List UInt8} (firstFree : 0 ∉ first) (secondFree : 0 ∉ second)
    {record other : SensorRecord} {sensor newer : Descriptor}
    (describes : gateway.Describes record first sensor)
    (describesOther : gateway.Describes other second newer)
    : let between := gateway.next (.register (some reference) (some record))
      let after := between.next (.register (some reference) (some other))
      (between.Displaces after reference first newer
        ↔ Text.decodeLossy first = Text.decodeLossy second)
      ∧ (registry.contains (Text.decodeLossy first) = false
        → registry.contains (Text.decodeLossy second) = false
        → (after.sizeOf? reference = some (registry.size + 1)
            ↔ Text.decodeLossy first = Text.decodeLossy second))
      ∧ (Text.decodeLossy first ≠ Text.decodeLossy second → after.Finds reference first sensor)
      ∧ (Text.Plain first ∨ Text.Plain second
        → (between.Displaces after reference first newer ↔ first = second))
      ∧ (between.Displaces after reference first newer
        → first ≠ second
        → Text.replacement ∈ (Text.decodeLossy first).toList)
      ∧ (Text.Plain first
        → (∀ calls,
            (∀ call ∈ calls, call.resets reference = false ∧ ¬ call.Registers reference first)
            → (between.run calls).1.Finds reference first sensor)
          ∧ ∀ raw,
              Text.untilZero raw ≠ first
              → (between.lookup (some reference) (some raw)).result
                = (gateway.lookup (some reference) (some raw)).result) := by
  intro between after
  have firstText : decodeRaw first = Text.decodeLossy first := by
    rw [decodeRaw, Text.untilZero_of_not_mem firstFree]
  have secondText : decodeRaw second = Text.decodeLossy second := by
    rw [decodeRaw, Text.untilZero_of_not_mem secondFree]
  have name : sensor.name = Text.decodeLossy first :=
    (descriptor?_name describes.given).trans firstText
  have otherName : newer.name = Text.decodeLossy second :=
    (descriptor?_name describesOther.given).trans secondText
  have liveBetween := registries_described live describes
  have keptArrays :=
    congrArg Gateway.arrays (next_register_described live describes.named describes.given)
  have liveAfter :=
    registries_described liveBetween (describesOther.after_register _ keptArrays)
  have text : decodeRaw first = sensor.name := firstText.trans name.symm
  have displaces := displaces_iff liveAfter liveBetween text
  rw [name, otherName] at displaces
  refine ⟨displaces, ?_, ?_, ?_, ?_, ?_⟩
  · rw [← name, ← otherName]
    exact sizeOf?_eq_succ_iff liveAfter
  · rw [← name, ← otherName]
    exact finds_older liveAfter text
  · intro plain
    rw [displaces, Text.Plain.decodeLossy_eq_iff plain]
  · intro displaced different
    by_contra unreplaced
    exact different (Text.eq_of_decodeLossy_eq (displaces.mp displaced) unreplaced)
  · intro plain
    constructor
    · intro calls kept
      have untouched (call : Call) (member : call ∈ calls)
          : ¬ call.Assigns reference sensor.name := by
        rw [name]
        exact not_assigns_of_plain plain (kept call member)
      apply finds_of_handle?
      rw [text, handle?_run untouched, handle?_live liveBetween, Registry.register_result,
        NameMap.getElem?_insert, if_pos rfl]
    · intro raw different
      have otherEntry : sensor.name ≠ decodeRaw raw := by
        intro same
        exact different (untilZero_of_plain plain (same.symm.trans name))
      rw [lookup_live liveBetween, lookup_live live, handle?_live liveBetween,
        handle?_live live, Registry.register_result, NameMap.getElem?_insert, if_neg otherEntry]

/-- Two bytes that start different characters, each cut short, are one name. The encoding of a
character is not displaced by its first byte alone.
-/
theorem truncated_names_share_entry
    : let gateway := (empty.run [.newRegistry "robot"]).1
      let record (raw : List UInt8) : SensorRecord := ⟨some raw, none, fun _ => none⟩
      let registered (raw : List UInt8) :=
        gateway.next (.register (some "robot") (some (record raw)))
      let both (first second : List UInt8) :=
        (registered first).next (.register (some "robot") (some (record second)))
      gateway.registries["robot"]? = some .empty
      ∧ gateway.Describes (record [0xC3]) [0xC3] (.bare "\uFFFD" "")
      ∧ gateway.Describes (record [0xC3, 0xA9]) [0xC3, 0xA9] (.bare "é" "")
      ∧ gateway.Describes (record [0xE2, 0x82]) [0xE2, 0x82] (.bare "\uFFFD" "")
      ∧ (registered [0xC3]).Displaces (both [0xC3] [0xE2, 0x82]) "robot" [0xC3]
          (.bare "\uFFFD" "")
      ∧ ¬ (registered [0xC3, 0xA9]).Displaces (both [0xC3, 0xA9] [0xC3]) "robot" [0xC3, 0xA9]
          (.bare "\uFFFD" "") := by
  intro gateway record registered both
  have live : gateway.registries["robot"]? = some .empty := rfl
  have letter : gateway.Describes (record [0xC3, 0xA9]) [0xC3, 0xA9] (.bare "é" "") := ⟨rfl, rfl⟩
  have short : gateway.Describes (record [0xC3]) [0xC3] (.bare "\uFFFD" "") := ⟨rfl, rfl⟩
  have other : gateway.Describes (record [0xE2, 0x82]) [0xE2, 0x82] (.bare "\uFFFD" "") :=
    ⟨rfl, rfl⟩
  have plain : Text.Plain [0xC3, 0xA9] := ⟨"é", by decide, by decide⟩
  refine ⟨live, short, letter, other, ?_, ?_⟩
  · exact (names_share_entry live (by decide) (by decide) short other).1.mpr (by decide)
  · intro displaced
    have same :=
      ((names_share_entry live (by decide) (by decide) letter short).2.2.2.1 (Or.inl plain)).mp
        displaced
    exact absurd same (by decide)

end Inertial.Gateway
