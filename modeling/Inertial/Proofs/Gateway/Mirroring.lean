import Inertial.Proofs.Gateway.Counterpart
import Inertial.Proofs.Gateway.Operations
import Inertial.Proofs.Memory.Numbering

/-! Each call keeps a gateway in step with its counterpart, and so does every run. Handles reach
into the callers' arrays, which may be longer than what a handle reads.
-/

namespace Inertial.Gateway

/-- All arrays that the operations registered reach far enough. -/
def Backs (memory : Memory) (history : List Registry.Operation) : Prop :=
  ∀ descriptor,
    .register descriptor ∈ history
    → ∀ channel buffer, descriptor.get channel = some buffer → memory.Holds buffer

structure Mirrors (gateway : Gateway) (counterpart : Counterpart) : Prop where
  memory : gateway.memory.Follows counterpart.ledger
  arrays
    : NameMap.Tracks (fun sized number => gateway.memory.Numbered sized.buffer number)
        gateway.arrays counterpart.arrays
  registries
    : NameMap.Tracks
        (fun registry history => registry = Registry.after history ∧ Backs gateway.memory history)
        gateway.registries counterpart.registries

theorem mirrors_empty : empty.Mirrors .empty where
  memory := Memory.follows_empty
  arrays := NameMap.tracks_empty
  registries := NameMap.tracks_empty

variable {gateway : Gateway} {counterpart : Counterpart}

theorem Backs.mono {old new : Memory} (grown : old.Extends new)
    {history : List Registry.Operation} (backs : Backs old history)
    : Backs new history :=
  fun descriptor registered channel buffer found =>
    grown.holds (backs descriptor registered channel buffer found)

theorem Backs.append {memory : Memory} {history : List Registry.Operation}
    (backs : Backs memory history) {operation : Registry.Operation}
    (reaches
      : ∀ descriptor,
          operation = .register descriptor
          → ∀ channel buffer, descriptor.get channel = some buffer → memory.Holds buffer)
    : Backs memory (history ++ [operation]) := by
  intro descriptor registered
  rcases List.mem_append.mp registered with earlier | last
  · exact backs descriptor earlier
  · exact reaches descriptor (List.mem_singleton.mp last).symm

/-- When only memory changes and all blocks stay, names lead where they led before. -/
theorem Mirrors.remember (mirrors : gateway.Mirrors counterpart)
    {memory : Memory} {ledger : Ledger} (grown : gateway.memory.Extends memory)
    (following : memory.Follows ledger)
    : { gateway with memory }.Mirrors { counterpart with ledger } where
  memory := following
  arrays := mirrors.arrays.mono fun _ _ numbered => numbered.mono grown
  registries := mirrors.registries.mono fun _ _ ⟨same, backs⟩ => ⟨same, backs.mono grown⟩

theorem Mirrors.congr (mirrors : gateway.Mirrors counterpart) {other : Gateway}
    (same : gateway.DiffersInError other)
    : other.Mirrors counterpart := by
  obtain ⟨memory, arrays, registries⟩ := same
  exact
    {
      memory := memory ▸ mirrors.memory,
      arrays := memory ▸ arrays ▸ mirrors.arrays,
      registries := memory ▸ registries ▸ mirrors.registries
    }

theorem Mirrors.first? (mirrors : gateway.Mirrors counterpart) (size : Nat) (array : String)
    : (gateway.arrays[array]?.bind fun sized => sized.first? size)
      = counterpart.firstOf? size array := by
  have tracked := mirrors.arrays array
  unfold Counterpart.firstOf?
  cases found : gateway.arrays[array]? with
  | none =>
      rw [found, rel_none_left] at tracked
      rw [tracked]
      rfl
  | some sized =>
      rw [found, rel_some_left] at tracked
      obtain ⟨number, known, numbered⟩ := tracked
      rw [known, Option.filter_some, mirrors.memory.sizeOf?_numbered numbered]
      simp only [Option.bind_some, SizedBuffer.first?, Option.any_some, decide_eq_true_eq]
      split
      · rw [Buffer.narrow, numbered.1, Option.map_some]
      · rfl

theorem Mirrors.firstOf?_held (mirrors : gateway.Mirrors counterpart) {size : Nat}
    {array : String} {buffer : Buffer size}
    (given : counterpart.firstOf? size array = some buffer)
    : gateway.memory.Holds buffer := by
  rw [← mirrors.first?, Option.bind_eq_some_iff] at given
  obtain ⟨sized, found, enough⟩ := given
  obtain ⟨number, _, numbered⟩ := mirrors.arrays.entry found
  obtain ⟨block, there, large⟩ := numbered.2.holds
  unfold SizedBuffer.first? at enough
  split at enough
  · next fits =>
      cases enough
      exact ⟨block, there, Nat.le_trans fits large⟩
  · cases enough

/-- Both make the same sensor of a record, or both reject it. -/
theorem Mirrors.descriptor? (mirrors : gateway.Mirrors counterpart) {sensor : SensorRecord}
    {name : List UInt8} (named : sensor.name = some name)
    : gateway.descriptor? sensor name = counterpart.described? sensor := by
  simp only [Gateway.descriptor?, Descriptor.find?, Counterpart.described?, named, mirrors.first?]
  cases sensor.frame <;> rfl

theorem Mirrors.described?_held (mirrors : gateway.Mirrors counterpart) {sensor : SensorRecord}
    {descriptor : Descriptor} (described : counterpart.described? sensor = some descriptor)
    (channel : Channel) (buffer : Buffer channel.size)
    (provided : descriptor.get channel = some buffer)
    : gateway.memory.Holds buffer := by
  unfold Counterpart.described? at described
  cases named : sensor.name with
  | none => simp [named] at described
  | some name =>
      simp only [named] at described
      split at described
      · cases described
        rw [PerChannel.get_ofFn, Option.bind_eq_some_iff] at provided
        obtain ⟨array, _, given⟩ := provided
        exact mirrors.firstOf?_held given
      · cases described

theorem Mirrors.live? (mirrors : gateway.Mirrors counterpart) (name : String)
    : gateway.live? (some name)
      = (counterpart.registries name).map fun history => (name, Registry.after history) := by
  have tracked := mirrors.registries name
  simp only [Gateway.live?, Option.bind_some]
  cases found : gateway.registries[name]? with
  | none =>
      rw [found, rel_none_left] at tracked
      rw [tracked]
      rfl
  | some registry =>
      rw [found, rel_some_left] at tracked
      obtain ⟨history, known, rfl, _⟩ := tracked
      rw [known]
      rfl

/-- An operation on a registry that is not in use is no operation. -/
theorem Counterpart.operate_absent {name : String} (absent : counterpart.registries name = none)
    (operation : Registry.Operation)
    : counterpart.operate name operation = counterpart := by
  simp only [operate]
  rw [Function.update_eq_self_iff.mpr (by rw [absent, Option.map_none])]

/-- A registry in use gets one operation longer, and its map is what the operation makes of it. -/
theorem Mirrors.operate (mirrors : gateway.Mirrors counterpart) {name : String}
    {history : List Registry.Operation} (live : counterpart.registries name = some history)
    (operation : Registry.Operation)
    (backed : Backs gateway.memory (history ++ [operation]))
    : { gateway with
        registries :=
          gateway.registries.insert name ((Registry.after history).apply operation) }.Mirrors
        (counterpart.operate name operation) where
  memory := mirrors.memory
  arrays := mirrors.arrays
  registries := by
    rw [Counterpart.operate, live]
    exact mirrors.registries.insert name ⟨(Registry.after_append history operation).symm, backed⟩

/-- A query leaves the registry as it is, in use or not. -/
theorem Mirrors.query (mirrors : gateway.Mirrors counterpart) (name : String)
    (operation : Registry.Operation)
    (unchanged : ∀ registry : Registry, registry.apply operation = registry)
    (queries : ∀ descriptor, operation ≠ .register descriptor)
    : gateway.Mirrors (counterpart.operate name operation) := by
  cases found : gateway.registries[name]? with
  | none =>
      rw [Counterpart.operate_absent (mirrors.registries.absent found)]
      exact mirrors
  | some registry =>
      obtain ⟨history, known, same, backs⟩ := mirrors.registries.entry found
      have longer
          : registry = Registry.after (history ++ [operation])
            ∧ Backs gateway.memory (history ++ [operation]) := by
        refine ⟨by rw [Registry.after_append, unchanged, same], backs.append ?_⟩
        intro descriptor registers
        exact absurd registers (queries descriptor)
      have registries := mirrors.registries.update found longer
      rw [Counterpart.operate, known]
      exact { mirrors with registries }

theorem Mirrors.writeArray (mirrors : gateway.Mirrors counterpart) (array : String) (index : Nat)
    (value : Double)
    : (gateway.next (.writeArray array index value)).Mirrors
        (counterpart.step (.writeArray array index value)) := by
  simp only [next, Gateway.step, Gateway.writeArray, Counterpart.step]
  cases found : gateway.arrays[array]? with
  | none =>
      rw [mirrors.arrays.absent found]
      exact mirrors
  | some sized =>
      obtain ⟨number, known, numbered⟩ := mirrors.arrays.entry found
      rw [known, Ledger.cellWrite_some (mirrors.memory.sizeOf?_numbered numbered)]
      obtain ⟨rfl, fits⟩ := numbered
      by_cases inRange : index < sized.size
      · simp only [inRange, dif_pos, if_true]
        exact mirrors.remember (gateway.memory.extends_write _ ⟨index, inRange⟩ value)
          (mirrors.memory.write fits.holds ⟨index, inRange⟩ value)
      · simp only [inRange, dif_neg, if_false, not_false_eq_true]
        exact mirrors

theorem Counterpart.step_register (name : String) (sensor : SensorRecord)
    : counterpart.step (.register (some name) (some sensor))
      = match counterpart.described? sensor with
        | none => counterpart
        | some descriptor => counterpart.operate name (.register descriptor) := by
  simp only [step, operation?]
  cases counterpart.described? sensor <;> rfl

theorem Mirrors.backs (mirrors : gateway.Mirrors counterpart) {name : String}
    {history : List Registry.Operation} (live : counterpart.registries name = some history)
    : Backs gateway.memory history := by
  have tracked := mirrors.registries name
  rw [live] at tracked
  generalize gateway.registries[name]? = found at tracked
  cases tracked with
  | some related => exact related.2

/-- A registration adds a sensor whose arrays reach far enough. -/
theorem Mirrors.backs_register (mirrors : gateway.Mirrors counterpart) {name : String}
    {history : List Registry.Operation} (live : counterpart.registries name = some history)
    {sensor : SensorRecord} {descriptor : Descriptor}
    (described : counterpart.described? sensor = some descriptor)
    : Backs gateway.memory (history ++ [.register descriptor]) := by
  apply (mirrors.backs live).append
  rintro other ⟨⟩
  exact mirrors.described?_held described

theorem Mirrors.register (mirrors : gateway.Mirrors counterpart) (reference : Reference)
    (sensor : Option SensorRecord)
    : (gateway.next (.register reference sensor)).Mirrors
        (counterpart.step (.register reference sensor)) := by
  have failing (failure : CallFailure) : (gateway.fail failure).Mirrors counterpart :=
    mirrors.congr ⟨rfl, rfl, rfl⟩
  simp only [next, Gateway.step, register_result, registration_result]
  cases reference with
  | none => exact failing (.null .registry)
  | some registryName =>
      cases sensor with
      | none =>
          cases gateway.live? (some registryName) with
          | none => exact failing (.null .registry)
          | some entry => exact failing (.null .sensorDescriptor)
      | some sensor =>
          rw [Counterpart.step_register, mirrors.live?]
          cases live : counterpart.registries registryName with
          | none =>
              simp only [Counterpart.operate_absent live]
              cases counterpart.described? sensor <;> exact failing (.null .registry)
          | some history =>
              cases named : sensor.name with
              | none =>
                  have unknown : counterpart.described? sensor = none := by
                    simp only [Counterpart.described?, named]
                  rw [unknown]
                  simp only [Option.map_some, named]
                  exact failing (.null .sensorName)
              | some name =>
                  simp only [Option.map_some, named, mirrors.descriptor? named]
                  cases described : counterpart.described? sensor with
                  | none => exact mirrors
                  | some descriptor =>
                      exact mirrors.operate live (.register descriptor)
                        (mirrors.backs_register live described)

theorem Mirrors.step (mirrors : gateway.Mirrors counterpart) (call : Call)
    : (gateway.next call).Mirrors (counterpart.step call) := by
  cases call with
  | newArray array size values =>
      have remembered :=
        mirrors.remember (gateway.memory.extends_allocate values) (mirrors.memory.allocate values)
      have numbered := mirrors.memory.numbered_allocate values
      exact { remembered with arrays := remembered.arrays.insert array numbered }
  | writeArray array index value => exact mirrors.writeArray array index value
  | newRegistry name =>
      have fresh : Registry.empty = Registry.after [] ∧ Backs gateway.memory [] :=
        ⟨rfl, fun _ registered => nomatch registered⟩
      exact { mirrors with registries := mirrors.registries.insert name fresh }
  | freeRegistry reference =>
      cases reference with
      | none => exact mirrors
      | some name => exact { mirrors with registries := mirrors.registries.erase name }
  | register reference sensor => exact mirrors.register reference sensor
  | size reference =>
      cases reference with
      | none => exact mirrors.congr (gateway.size_next none)
      | some name =>
          exact (mirrors.query name .size (fun _ => rfl) nofun).congr
            (gateway.size_next (some name))
  | capabilities reference name =>
      have kept := gateway.capabilities_next reference name
      cases reference with
      | none => exact mirrors.congr kept
      | some registryName =>
          cases name with
          | none => exact mirrors.congr kept
          | some name =>
              exact
                (mirrors.query registryName (.lookup (decodeRaw name)) (fun _ => rfl) nofun).congr
                  kept
  | read reference name output =>
      have kept := gateway.read_next reference name output
      cases reference with
      | none => exact mirrors.congr kept
      | some registryName =>
          cases name with
          | none => exact mirrors.congr kept
          | some name =>
              cases output with
              | none => exact mirrors.congr kept
              | some output =>
                  exact
                    (mirrors.query registryName (.lookup (decodeRaw name)) (fun _ => rfl)
                      nofun).congr kept
  | lastError => exact mirrors

/-- Every run keeps a gateway in step with its counterpart, by induction on the calls. -/
theorem Mirrors.run (mirrors : gateway.Mirrors counterpart) (calls : List Call)
    : (gateway.run calls).1.Mirrors (counterpart.run calls) := by
  induction calls generalizing gateway counterpart with
  | nil => exact mirrors
  | cons call rest ih => exact ih (mirrors.step call)

theorem run_mirrors (calls : List Call)
    : (empty.run calls).1.Mirrors (Counterpart.empty.run calls) :=
  mirrors_empty.run calls

end Inertial.Gateway
