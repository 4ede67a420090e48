import Inertial.Proofs.Double.NumericalEquality
import Inertial.Proofs.SteadyReadings

/-! Equality of readings, channel by channel and number by number. It tells readings apart by what
is present and by every number except the sign of zero, and a reading equals itself unless it has
NaN somewhere. So does what a handle reads twice, as long as nothing is written to its cells.
-/

namespace Inertial

-----------------------------------------------------------------------------------------
-- Readings number by number
-----------------------------------------------------------------------------------------

theorem OptionalValues.numEq_iff {size : Nat} (left right : OptionalValues size)
    : left.numEq right = true
      ↔ Option.Rel
          (fun values others =>
            ∀ index : Fin size, (values.get index).numEq (others.get index) = true)
          left right := by
  cases left with
  | none =>
      cases right with
      | none => exact ⟨fun _ => .none, fun _ => rfl⟩
      | some others => exact ⟨nofun, nofun⟩
  | some values =>
      cases right with
      | none => exact ⟨nofun, nofun⟩
      | some others =>
          rw [numEq, Vector.isEqv_iff_rel]
          constructor
          · exact fun equal => .some fun index => equal index.val index.isLt
          · intro related
            cases related with
            | some equal => exact fun index bound => equal ⟨index, bound⟩

namespace Reading

/-- The same channels are present, and their numbers are related one by one. -/
def Related (relation : Double → Double → Prop) (left right : Reading) : Prop :=
  ∀ channel,
    Option.Rel
      (fun values others =>
        ∀ index : Fin channel.size, relation (values.get index) (others.get index))
      (left.get channel) (right.get channel)

/-- Some number of the reading is NaN. -/
def HasNaN (reading : Reading) : Prop :=
  ∃ channel values,
    reading.get channel = some values
    ∧ ∃ index : Fin channel.size, (values.get index).isNaN = true

variable {relation weaker next composed : Double → Double → Prop}

theorem Related.symm (symmetric : ∀ number other, relation number other → relation other number)
    {left right : Reading} (related : Related relation left right)
    : Related relation right left :=
  fun channel => rel_swap (fun _ _ here index => symmetric _ _ (here index)) (related channel)

/-- Two relations in a row relate readings as they relate numbers. -/
theorem Related.comp
    (compose
      : ∀ first second third, relation first second → next second third → composed first third)
    {first second third : Reading} (former : Related relation first second)
    (latter : Related next second third)
    : Related composed first third :=
  fun channel =>
    rel_comp (fun _ _ _ here there index => compose _ _ _ (here index) (there index))
      (former channel) (latter channel)

theorem Related.mono (weaken : ∀ number other, relation number other → weaker number other)
    {left right : Reading} (related : Related relation left right)
    : Related weaker left right :=
  fun channel => rel_mono (fun _ _ here index => weaken _ _ (here index)) (related channel)

theorem related_self_iff (reading : Reading)
    : Related relation reading reading
      ↔ ∀ channel values,
          reading.get channel = some values
          → ∀ index : Fin channel.size, relation (values.get index) (values.get index) := by
  constructor
  · intro related channel values present
    have here := related channel
    rw [present, rel_some_left] at here
    obtain ⟨_, same, here⟩ := here
    cases same
    exact here
  · intro related channel
    cases present : reading.get channel with
    | none => exact .none
    | some values => exact .some (related channel values present)

theorem Related.capabilities_congr {left right : Reading} (related : Related relation left right)
    : left.capabilities = right.capabilities := by
  have present (channel : Channel) : left.has channel = right.has channel :=
    rel_isSome (related channel)
  rw [capabilities_eq, capabilities_eq, funext present]

-----------------------------------------------------------------------------------------
-- Numerical equality
-----------------------------------------------------------------------------------------

theorem numEq_iff_related (left right : Reading)
    : left.numEq right = true
      ↔ Related (fun number other => number.numEq other = true) left right := by
  simp only [numEq, List.all_eq_true, OptionalValues.numEq_iff, Channel.mem_all, true_implies]
  rfl

theorem numEq_comm (left right : Reading) : left.numEq right = right.numEq left := by
  have symmetric (number other : Double) (equal : number.numEq other = true)
      : other.numEq number = true :=
    (other.numEq_comm number).trans equal
  rw [Bool.eq_iff_iff, numEq_iff_related, numEq_iff_related]
  exact ⟨.symm symmetric, .symm symmetric⟩

theorem numEq_trans {first second third : Reading} (former : first.numEq second = true)
    (latter : second.numEq third = true)
    : first.numEq third = true := by
  rw [numEq_iff_related] at former latter ⊢
  refine former.comp ?_ latter
  intro _ _ _ equal next
  exact Double.numEq_trans equal next

theorem numEq_self_iff (reading : Reading) : reading.numEq reading = true ↔ ¬ reading.HasNaN := by
  rw [numEq_iff_related, related_self_iff]
  constructor
  · rintro equal ⟨channel, values, present, index, nan⟩
    rw [(Double.numEq_self_iff _).mp (equal channel values present index)] at nan
    cases nan
  · intro numbers channel values present index
    rw [Double.numEq_self_iff, ← Bool.not_eq_true]
    exact fun nan => numbers ⟨channel, values, present, index, nan⟩

/-- Equal readings differ in the signs of zeros at most, and have numbers everywhere. -/
theorem numEq_iff_sameButForZeros (left right : Reading)
    : left.numEq right = true ↔ Related Double.SameButForZeros left right ∧ ¬ left.HasNaN := by
  constructor
  · intro equal
    have self : left.numEq left = true := numEq_trans equal ((right.numEq_comm left).trans equal)
    refine ⟨((numEq_iff_related left right).mp equal).mono ?_, (numEq_self_iff left).mp self⟩
    exact fun number other equal => ((number.numEq_iff other).mp equal).2
  · rintro ⟨same, numbers⟩
    rw [← numEq_self_iff, numEq_iff_related] at numbers
    rw [numEq_iff_related]
    refine numbers.comp ?_ same
    intro _ _ _ equal next
    exact Double.numEq_of_sameButForZeros equal next

end Reading

-----------------------------------------------------------------------------------------
-- Handles that are read twice
-----------------------------------------------------------------------------------------

namespace Handle

/-- Some cell that the handle reads holds NaN. -/
def HasNaN (handle : Handle) (memory : Memory) : Prop :=
  ∃ channel buffer,
    handle.get channel = some buffer ∧ ∃ index, (memory.cell buffer index).isNaN = true

theorem hasNaN_read (handle : Handle) (memory : Memory)
    : (handle.read memory).HasNaN ↔ handle.HasNaN memory := by
  have loaded {size : Nat} (buffer : Buffer size) (index : Fin size)
      : (memory.load buffer).get index = memory.cell buffer index :=
    Vector.getElem_ofFn index.isLt
  simp only [Reading.HasNaN, read, PerChannel.get_map, Option.map_eq_some_iff]
  constructor
  · rintro ⟨channel, _, ⟨buffer, provided, rfl⟩, index, nan⟩
    exact ⟨channel, buffer, provided, index, loaded buffer index ▸ nan⟩
  · rintro ⟨channel, buffer, provided, index, nan⟩
    exact ⟨channel, _, ⟨buffer, provided, rfl⟩, index, (loaded buffer index).symm ▸ nan⟩

/-- A reading that is taken again is equal unless there is NaN in it. -/
theorem numEq_read_iff {handle : Handle} {first second : Memory}
    (same : handle.read second = handle.read first)
    : (handle.read first).numEq (handle.read second) = true ↔ ¬ handle.HasNaN first := by
  rw [same, Reading.numEq_self_iff, hasNaN_read]

end Handle

/-- Readings are compared as the values of their numbers are: equality is symmetric and transitive,
holds between a reading and itself just when it has no NaN, and finds every difference in what is
present and in the patterns of numbers, other than that of the two zeros. In every run of a session
or a gateway, a handle read twice gives equal readings just when none of its cells holds NaN, as
long as none of them is written in between, whatever else is done.
-/
theorem readings_compare_numerically
    : (∀ left right : Double,
        left.numEq right = true
        ↔ left.isNaN = false
          ∧ right.isNaN = false
          ∧ if left.isFinite && right.isFinite then left.value = right.value else left = right)
      ∧ (∀ left right : Reading, left.numEq right = right.numEq left)
      ∧ (∀ first second third : Reading,
          first.numEq second = true → second.numEq third = true → first.numEq third = true)
      ∧ (∀ reading : Reading, reading.numEq reading = true ↔ ¬ reading.HasNaN)
      ∧ (∀ left right : Reading,
          (left.numEq right = true
            ↔ Reading.Related Double.SameButForZeros left right ∧ ¬ left.HasNaN)
          ∧ (left.numEq right = true → left.capabilities = right.capabilities))
      ∧ (∀ commands,
          let session := (Session.empty.run commands).1
          (∀ handle, session.Has handle → Session.Made commands handle)
          ∧ (∀ command handle,
              handle ∈ (session.step command).result.2.handles
              → Session.Made (commands ++ [command]) handle)
          ∧ ∀ handle later,
              Session.Made commands handle
              → (∀ write ∈ (Chronicle.empty.run commands).writesIn later, ¬ handle.Sees write)
              → ((handle.read session.memory).numEq (handle.read (session.run later).1.memory)
                  = true
                ↔ ¬ handle.HasNaN session.memory))
      ∧ ∀ calls reference sensor handle later,
          let gateway := (Gateway.empty.run calls).1
          gateway.handle? reference sensor = some handle
          → (∀ write ∈ (Gateway.Counterpart.empty.run calls).writesIn later, ¬ handle.Sees write)
          → ((handle.read gateway.memory).numEq (handle.read (gateway.run later).1.memory) = true
            ↔ ¬ handle.HasNaN gateway.memory) := by
  refine ⟨Double.numEq_iff_value, Reading.numEq_comm, fun _ _ _ => Reading.numEq_trans,
    Reading.numEq_self_iff, ?_, ?_, ?_⟩
  · intro left right
    have same := left.numEq_iff_sameButForZeros right
    exact ⟨same, fun equal => (same.mp equal).1.capabilities_congr⟩
  · intro commands session
    refine ⟨fun handle has => Session.made_of_has has,
      fun command handle given => Session.made_of_answered given, ?_⟩
    intro handle later made unseen
    exact Handle.numEq_read_iff (made.read_eq unseen)
  · intro calls reference sensor handle later gateway there unseen
    exact Handle.numEq_read_iff (Gateway.read_eq_of_handle? there unseen)

/-- Two sensors are read before and after one of them is registered and another buffer is written.
The one with NaN among its numbers is the one whose readings differ.
-/
theorem nan_is_read_unequal
    : let sensor (buffer : String) : Session.SensorSource :=
        {
          name := buffer,
          frame := "",
          buffers :=
            .buffers fun channel => if channel = .angularVelocity then some buffer else none
        }
      let commands : List Session.Command :=
        [.driver (.newBuffer "sound" 3 #v[1, -0, 2]),
          .driver (.newBuffer "broken" 3 #v[1, ⟨0x7FF8000000000000⟩, 2]),
          .driver (.newBuffer "other" 3 #v[0, 0, 0]), .newHandle "sound" (sensor "sound"),
          .newHandle "broken" (sensor "broken")]
      let later : List Session.Command :=
        [.registry "robot" (.register (sensor "sound")), .driver (.write "other" 0 1)]
      let session := (Session.empty.run commands).1
      let readTwice (name : String) : Option Bool :=
        session.handles[name]?.map fun handle =>
          (handle.read session.memory).numEq (handle.read (session.run later).1.memory)
      readTwice "sound" = some true ∧ readTwice "broken" = some false := by
  intro sensor commands later session readTwice
  let handle (name : String) (number : Nat) : Handle :=
    .ofDescriptor
      {
        toPerChannel :=
          .ofFn fun channel => if channel = .angularVelocity then some ⟨number⟩ else none,
        name := name,
        frame := ""
      }
  have provides {name : String} {number : Nat} {channel : Channel} {buffer : Buffer channel.size}
      (provided : (handle name number).get channel = some buffer)
      : channel = .angularVelocity ∧ buffer = ⟨number⟩ := by
    have viewed : (handle name number).get channel
        = if channel = .angularVelocity then some ⟨number⟩ else none :=
      PerChannel.get_ofFn _ channel
    rw [viewed] at provided
    split at provided
    · next same => exact ⟨same, (Option.some.inj provided).symm⟩
    · cases provided
  have sound : session.handles["sound"]? = some (handle "sound" 0) := rfl
  have broken : session.handles["broken"]? = some (handle "broken" 1) := rfl
  have written : (Chronicle.empty.run commands).writesIn later = [⟨2, 0, 1⟩] := rfl
  obtain ⟨made, _, compare⟩ := readings_compare_numerically.2.2.2.2.2.1 commands
  have compared (name : String) (number : Nat)
      (found : session.handles[name]? = some (handle name number)) (spared : number ≠ 2) := by
    refine compare (handle name number) later (made _ ⟨.kept name, found⟩) ?_
    rw [written]
    intro write member
    obtain rfl := List.mem_singleton.mp member
    rintro ⟨channel, buffer, provided, same, _⟩
    obtain ⟨rfl, rfl⟩ := provides provided
    exact spared same.symm
  have numbers : ¬ (handle "sound" 0).HasNaN session.memory := by
    have none : ∀ index : Fin 3, (session.memory.cell ⟨0⟩ index).isNaN = false := by decide
    rintro ⟨channel, buffer, provided, index, nan⟩
    obtain ⟨rfl, rfl⟩ := provides provided
    rw [none index] at nan
    cases nan
  have spoiled : (handle "broken" 1).HasNaN session.memory :=
    ⟨.angularVelocity, ⟨1⟩, rfl, ⟨1, by decide⟩, by decide⟩
  constructor
  · simp only [readTwice, sound, Option.map_some]
    exact congrArg some ((compared "sound" 0 sound (by decide)).mpr numbers)
  · simp only [readTwice, broken, Option.map_some]
    rw [Option.some_inj, ← Bool.not_eq_true, compared "broken" 1 broken (by decide), not_not]
    exact spoiled

end Inertial
