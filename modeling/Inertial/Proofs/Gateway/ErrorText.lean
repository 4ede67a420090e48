import Inertial.Proofs.Gateway.Provenance
import Inertial.Proofs.Gateway.Reports
import Inertial.Proofs.Text.FaithfulDecoding
import Mathlib.Data.List.Basic

/-! The last error as callers read it, who stop at the first zero byte. They read the whole message
of the latest failure, and from the message of a failed look-up they get back the name that it was
for, whatever the name is.
-/

namespace Inertial.Gateway

-----------------------------------------------------------------------------------------
-- Messages as bytes
-----------------------------------------------------------------------------------------

/-- The stored bytes are the message and a zero byte, and callers read no less than the message. -/
structure Spells (stored : List UInt8) (message : String) : Prop where
  terminated : stored = Text.utf8Bytes message ++ [0]
  once : stored.count 0 = 1
  wellFormed : Text.decode? (Text.untilZero stored) = some message
  nonempty : Text.untilZero stored ≠ []

theorem spells_zeroTerminated {message : String} (zeroFree : Text.ZeroFree message)
    (present : message ≠ "")
    : Spells (Text.zeroTerminated message) message := by
  have decoded : Text.decode? (Text.untilZero (Text.zeroTerminated message)) = some message := by
    rw [zeroFree.untilZero_zeroTerminated, Text.decode?_utf8Bytes]
  refine ⟨rfl, ?_, decoded, ?_⟩
  · rw [Text.zeroTerminated, List.count_append, List.count_eq_zero.mpr zeroFree.zero_not_mem]
    rfl
  · intro nothing
    have blank : Text.decode? [] = some "" := Text.decode?_utf8Bytes ""
    rw [nothing, blank] at decoded
    exact present (Option.some.inj decoded).symm

/-- Callers tell two messages apart by what they read. -/
theorem Spells.read_eq_iff {stored otherStored : List UInt8} {message otherMessage : String}
    (spells : Spells stored message) (otherSpells : Spells otherStored otherMessage)
    : Text.untilZero stored = Text.untilZero otherStored ↔ message = otherMessage := by
  constructor
  · intro same
    have decoded := spells.wellFormed
    rw [same, otherSpells.wellFormed] at decoded
    exact (Option.some.inj decoded).symm
  · rintro rfl
    rw [spells.terminated, otherSpells.terminated]

-----------------------------------------------------------------------------------------
-- Names in messages
-----------------------------------------------------------------------------------------

/-- What is left of a text without the words that stand around the name in the message of a failed
look-up, if the text starts and ends with them.
-/
def requested? (text : String) : Option String := do
  let rest ← text.toList.dropPrefix? "Could not find IMU sensor '".toList
  let name ← rest.dropSuffix? "' in ImuSensorRegistry".toList
  return .ofList name

theorem requested?_missingMessage (name : String)
    : requested? (missingMessage name) = some name := by
  have text : (missingMessage name).toList
      = "Could not find IMU sensor '".toList
        ++ (name.toList ++ "' in ImuSensorRegistry".toList) := by
    rw [← String.toList_append, ← String.toList_append, ← String.append_assoc]
    rfl
  have start
      : (missingMessage name).toList.dropPrefix? "Could not find IMU sensor '".toList
        = some (name.toList ++ "' in ImuSensorRegistry".toList) := by
    rw [text]
    exact List.dropPrefix?_append_of_beq _ (beq_self_eq_true _)
  have ending
      : (name.toList ++ "' in ImuSensorRegistry".toList).dropSuffix?
          "' in ImuSensorRegistry".toList
        = some name.toList :=
    List.dropSuffix?_eq_some_iff.mpr ⟨_, rfl, beq_self_eq_true _⟩
  rw [requested?, start, Option.bind_eq_bind, Option.bind_some, ending]
  exact congrArg some String.ofList_toList

theorem missingMessage_inj {name other : String}
    : missingMessage name = missingMessage other ↔ name = other := by
  constructor
  · intro same
    have requested := requested?_missingMessage name
    rw [same, requested?_missingMessage] at requested
    exact (Option.some.inj requested).symm
  · exact congrArg missingMessage

-----------------------------------------------------------------------------------------
-- What failed calls say
-----------------------------------------------------------------------------------------

/-- The call looks a sensor up in the registry of this name, under these bytes. -/
inductive Call.LooksUp (registry : String) (raw : List UInt8) : Call → Prop where
  | capabilities : LooksUp registry raw (.capabilities (some registry) (some raw))
  | read (output : Sample)
      : LooksUp registry raw (.read (some registry) (some raw) (some output))

/-- The call looks a sensor up in a registry in use, under these bytes. -/
def Seeks (gateway : Gateway) (call : Call) (raw : List UInt8) : Prop :=
  ∃ target, (gateway.registries[target]?).isSome ∧ call.LooksUp target raw

variable {gateway : Gateway} {call : Call} {message : String}

theorem message_of_seeks {raw : List UInt8} (seeks : gateway.Seeks call raw)
    (first : gateway.firstMessage? call = some message)
    : message = missingMessage (decodeRaw raw) := by
  obtain ⟨target, used, looksUp⟩ := seeks
  obtain ⟨registry, live⟩ := Option.isSome_iff_exists.mp used
  have asked : gateway.firstMessage? (.capabilities (some target) (some raw)) = some message := by
    cases looksUp <;> exact first
  rw [firstMessage?_capabilities, lookup_live live] at asked
  cases found : gateway.handle? target (decodeRaw raw) with
  | some handle =>
      rw [found] at asked
      cases asked
  | none =>
      rw [found] at asked
      rw [← Option.some.inj asked, notFound_message]

/-- A look-up that never gets to the registry lacks an argument. -/
theorem null_of_lookup {reference : Reference} {raw : RawText}
    (idle : ∀ bytes, ¬ gateway.Seeks (.capabilities reference raw) bytes)
    (first : gateway.firstMessage? (.capabilities reference raw) = some message)
    : ∃ argument : Argument, message = nullMessage argument.label := by
  rw [firstMessage?_capabilities, lookup_result] at first
  cases live : gateway.live? reference with
  | none =>
      rw [live] at first
      exact ⟨.registry, (Option.some.inj first).symm⟩
  | some entry =>
      cases raw with
      | none =>
          rw [live] at first
          exact ⟨.sensorName, (Option.some.inj first).symm⟩
      | some bytes =>
          obtain ⟨target, rfl, used⟩ := Option.bind_eq_some_iff.mp live
          obtain ⟨registry, there, _⟩ := Option.map_eq_some_iff.mp used
          exact absurd ⟨target, Option.isSome_of_eq_some there, .capabilities⟩ (idle bytes)

/-- A failed call that never gets to the registry lacks an argument. -/
theorem null_of_idle (idle : ∀ raw, ¬ gateway.Seeks call raw)
    (first : gateway.firstMessage? call = some message)
    : ∃ argument : Argument, message = nullMessage argument.label := by
  cases call with
  | register reference sensor =>
      rw [firstMessage?_register, registration_result] at first
      split at first
      · next failure rejected =>
          rw [← Option.some.inj first]
          split at rejected
          · cases rejected
            exact ⟨.registry, rfl⟩
          · cases rejected
            exact ⟨.sensorDescriptor, rfl⟩
          · split at rejected <;> cases rejected
            exact ⟨.sensorName, rfl⟩
      · cases first
  | size reference =>
      rw [firstMessage?_size] at first
      cases live : gateway.live? reference with
      | none =>
          rw [live] at first
          exact ⟨.registry, (Option.some.inj first).symm⟩
      | some entry =>
          rw [live] at first
          cases first
  | capabilities reference raw => exact null_of_lookup idle first
  | read reference raw output =>
      cases output with
      | none => exact ⟨.outputSample, (Option.some.inj first).symm⟩
      | some output =>
          refine null_of_lookup ?_ first
          rintro bytes ⟨target, used, looksUp⟩
          cases looksUp
          exact idle bytes ⟨target, used, .read output⟩
  | _ => cases first

theorem present_of_firstMessage? (first : gateway.firstMessage? call = some message)
    : message ≠ "" := by
  rintro rfl
  by_cases idle : ∀ raw, ¬ gateway.Seeks call raw
  · obtain ⟨argument, nothing⟩ := null_of_idle idle first
    cases argument <;> exact absurd nothing (by decide)
  · obtain ⟨raw, seeks⟩ := not_forall_not.mp idle
    have requested := requested?_missingMessage (decodeRaw raw)
    rw [← message_of_seeks seeks first] at requested
    cases requested

-----------------------------------------------------------------------------------------
-- Runs and their latest failures
-----------------------------------------------------------------------------------------

theorem ends_of_first {said : Option String} (first : gateway.firstMessage? call = said)
    : gateway.Ends call said := by
  rw [← first]
  exact gateway.ends_firstMessage? call

theorem firstMessage?_of_fails (fails : (gateway.outcome call).code? = some failed)
    : ∃ message, gateway.firstMessage? call = some message := by
  cases first : gateway.firstMessage? call with
  | some message => exact ⟨message, rfl⟩
  | none => exact absurd fails (ends_of_first first).2

theorem spells_next (first : gateway.firstMessage? call = some message)
    : Spells (gateway.next call).lastError.bytes message := by
  obtain ⟨⟨failure, said, next⟩, _⟩ := ends_of_first first
  rw [next, ← said]
  apply spells_zeroTerminated
  · exact said ▸ gateway.firstMessage?_zeroFree first
  · exact said ▸ present_of_firstMessage? first

/-- Calls that do not fail leave the last error alone, by induction on the calls. -/
theorem lastError_run {calls : List Call}
    (succeeds
      : ∀ observation ∈ (gateway.run calls).2, observation.outcome.code? ≠ some failed)
    : (gateway.run calls).1.lastError = gateway.lastError := by
  induction calls generalizing gateway with
  | nil => rfl
  | cons call rest ih =>
      have later : (gateway.run (call :: rest)).1.lastError = (gateway.next call).lastError :=
        ih fun observation member => succeeds observation (List.mem_cons_of_mem _ member)
      rw [later]
      cases first : gateway.firstMessage? call with
      | none => exact (ends_of_first first).1
      | some message =>
          exact absurd (ends_of_first first).2.1 (succeeds _ (List.mem_cons_self ..))

/-- A run up to where a caller reads the last error: the calls before the latest failed one, that
call, and the calls after it, none of which fails.
-/
structure FailedRun where
  earlier : List Call
  call : Call
  later : List Call
  fails : ((empty.run earlier).1.outcome call).code? = some (-1)
  latest :
    ∀ observation ∈ (((empty.run earlier).1.next call).run later).2,
      observation.outcome.code? ≠ some (-1)

namespace FailedRun

def calls (run : FailedRun) : List Call := run.earlier ++ run.call :: run.later

/-- The gateway as the failed call found it. -/
def before (run : FailedRun) : Gateway := (empty.run run.earlier).1

def lastError (run : FailedRun) : LastError := (empty.run run.calls).1.lastError

/-- The bytes that the caller reads. -/
def read (run : FailedRun) : List UInt8 := Text.untilZero run.lastError.bytes

theorem lastError_eq (run : FailedRun)
    : run.lastError = (run.before.next run.call).lastError := by
  rw [lastError, calls, run_append]
  exact lastError_run run.latest

theorem spells (run : FailedRun)
    : ∃ message,
        run.before.firstMessage? run.call = some message
        ∧ Spells run.lastError.bytes message := by
  obtain ⟨message, first⟩ := firstMessage?_of_fails run.fails
  refine ⟨message, first, ?_⟩
  rw [run.lastError_eq]
  exact spells_next first

end FailedRun

/-- In every run, callers read the whole message of the latest failure. Two failed look-ups read
alike exactly when the names decode alike, so that the message gives the name back, and no other
failure reads like one.
-/
theorem failures_are_read_in_full (run other : FailedRun)
    : (∃ message,
        run.before.firstMessage? run.call = some message
        ∧ Spells run.lastError.bytes message
        ∧ run.lastError.text? = some message)
      ∧ (∀ raw,
          run.before.Seeks run.call raw
          → Text.decode? run.read = some (missingMessage (decodeRaw raw))
            ∧ (Text.decode? run.read).bind requested? = some (decodeRaw raw))
      ∧ ((∀ raw, ¬ run.before.Seeks run.call raw)
          → ∃ argument : Argument, Text.decode? run.read = some (nullMessage argument.label))
      ∧ (∀ raw otherRaw,
          run.before.Seeks run.call raw
          → other.before.Seeks other.call otherRaw
          → (run.read = other.read ↔ decodeRaw raw = decodeRaw otherRaw))
      ∧ ∀ raw,
          run.before.Seeks run.call raw
          → (∀ otherRaw, ¬ other.before.Seeks other.call otherRaw)
          → run.read ≠ other.read := by
  obtain ⟨message, first, spells⟩ := run.spells
  obtain ⟨otherMessage, otherFirst, otherSpells⟩ := other.spells
  have reads : Text.decode? run.read = some message := spells.wellFormed
  refine ⟨⟨message, first, spells, ?_⟩, ?_, ?_, ?_, ?_⟩
  · have stored : run.lastError.bytes.isEmpty = false := by
      simp [spells.terminated]
    rw [LastError.text?, stored]
    exact congrArg some (Text.decodeLossy_of_decode? spells.wellFormed)
  · intro raw seeks
    rw [reads, message_of_seeks seeks first]
    exact ⟨rfl, requested?_missingMessage _⟩
  · intro idle
    obtain ⟨argument, null⟩ := null_of_idle idle first
    exact ⟨argument, reads.trans (congrArg some null)⟩
  · intro raw otherRaw seeks otherSeeks
    rw [← missingMessage_inj, ← message_of_seeks seeks first,
      ← message_of_seeks otherSeeks otherFirst]
    exact spells.read_eq_iff otherSpells
  · intro raw seeks otherIdle same
    obtain ⟨argument, null⟩ := null_of_idle otherIdle otherFirst
    have alike := (spells.read_eq_iff otherSpells).mp same
    rw [message_of_seeks seeks first, null] at alike
    exact missingMessage_ne_nullMessage _ _ alike

/-- The name ends with the words that follow it in the message, and still comes back. -/
theorem quoted_name_comes_back
    : ∃ run : FailedRun,
        run.lastError.text?
          = some "Could not find IMU sensor 'a' in ImuSensorRegistry' in ImuSensorRegistry"
        ∧ (Text.decode? run.read).bind requested? = some "a' in ImuSensorRegistry" := by
  let raw := Text.utf8Bytes "a' in ImuSensorRegistry"
  let run : FailedRun :=
    { earlier := [.newRegistry "robot"]
      call := .capabilities (some "robot") (some raw)
      later := [.size (some "robot"), .lastError]
      fails := rfl
      latest := List.forall_mem_cons.mpr
        ⟨code_ne_failed 0, List.forall_mem_singleton.mpr none_ne_failed⟩ }
  have seeks : run.before.Seeks run.call raw := ⟨"robot", rfl, .capabilities⟩
  refine ⟨run, rfl, ?_⟩
  rw [((failures_are_read_in_full run run).2.1 raw seeks).2]
  rfl

end Inertial.Gateway
