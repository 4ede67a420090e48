import Inertial.Proofs.Gateway.Checks

/-! Failures of calls. The first check that fails decides what callers read as the last error, a
failed call changes nothing else, and all other calls leave the last error alone.
-/

namespace Inertial.Gateway

/-- The status number that a call gives back, if it gives one. -/
def Outcome.code? : Outcome → Option Int
  | status code => some code
  | sampled code _ => some code
  | _ => none

/-- The sample in the caller's hands after a call. -/
def Outcome.output? : Outcome → Option Sample
  | sampled _ output => output
  | _ => none

/-- The sample that a caller passes for the call to fill. -/
def Call.output? : Call → Option Sample
  | read _ _ output => output
  | _ => none

/-- A message without a zero character comes back from its zero-terminated bytes. -/
theorem LastError.text?_ofFailure {failure : CallFailure}
    (zeroFree : Text.ZeroFree failure.message)
    : (LastError.ofFailure failure).text? = some failure.message := by
  have present : (LastError.ofFailure failure).bytes.isEmpty = false := by
    simp [LastError.ofFailure, Text.zeroTerminated]
  rw [LastError.text?, present, LastError.ofFailure, zeroFree.untilZero_zeroTerminated,
    Text.decodeLossy_utf8Bytes]
  rfl

variable {gateway : Gateway}

/-- What a call does about the message of its first failure. It only sets the last error then, and
otherwise it leaves the last error alone.
-/
def Ends (gateway : Gateway) (call : Call) : Option String → Prop
  | some message =>
      (∃ failure : CallFailure,
        failure.message = message ∧ gateway.next call = gateway.fail failure)
      ∧ (gateway.outcome call).code? = some failed
      ∧ (gateway.outcome call).output? = call.output?
  | none =>
      (gateway.next call).lastError = gateway.lastError
      ∧ (gateway.outcome call).code? ≠ some failed

/-- No number that a successful call gives back is that of a failure. -/
theorem code_ne_failed (number : Nat) : some (number : Int) ≠ some failed := by
  intro same
  cases same

theorem none_ne_failed : none ≠ some failed := by
  intro same
  cases same

theorem ends_register (reference : Reference) (sensor : Option SensorRecord)
    : gateway.Ends (.register reference sensor)
        (gateway.firstMessage? (.register reference sensor)) := by
  rw [firstMessage?_register]
  unfold Ends next outcome
  simp only [step, register_result]
  cases gateway.registration reference sensor with
  | error failure => exact ⟨⟨_, rfl, rfl⟩, rfl, rfl⟩
  | ok arguments =>
      obtain ⟨registryName, registry, sensor, name⟩ := arguments
      simp only
      cases gateway.descriptor? sensor name with
      | none => exact ⟨rfl, none_ne_failed⟩
      | some descriptor => exact ⟨rfl, code_ne_failed 0⟩

theorem ends_size (reference : Reference)
    : gateway.Ends (.size reference) (gateway.firstMessage? (.size reference)) := by
  rw [firstMessage?_size]
  unfold Ends next outcome
  simp only [step, size_result]
  cases gateway.live? reference with
  | none => exact ⟨⟨_, rfl, rfl⟩, rfl, rfl⟩
  | some entry => exact ⟨rfl, code_ne_failed _⟩

theorem ends_capabilities (reference : Reference) (name : RawText)
    : gateway.Ends (.capabilities reference name)
        (gateway.firstMessage? (.capabilities reference name)) := by
  rw [firstMessage?_capabilities]
  unfold Ends next outcome
  simp only [step, capabilities_result]
  cases (gateway.lookup reference name).result with
  | error failure => exact ⟨⟨_, rfl, rfl⟩, rfl, rfl⟩
  | ok handle => exact ⟨rfl, code_ne_failed _⟩

theorem ends_read (reference : Reference) (name : RawText) (output : Option Sample)
    : gateway.Ends (.read reference name output)
        (gateway.firstMessage? (.read reference name output)) := by
  cases output with
  | none => exact ⟨⟨_, rfl, rfl⟩, rfl, rfl⟩
  | some output =>
      rw [firstMessage?_read, firstMessage?_capabilities]
      unfold Ends next outcome
      simp only [step, read_result]
      cases (gateway.lookup reference name).result with
      | error failure => exact ⟨⟨_, rfl, rfl⟩, rfl, rfl⟩
      | ok handle => exact ⟨rfl, code_ne_failed 0⟩

theorem ends_writeArray (array : String) (index : Nat) (value : Double)
    : gateway.Ends (.writeArray array index value) none := by
  unfold Ends next outcome
  simp only [step, writeArray]
  split
  · exact ⟨rfl, none_ne_failed⟩
  · split <;> exact ⟨rfl, none_ne_failed⟩

/-- Every call ends with the first failure of its checks, or with none. -/
theorem ends_firstMessage? (call : Call) : gateway.Ends call (gateway.firstMessage? call) := by
  cases call with
  | register reference sensor => exact ends_register reference sensor
  | size reference => exact ends_size reference
  | capabilities reference name => exact ends_capabilities reference name
  | read reference name output => exact ends_read reference name output
  | writeArray array index value => exact ends_writeArray array index value
  | freeRegistry reference => cases reference <;> exact ⟨rfl, none_ne_failed⟩
  | newArray array size values => exact ⟨rfl, none_ne_failed⟩
  | newRegistry name => exact ⟨rfl, none_ne_failed⟩
  | lastError => exact ⟨rfl, none_ne_failed⟩

theorem Ends.text? {call : Call} {message : String} (ends : gateway.Ends call (some message))
    (zeroFree : Text.ZeroFree message)
    : (gateway.next call).lastError.text? = some message := by
  obtain ⟨⟨failure, rfl, next⟩, _, _⟩ := ends
  rw [next]
  exact LastError.text?_ofFailure zeroFree

/-- The messages of all failures of a run, in the order of time. -/
def messages (gateway : Gateway) : List Call → List String
  | [] => []
  | call :: rest => (gateway.firstMessage? call).toList ++ (gateway.next call).messages rest

/-- After a run, callers read the message of its last failure, by induction on the calls. Without a
failure they read what they read before.
-/
theorem text?_run (calls : List Call)
    : (gateway.run calls).1.lastError.text?
      = match (gateway.messages calls).getLast? with
        | some message => some message
        | none => gateway.lastError.text? := by
  induction calls generalizing gateway with
  | nil => rfl
  | cons call rest ih =>
      have ends := gateway.ends_firstMessage? call
      have later : (gateway.run (call :: rest)).1 = ((gateway.next call).run rest).1 := rfl
      rw [later, ih, messages]
      cases first : gateway.firstMessage? call with
      | none =>
          rw [first] at ends
          rw [Option.toList_none, List.nil_append, ends.1]
      | some message =>
          rw [first] at ends
          rw [ends.text? (gateway.firstMessage?_zeroFree first), Option.toList_some,
            List.getLast?_append]
          cases ((gateway.next call).messages rest).getLast? <;> rfl

/-- In every run, a call fails exactly when one of its checks does. The first one in order decides
the last error, and all else stays as it was, the output sample included. Other calls leave the last
error alone, so after a run it is the message of the last failure, or nothing.
-/
theorem last_error_is_last_failure (calls : List Call)
    : let gateway := (empty.run calls).1
      (∀ call,
        match gateway.firstMessage? call with
        | some message =>
            (gateway.outcome call).code? = some (-1)
            ∧ (gateway.next call).lastError.text? = some message
            ∧ gateway.DiffersInError (gateway.next call)
            ∧ (gateway.outcome call).output? = call.output?
        | none =>
            (gateway.outcome call).code? ≠ some (-1)
            ∧ (gateway.next call).lastError = gateway.lastError)
      ∧ gateway.lastError.text? = (empty.messages calls).getLast? := by
  intro gateway
  constructor
  · intro call
    have ends := gateway.ends_firstMessage? call
    cases first : gateway.firstMessage? call with
    | none =>
        rw [first] at ends
        exact ⟨ends.2, ends.1⟩
    | some message =>
        rw [first] at ends
        have text := ends.text? (gateway.firstMessage?_zeroFree first)
        obtain ⟨⟨failure, _, next⟩, code, output⟩ := ends
        refine ⟨code, text, ?_, output⟩
        rw [next]
        exact ⟨rfl, rfl, rfl⟩
  · rw [text?_run]
    cases (empty.messages calls).getLast? <;> rfl

-- The output sample is checked before the registry, and the call that succeeds takes nothing back.
example
    : let calls : List Call :=
        [.size none, .read none none none, .newRegistry "robot", .size (some "robot")]
      (empty.run calls).1.lastError.text? = some "Invalid argument: output sample is null" := by
  rfl

end Inertial.Gateway
