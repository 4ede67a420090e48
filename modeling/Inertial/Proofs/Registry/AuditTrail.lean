import Inertial.Proofs.LogKinds
import Inertial.Proofs.Registry.LastOperation

/-! What a registry reports of its operations, and how its size follows from that. Each registration
adds one, and each replacement and each removal takes one away.
-/

namespace Inertial

namespace Registry

/-- What an operation reports. -/
def records (registry : Registry) : Operation → List LogRecord
  | .register descriptor => (registry.register descriptor).records
  | .unregister name => (registry.unregister name).records
  | .lookup name => (registry.lookup name).records
  | _ => []

/-- What the operations report, each on the registry that the ones before it leave. -/
def log (registry : Registry) : List Operation → List LogRecord
  | [] => []
  | operation :: rest => registry.records operation ++ (registry.apply operation).log rest

/-- What there is to say of an operation: which sensor it registers and whether the name was taken,
which one it takes away if it is there, and whether a look-up finds the name. There is nothing to
say of all else.
-/
def account (registry : Registry) : Operation → List LogLine
  | .register descriptor =>
      let capabilities := Handle.presentChannels descriptor.toPerChannel
      let registering := LogLine.registering descriptor.name descriptor.frame capabilities
      if registry.contains descriptor.name then
        [registering, .replacing descriptor.name]
      else
        [registering]
  | .unregister name => if registry.contains name then [.unregistered name] else []
  | .lookup name => if registry.contains name then [.found name] else [.missing name]
  | _ => []

/-- Every handle is kept under its own name. -/
def Named (registry : Registry) : Prop :=
  ∀ name (handle : Handle), registry.handles[name]? = some handle → handle.name = name

theorem named_after (operations : List Operation) : (after operations).Named :=
  fun _ _ found => found_name operations found

variable {registry : Registry}

theorem Named.apply (named : registry.Named) (operation : Operation)
    : (registry.apply operation).Named := by
  cases operation with
  | register descriptor =>
      intro name handle found
      rw [Registry.apply, register_result, NameMap.getElem?_insert] at found
      split at found
      · next same =>
          cases found
          exact same
      · exact named name handle found
  | unregister other =>
      intro name handle found
      rw [Registry.apply, unregister_result, NameMap.getElem?_erase] at found
      split at found
      · cases found
      · exact named name handle found
  | _ => exact named

/-- The warning is about the handle that was there, which has the name of the new sensor. -/
theorem Named.lines_eq (named : registry.Named) (operation : Operation)
    : (registry.records operation).map LogRecord.line = registry.account operation := by
  cases operation with
  | register descriptor =>
      simp only [records, register, account, contains_eq_isSome, Handle.ofDescriptor]
      cases found : registry.handles[descriptor.name]? with
      | none => rfl
      | some previous =>
          rw [← named _ _ found]
          rfl
  | unregister name =>
      simp only [records, unregister, account, contains_eq_isSome]
      cases registry.handles[name]? <;> rfl
  | lookup name =>
      simp only [records, lookup, account, contains_eq_isSome]
      cases registry.handles[name]? <;> rfl
  | _ => rfl

-- The second removal finds nothing to take away and is not reported.
example
    : let imu := Descriptor.bare "imu" "base"
      let operations : List Operation :=
        [.register imu, .register imu, .unregister "imu", .unregister "imu"]
      (Registry.empty.log operations).map LogRecord.level
      = [.debug, .debug, .warning, .debug] := by
  rfl

theorem log_append (registry : Registry) (first second : List Operation)
    : registry.log (first ++ second)
      = registry.log first ++ (first.foldl apply registry).log second := by
  induction first generalizing registry with
  | nil => rfl
  | cons operation rest ih =>
      rw [List.cons_append, log, ih, log, List.append_assoc, List.foldl_cons]

/-- The sizes differ by the registrations less the replacements and removals. -/
def Balances (lines : List LogLine) (before after : Registry) : Prop :=
  (after.size : Int) - before.size
  = lines.countP LogLine.isRegistering - lines.countP LogLine.isReplacing
    - lines.countP LogLine.isUnregistered

theorem balances_nil (registry : Registry) : Balances [] registry registry := by
  simp [Balances]

theorem Balances.append {first second : List LogLine} {before middle after : Registry}
    (earlier : Balances first before middle) (later : Balances second middle after)
    : Balances (first ++ second) before after := by
  unfold Balances at *
  simp only [List.countP_append]
  omega

theorem balances_account (registry : Registry) (operation : Operation)
    : Balances (registry.account operation) registry (registry.apply operation) := by
  cases operation with
  | register descriptor =>
      simp only [Balances, account, apply, size_register]
      cases registry.contains descriptor.name with
      | true => simp
      | false =>
          have grown : (registry.size : Int) + 1 - registry.size = 1 := by omega
          simp [grown]
  | unregister name =>
      simp only [Balances, account, apply, size_unregister]
      cases contained : registry.contains name with
      | true =>
          have shrunk : ((registry.size - 1 : Nat) : Int) - registry.size = -1 := by
            have positive := registry.size_pos_of_contains contained
            omega
          simp [shrunk]
      | false => simp
  | lookup name =>
      simp only [Balances, account, apply]
      split <;> simp
  | _ => exact balances_nil registry

/-- A list of operations reports what each of them does on the registry that it meets. -/
theorem Named.balances_log (named : registry.Named) (operations : List Operation)
    : Balances ((registry.log operations).map LogRecord.line) registry
        (operations.foldl Registry.apply registry) := by
  induction operations generalizing registry with
  | nil => exact balances_nil registry
  | cons operation rest ih =>
      rw [log, List.map_append, named.lines_eq operation]
      exact (balances_account registry operation).append (ih (named.apply operation))

/-- Every warning is about a replacement and stands right after the registration of that name. -/
def Paired (lines : List LogLine) : Prop :=
  ∀ earlier warning later,
    lines = earlier ++ warning :: later
    → warning.level = "WARN"
    → ∃ first name frame capabilities,
        warning = .replacing name ∧ earlier = first ++ [.registering name frame capabilities]

theorem paired_of_no_warning {lines : List LogLine} (none : ∀ line ∈ lines, line.level ≠ "WARN")
    : Paired lines := by
  rintro earlier warning later rfl warns
  exact absurd warns (none warning (by simp))

theorem Paired.append {first second : List LogLine} (front : Paired first) (back : Paired second)
    : Paired (first ++ second) := by
  intro earlier warning later split warns
  rcases List.append_eq_append_iff.mp split with ⟨rest, rfl, inBack⟩ | ⟨rest, inFront, joined⟩
  · obtain ⟨start, name, frame, capabilities, same, rfl⟩ := back rest warning later inBack warns
    exact ⟨first ++ start, name, frame, capabilities, same, by simp⟩
  · cases rest with
    | nil =>
        -- The second list would start with a warning.
        obtain ⟨start, name, frame, capabilities, _, impossible⟩ :=
          back [] warning later joined.symm warns
        simp at impossible
    | cons line rest =>
        cases joined
        exact front earlier warning rest inFront warns

/-- The two lines about a registration under a name that was taken. -/
theorem paired_replacing (name frame : String) (capabilities : Capabilities)
    : Paired [.registering name frame capabilities, .replacing name] := by
  have noWarning : "DEBUG" ≠ "WARN" := by decide
  rintro (_ | ⟨first, _ | ⟨second, rest⟩⟩) warning later split warns
  · cases split
    exact absurd warns noWarning
  · cases split
    exact ⟨[], name, frame, capabilities, rfl, rfl⟩
  · simp at split

theorem paired_account (registry : Registry) (operation : Operation)
    : Paired (registry.account operation) := by
  cases operation with
  | register descriptor =>
      simp only [account]
      split
      · exact paired_replacing _ _ _
      · exact paired_of_no_warning (by simp [LogLine.registering])
  | unregister name =>
      refine paired_of_no_warning ?_
      simp only [account]
      split <;> simp [LogLine.unregistered]
  | lookup name =>
      refine paired_of_no_warning ?_
      simp only [account]
      split <;> simp [LogLine.found, LogLine.missing]
  | _ => exact paired_of_no_warning (by simp [account])

theorem Named.paired_log (named : registry.Named) (operations : List Operation)
    : Paired ((registry.log operations).map LogRecord.line) := by
  induction operations generalizing registry with
  | nil => exact paired_of_no_warning (by simp [log])
  | cons operation rest ih =>
      rw [log, List.map_append, named.lines_eq operation]
      exact (registry.paired_account operation).append (ih (named.apply operation))

end Registry

end Inertial
