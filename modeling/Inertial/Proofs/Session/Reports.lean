import Inertial.Proofs.Registry.AuditTrail
import Inertial.Proofs.Session.Effects

/-! What commands report. Only the operations on registries report anything, so what is reported of
one registry in a run is its own log.
-/

namespace Inertial.Session

/-- What there is to say of a command, for each operation on a registry that it stands for. -/
def account (session : Session) : Command → List LogLine
  | .registry name command => (session.asked command).flatMap (session.registry name).account
  | _ => []

/-- The registry that a command is made on. -/
def Command.target? : Command → Option String
  | registry name _ => some name
  | _ => none

/-- What the commands on the registry of this name report in a run. -/
def reportsOn (session : Session) (name : String) (commands : List Command) : List LogRecord :=
  (commands.zip (session.run commands).2).flatMap fun (command, answered) =>
    if command.target? = some name then answered.records else []

variable {session : Session} {name : String}

theorem stepRegistry_records (command : RegistryCommand)
    : (session.stepRegistry name command).records
      = (session.asked command).flatMap (session.registry name).records := by
  cases command with
  | register sensor =>
      simp only [stepRegistry, asked]
      cases session.descriptor? sensor with
      | none => rfl
      | some descriptor => exact (List.append_nil _).symm
  | lookup sensor keepAs =>
      simp only [stepRegistry, asked]
      split <;> exact (List.append_nil _).symm
  | unregister sensor keepAs =>
      simp only [stepRegistry, asked]
      split <;> exact (List.append_nil _).symm
  | _ => rfl

theorem records_of_no_target {command : Command} (none : command.target? = none)
    : (session.step command).records = [] := by
  cases command with
  | registry _ _ => cases none
  | handle name command =>
      simp only [step]
      cases session.handles[name]? with
      | none => rfl
      | some handle =>
          cases command with
          | copyTo copy => rfl
          | _ => exact (session.spares_handle handle (by simp)).reports
  | newHandle _ sensor =>
      simp only [step]
      split <;> rfl
  | dropHandle _ => rfl
  | _ => exact (session.spares_idle rfl).reports

/-- In a registry that keeps every handle under its name, a command reports what there is to say. -/
theorem step_lines (named : ∀ name, (session.registry name).Named) (command : Command)
    : (session.step command).records.map LogRecord.line = session.account command := by
  have quiet {other : Command} (none : other.target? = none)
      : (session.step other).records.map LogRecord.line = [] := by
    rw [records_of_no_target none, List.map_nil]
  cases command with
  | registry name command =>
      have said (operation : Registry.Operation)
          : ((session.registry name).records operation).map LogRecord.line
            = (session.registry name).account operation :=
        (named name).lines_eq operation
      rw [step, stepRegistry_records, List.map_flatMap, funext said]
      rfl
  | _ => exact quiet rfl

/-- A look-up reports what it answers. -/
theorem lookup_reported (sensor : String) (keepAs : Option String)
    : let answered := session.step (.registry name (.lookup sensor keepAs))
      let lines := answered.records.map LogRecord.line
      (∃ handle, answered.result.2 = .sensor handle)
        ∧ lines = [⟨"TRACE", s!"Lookup of IMU sensor '{sensor}'"⟩]
      ∨ answered.result.2 = .notFound ⟨sensor, Registry.interfaceName⟩
        ∧ lines = [⟨"DEBUG", s!"IMU sensor '{sensor}' is not registered"⟩] := by
  simp only [step, stepRegistry, Registry.lookup]
  cases (session.registry name).handles[sensor]? with
  | none => exact .inr ⟨rfl, rfl⟩
  | some handle => exact .inl ⟨⟨handle, rfl⟩, rfl⟩

/-- A command never stands for more than one operation that reports anything. -/
theorem log_asked (registry : Registry) (command : RegistryCommand)
    : registry.log (session.asked command)
      = (session.asked command).flatMap registry.records := by
  cases command with
  | register sensor =>
      simp only [asked]
      cases session.descriptor? sensor <;> rfl
  | _ => rfl

theorem log_operationsOn (command : Command)
    : (session.registry name).log (session.operationsOn name command)
      = if command.target? = some name then (session.step command).records else [] := by
  cases command with
  | registry target command =>
      simp only [operationsOn, Command.target?, Option.some.injEq]
      by_cases same : target = name
      · subst target
        rw [if_pos rfl, if_pos rfl, log_asked]
        exact (stepRegistry_records command).symm
      · rw [if_neg same, if_neg same]
        rfl
  | _ => rfl

/-- The reports on a registry are the log of the operations on it, by induction on the commands. -/
theorem reportsOn_eq_log {commands : List Command}
    (kept : ∀ command ∈ commands, command.resets name = false)
    : session.reportsOn name commands
      = (session.registry name).log (session.operations name commands) := by
  induction commands generalizing session with
  | nil => rfl
  | cons command rest ih =>
      have later : session.reportsOn name (command :: rest)
          = (if command.target? = some name then (session.step command).records else [])
            ++ (session.next command).reportsOn name rest := rfl
      rw [later, ih fun command member => kept command (by simp [member]), operations,
        Registry.log_append, log_operationsOn, registry_next (kept command (by simp))]

end Inertial.Session
