import Inertial.Proofs.Registry.LastOperation
import Inertial.Proofs.Session.Provenance

/-! What commands do to a registry. Unless another one is copied over it or it is dropped, a
registry only goes through the operations that the commands on it stand for.
-/

namespace Inertial.Session

/-- The operations that a command stands for. A registration of buffers that do not exist or do not
fit stands for none, and copies and drops are no operations on one registry.
-/
def asked (session : Session) : RegistryCommand → List Registry.Operation
  | .register sensor => ((session.descriptor? sensor).map .register).toList
  | .lookup sensor _ => [.lookup sensor]
  | .unregister sensor _ => [.unregister sensor]
  | .contains sensor => [.contains sensor]
  | .names => [.names]
  | .overview => [.size, .isEmpty, .sensors]
  | .readAll => [.sensors]
  | .inspect _ => [.sensors]
  | .copyTo _ => []
  | .drop => []

/-- What a command asks of the registry of this name. -/
def operationsOn (session : Session) (name : String) : Command → List Registry.Operation
  | .registry target command => if target = name then session.asked command else []
  | _ => []

/-- What the commands of a run ask of the registry of this name, in the order of time. -/
def operations (session : Session) (name : String) : List Command → List Registry.Operation
  | [] => []
  | command :: rest =>
      session.operationsOn name command ++ (session.next command).operations name rest

/-- The command drops the registry of this name or copies another one over it. -/
def Command.resets (name : String) : Command → Bool
  | registry source (.copyTo copy) => copy == name && source != name
  | registry target .drop => target == name
  | _ => false

variable {session : Session} {name : String}

/-- Registries with the same handles in all places are the same. -/
theorem registry_ext {other : Session}
    (same
      : ∀ sensor,
          other.handleAt? (.registered name sensor) = session.handleAt? (.registered name sensor))
    : other.registry name = session.registry name :=
  congrArg Registry.mk (Std.ExtTreeMap.ext_getElem? same)

/-- A registry that the command names no place of stays as it is. -/
theorem registry_unassigned {command : Command}
    (untouched : ∀ sensor, ¬ command.Assigns (.registered name sensor))
    : (session.next command).registry name = session.registry name := by
  apply registry_ext
  intro sensor
  have passed : session.Passes command (.registered name sensor) := passes command _
  exact passed.resolve_right fun assigned => untouched sensor assigned.1

theorem registry_copied (source copy : String)
    : (session.next (.registry source (.copyTo copy))).registry name
      = if copy = name then session.registry source else session.registry name :=
  session.registry_insert copy _ name

/-- A copy over another registry leaves this one as it is, and so does a copy onto itself. -/
theorem registry_not_copied {source copy : String}
    (kept : Command.resets name (.registry source (.copyTo copy)) = false)
    : (session.next (.registry source (.copyTo copy))).registry name = session.registry name := by
  rw [registry_copied]
  by_cases same : copy = name
  · have own : source = name := by simpa [Command.resets, same] using kept
    rw [if_pos same, own]
  · rw [if_neg same]

theorem registry_dropped (target : String)
    : (session.next (.registry target .drop)).registry name
      = if target = name then .empty else session.registry name :=
  session.registry_erase target name

theorem registry_asked_register (sensor : SensorSource)
    : (session.next (.registry name (.register sensor))).registry name
      = (session.asked (.register sensor)).foldl Registry.apply (session.registry name) := by
  simp only [next, step, stepRegistry, asked]
  cases session.descriptor? sensor with
  | none => rfl
  | some descriptor =>
      simp only [registry_insert, if_true]
      rfl

theorem registry_asked_unregister (sensor : String) (keepAs : Option String)
    : (session.next (.registry name (.unregister sensor keepAs))).registry name
      = (session.asked (.unregister sensor keepAs)).foldl Registry.apply
          (session.registry name) := by
  have removed :=
    session.registry_insert name ((session.registry name).unregister sensor).result.1 name
  rw [if_pos rfl] at removed
  simp only [next, step, stepRegistry, asked, List.foldl_cons, List.foldl_nil, Registry.apply]
  split
  · exact removed
  · cases keepAs <;> exact removed

/-- Commands on other registries, and commands that only ask, leave a registry as it is. -/
theorem registry_next {command : Command} (kept : command.resets name = false)
    : (session.next command).registry name
      = (session.operationsOn name command).foldl Registry.apply (session.registry name) := by
  cases command with
  | registry target command =>
      simp only [operationsOn]
      by_cases same : target = name
      · subst target
        rw [if_pos rfl]
        cases command with
        | register sensor => exact registry_asked_register sensor
        | unregister sensor keepAs => exact registry_asked_unregister sensor keepAs
        | copyTo copy => exact registry_not_copied kept
        | drop => simp [Command.resets] at kept
        | _ => exact registry_unassigned fun sensor => by simp [Command.Assigns]
      · rw [if_neg same, List.foldl_nil]
        cases command with
        | copyTo copy => exact registry_not_copied kept
        | _ => exact registry_unassigned fun sensor => by simp [Command.Assigns, Ne.symm same]
  | handle handle command =>
      refine registry_unassigned fun sensor => ?_
      cases command <;> simp [Command.Assigns]
  | _ => exact registry_unassigned fun sensor => by simp [Command.Assigns]

/-- A registry that is neither dropped nor copied over goes through the operations that the commands
on it stand for, one after the other, by induction on the commands.
-/
theorem registry_run {commands : List Command}
    (kept : ∀ command ∈ commands, command.resets name = false)
    : (session.run commands).1.registry name
      = (session.operations name commands).foldl Registry.apply (session.registry name) := by
  induction commands generalizing session with
  | nil => rfl
  | cons command rest ih =>
      have later : (session.run (command :: rest)).1 = ((session.next command).run rest).1 := rfl
      rw [later, ih fun command member => kept command (by simp [member]),
        registry_next (kept command (by simp)), operations, List.foldl_append]

end Inertial.Session
