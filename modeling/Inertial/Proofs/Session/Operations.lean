import Inertial.Session

/-! What commands leave alone. Apart from commands to registries and the few that keep or drop a
handle, no command changes which handles there are, and none of them is reported.
-/

namespace Inertial.Session

/-- The session after a command. -/
def next (session : Session) (command : Command) : Session := (session.step command).result.1

theorem run_append (session : Session) (earlier later : List Command)
    : (session.run (earlier ++ later)).1 = ((session.run earlier).1.run later).1 := by
  induction earlier generalizing session with
  | nil => rfl
  | cons command rest ih => exact ih (session.next command)

/-- The handles that an answer gives out. -/
def Answer.handles : Answer → List Handle
  | sensor handle => [handle]
  | overview _ _ sensors => sensors
  | _ => []

/-- Registries and kept handles stay as they are, the answer gives out no handle but these, and
nothing is reported.
-/
structure Spares (session : Session) (given : List Handle) (stepped : Logged (Session × Answer))
    : Prop where
  registries : stepped.result.1.registries = session.registries
  handles : stepped.result.1.handles = session.handles
  answers : ∀ handle ∈ stepped.result.2.handles, handle ∈ given
  reports : stepped.records = []

variable (session : Session) {given : List Handle}

theorem spares_quietly {answer : Answer} (none : answer.handles = [])
    : session.Spares given (session.quietly answer) :=
  ⟨rfl, rfl, by simp [quietly, none], rfl⟩

theorem spares_writeCell {size : Nat} (buffer : Buffer size) (index : Nat) (value : Double)
    : session.Spares given (session.writeCell buffer index value) := by
  unfold writeCell
  split
  · exact ⟨rfl, rfl, by simp [quietly, Answer.handles], rfl⟩
  · exact session.spares_quietly rfl

theorem spares_driver (command : DriverCommand)
    : session.Spares given (session.stepDriver command) := by
  have done (memory : Memory) (buffers : NameMap SizedBuffer) (storages : NameMap Storage)
      : session.Spares given ⟨({ session with memory, buffers, storages }, .done), []⟩ :=
    ⟨rfl, rfl, by simp [Answer.handles], rfl⟩
  cases command with
  | newBuffer _ _ _ => exact done _ _ _
  | newStorage _ => exact done _ _ _
  | store _ _ _ =>
      simp only [stepDriver]
      split
      · exact session.spares_quietly rfl
      · exact done _ _ _
  | storeChannel _ _ _ =>
      simp only [stepDriver]
      split
      · exact session.spares_quietly rfl
      · exact done _ _ _
  | write _ index value =>
      simp only [stepDriver]
      split
      · exact session.spares_quietly rfl
      · exact session.spares_writeCell _ index value
  | writeChannel _ channel index value =>
      simp only [stepDriver]
      split
      · exact session.spares_quietly rfl
      · exact session.spares_writeCell _ index value

/-- A handle gives out itself at most, and only a copy of it is kept. -/
theorem spares_handle (handle : Handle) {command : HandleCommand}
    (kept : ∀ copy, command ≠ .copyTo copy)
    : session.Spares [handle] (session.stepHandle handle command) := by
  cases command with
  | copyTo copy => exact absurd rfl (kept copy)
  | describe => exact ⟨rfl, rfl, fun _ given => given, rfl⟩
  | view _ =>
      simp only [stepHandle]
      split <;> exact session.spares_quietly rfl
  | write _ index value =>
      simp only [stepHandle]
      split
      · exact session.spares_quietly rfl
      · exact session.spares_writeCell _ index value
  | aliases _ _ =>
      simp only [stepHandle]
      split
      · exact session.spares_quietly rfl
      · split <;> exact session.spares_quietly rfl
  | read keepAs =>
      cases keepAs <;> exact ⟨rfl, rfl, by simp [stepHandle, quietly, Answer.handles], rfl⟩
  | has _ => exact session.spares_quietly rfl
  | sample => exact session.spares_quietly rfl
  | inspect _ => exact session.spares_quietly rfl

/-- The command is about drivers' memory, readings or listings only. -/
def Command.idle : Command → Bool
  | driver _ => true
  | «recall» _ => true
  | compare _ _ => true
  | interfaceName => true
  | inspectStorage _ _ => true
  | inspectSensor _ _ => true
  | _ => false

theorem spares_idle {command : Command} (idle : command.idle = true)
    : session.Spares [] (session.step command) := by
  cases command with
  | driver command => exact session.spares_driver command
  | interfaceName => exact session.spares_quietly rfl
  | «recall» _ =>
      simp only [step]
      split <;> exact session.spares_quietly rfl
  | compare _ _ =>
      simp only [step]
      split <;> exact session.spares_quietly rfl
  | inspectStorage _ _ =>
      simp only [step]
      split <;> exact session.spares_quietly rfl
  | inspectSensor _ _ =>
      simp only [step]
      split <;> exact session.spares_quietly rfl
  | registry _ _ => cases idle
  | handle _ _ => cases idle
  | newHandle _ _ => cases idle
  | dropHandle _ => cases idle

end Inertial.Session
