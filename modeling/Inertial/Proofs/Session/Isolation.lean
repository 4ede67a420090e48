import Inertial.Proofs.Session.Effects

/-! The history of a registry: the registrations and removals that made it what it is. A copy takes
over the history of its source and goes its own way from there, and a dropped registry starts anew.
-/

namespace Inertial

/-- The operation puts a sensor into the registry or takes one away. -/
def Registry.Operation.changes : Operation → Bool
  | register _ => true
  | unregister _ => true
  | _ => false

/-- Queries can be left out of what made a registry what it is, by induction on the operations. -/
theorem Registry.foldl_changes (registry : Registry) (operations : List Operation)
    : (operations.filter Operation.changes).foldl apply registry
      = operations.foldl apply registry := by
  induction operations generalizing registry with
  | nil => rfl
  | cons operation rest ih => cases operation <;> exact ih _

namespace Session

/-- For each name of a registry, the registrations and removals in the order of time. -/
abbrev Histories : Type := String → List Registry.Operation

namespace Histories

def empty : Histories := fun _ => []

/-- The histories after a command, which reaches the session as it is before the command. -/
def step (histories : Histories) (session : Session) : Command → Histories
  | .registry source (.copyTo copy) => Function.update histories copy (histories source)
  | .registry target .drop => Function.update histories target []
  | command => fun name =>
      histories name ++ (session.operationsOn name command).filter Registry.Operation.changes

def run (histories : Histories) (session : Session) : List Command → Histories
  | [] => histories
  | command :: rest => (histories.step session command).run (session.next command) rest

/-- Every registry is what its own history makes of an empty one. -/
def Explain (histories : Histories) (session : Session) : Prop :=
  ∀ name, session.registry name = .after (histories name)

variable {histories : Histories} {session : Session}

theorem explain_empty : empty.Explain .empty := by
  intro name
  simp [empty, Session.empty, Session.registry, Registry.after]

theorem step_of_not_resets {command : Command} {name : String}
    (kept : command.resets name = false)
    : histories.step session command name
      = histories name
        ++ (session.operationsOn name command).filter Registry.Operation.changes := by
  cases command with
  | registry target command =>
      cases command with
      | copyTo copy =>
          simp only [step, operationsOn, asked, ite_self, List.filter_nil, List.append_nil]
          by_cases same : copy = name
          · have own : target = name := by simpa [Command.resets, same] using kept
            rw [same, own, Function.update_self]
          · rw [Function.update_of_ne (Ne.symm same)]
      | drop =>
          have different : target ≠ name := by simpa [Command.resets] using kept
          simp [step, Function.update_of_ne different.symm, operationsOn, different]
      | _ => rfl
  | _ => rfl

/-- A command that resets a registry makes its history that of the source or an empty one. -/
theorem Explain.step_reset (explain : histories.Explain session) {command : Command}
    {name : String} (reset : command.resets name = true)
    : (session.next command).registry name
      = .after (histories.step session command name) := by
  cases command with
  | registry target command =>
      cases command with
      | copyTo copy =>
          obtain rfl : copy = name := by simpa using (Bool.and_eq_true_iff.mp reset).1
          rw [registry_copied, if_pos rfl, step, Function.update_self]
          exact explain target
      | drop =>
          obtain rfl : target = name := by simpa [Command.resets] using reset
          rw [registry_dropped, if_pos rfl, step, Function.update_self]
          rfl
      | _ => cases reset
  | _ => cases reset

theorem Explain.step (explain : histories.Explain session) (command : Command)
    : (histories.step session command).Explain (session.next command) := by
  intro name
  cases reset : command.resets name with
  | true => exact explain.step_reset reset
  | false =>
      rw [registry_next reset, step_of_not_resets reset, explain name, Registry.after,
        Registry.after, List.foldl_append, Registry.foldl_changes]

/-- In every run the histories explain the registries, by induction on the commands. -/
theorem Explain.run (explain : histories.Explain session) (commands : List Command)
    : (histories.run session commands).Explain (session.run commands).1 := by
  induction commands generalizing histories session with
  | nil => exact explain
  | cons command rest ih => exact ih (explain.step command)

end Histories

variable {session : Session}

theorem run_explain (commands : List Command)
    : (Histories.empty.run empty commands).Explain (empty.run commands).1 :=
  Histories.explain_empty.run commands

/-- The session with this one registry and no other. -/
def alone (session : Session) (name : String) (registry : Registry) : Session :=
  { session with registries := (∅ : NameMap Registry).insert name registry }

theorem registry_alone (session : Session) (name : String) (registry : Registry)
    : (session.alone name registry).registry name = registry := by
  simp [alone, Session.registry]

/-- What a session answers about a registry depends on no other registry. -/
theorem stepRegistry_alone (session : Session) (name : String) (command : RegistryCommand)
    : let alone := session.alone name (session.registry name)
      (alone.stepRegistry name command).result.2 = (session.stepRegistry name command).result.2
      ∧ (alone.stepRegistry name command).records
        = (session.stepRegistry name command).records := by
  intro alone
  have same : alone.registry name = session.registry name := registry_alone session name _
  have memory : alone.memory = session.memory := rfl
  have described (sensor : SensorSource) : alone.descriptor? sensor = session.descriptor? sensor :=
    rfl
  cases command with
  | register sensor =>
      simp only [stepRegistry, described]
      cases session.descriptor? sensor with
      | none => exact ⟨rfl, rfl⟩
      | some descriptor => simp only [same, and_self]
  | lookup sensor keepAs =>
      simp only [stepRegistry, same]
      split <;> exact ⟨rfl, rfl⟩
  | unregister sensor keepAs =>
      simp only [stepRegistry, same]
      split <;> exact ⟨rfl, rfl⟩
  | copyTo _ => exact ⟨rfl, rfl⟩
  | drop => exact ⟨rfl, rfl⟩
  | _ =>
      simp only [stepRegistry, quietly, same, memory, and_self]

/-- A registry keeps what it has through all commands that name no place of it. -/
theorem registry_run_unassigned {commands : List Command} {name : String}
    (untouched : ∀ command ∈ commands, ∀ sensor, ¬ command.Assigns (.registered name sensor))
    : (session.run commands).1.registry name = session.registry name :=
  registry_ext fun sensor => handleAt?_run fun command member => untouched command member sensor

/-- In every run, a session answers about a registry as if it were the only one and had gone through
nothing but its own history. After a copy, what is done to one of the two does not reach the other,
and wherever neither was touched they give out the same handle, with the same buffers.
-/
theorem registries_are_isolated (commands : List Command)
    : let session := (empty.run commands).1
      let histories := Histories.empty.run empty commands
      (∀ name,
        session.registry name = .after (histories name)
        ∧ ∀ command,
            let replayed := session.alone name (.after (histories name))
            (session.stepRegistry name command).result.2
              = (replayed.stepRegistry name command).result.2
            ∧ (session.stepRegistry name command).records
              = (replayed.stepRegistry name command).records)
      ∧ ∀ source copy later,
          let copied := session.next (.registry source (.copyTo copy))
          let final := (copied.run later).1
          ((∀ command ∈ later, ∀ sensor, ¬ command.Assigns (.registered source sensor))
            → final.registry source = session.registry source)
          ∧ ((∀ command ∈ later, ∀ sensor, ¬ command.Assigns (.registered copy sensor))
            → final.registry copy = session.registry source)
          ∧ ∀ sensor,
              (∀ command ∈ later, ¬ command.Assigns (.registered source sensor))
              → (∀ command ∈ later, ¬ command.Assigns (.registered copy sensor))
              → final.handleAt? (.registered source sensor)
                = final.handleAt? (.registered copy sensor) := by
  intro session histories
  have explain : histories.Explain session := run_explain commands
  constructor
  · intro name
    refine ⟨explain name, fun command => ?_⟩
    intro replayed
    have answers := session.stepRegistry_alone name command
    simp only [explain name] at answers
    exact ⟨answers.1.symm, answers.2.symm⟩
  · intro source copy later copied final
    have fromSource : copied.registry source = session.registry source := by
      rw [registry_copied, ite_self]
    have fromCopy : copied.registry copy = session.registry source := by
      rw [registry_copied, if_pos rfl]
    refine ⟨?_, ?_, ?_⟩
    · intro untouched
      rw [← fromSource]
      exact registry_run_unassigned untouched
    · intro untouched
      rw [← fromCopy]
      exact registry_run_unassigned untouched
    · intro sensor sourceKept copyKept
      rw [handleAt?_run sourceKept, handleAt?_run copyKept]
      simp only [handleAt?, fromSource, fromCopy]

end Session

end Inertial
