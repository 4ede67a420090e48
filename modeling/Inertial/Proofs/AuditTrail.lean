import Inertial.Proofs.Gateway.Mirroring
import Inertial.Proofs.Gateway.Reports
import Inertial.Proofs.Session.Isolation
import Inertial.Proofs.Session.Reports

/-! The log as an audit trail. From what is reported of a registry follows how its size changed, in
sessions as well as through a gateway.
-/

namespace Inertial

namespace Session

theorem run_named (commands : List Command) (name : String)
    : ((empty.run commands).1.registry name).Named := by
  rw [run_explain commands name]
  exact Registry.named_after _

end Session

namespace Gateway

theorem run_named (calls : List Call) (name : String) (registry : Registry)
    (live : (empty.run calls).1.registries[name]? = some registry)
    : registry.Named := by
  obtain ⟨history, _, rfl, _⟩ := (run_mirrors calls).registries.entry live
  exact Registry.named_after history

end Gateway

/-- In every run of a session or of a gateway, each step reports just the lines of its account: one
for a look-up, which tells whether it succeeds, and none for a call with a null argument or for any
other query. As long as a registry is neither reset nor freed, its size changes by the registrations
reported less the replacements and removals, and every warning is about a replacement and stands
right after the registration of the same name.
-/
theorem log_is_audit_trail
    : (∀ commands,
        let session := (Session.empty.run commands).1
        (∀ command,
          (session.step command).records.map LogRecord.line = session.account command)
        ∧ (∀ name sensor keepAs,
            let answered := session.step (.registry name (.lookup sensor keepAs))
            let lines := answered.records.map LogRecord.line
            (∃ handle, answered.result.2 = .sensor handle)
              ∧ lines = [⟨"TRACE", s!"Lookup of IMU sensor '{sensor}'"⟩]
            ∨ answered.result.2 = .notFound ⟨sensor, Registry.interfaceName⟩
              ∧ lines = [⟨"DEBUG", s!"IMU sensor '{sensor}' is not registered"⟩])
        ∧ ∀ name later,
            (∀ command ∈ later, command.resets name = false)
            → let lines := (session.reportsOn name later).map LogRecord.line
              Registry.Balances lines (session.registry name)
                ((session.run later).1.registry name)
              ∧ Registry.Paired lines)
      ∧ ∀ calls,
          let gateway := (Gateway.empty.run calls).1
          (∀ call, (gateway.step call).records.map LogRecord.line = gateway.account call)
          ∧ (∀ call argument,
              gateway.firstMessage? call = some (Gateway.nullMessage argument)
              → (gateway.step call).records = [])
          ∧ (∀ call target sensor registry,
              gateway.operation? call = some (target, .lookup sensor)
              → gateway.registries[target]? = some registry
              → let lines := (gateway.step call).records.map LogRecord.line
                (gateway.outcome call).code? ≠ some (-1)
                  ∧ lines = [⟨"TRACE", s!"Lookup of IMU sensor '{sensor}'"⟩]
                ∨ (gateway.outcome call).code? = some (-1)
                  ∧ lines = [⟨"DEBUG", s!"IMU sensor '{sensor}' is not registered"⟩])
          ∧ ∀ name registry later,
              gateway.registries[name]? = some registry
              → (∀ call ∈ later, call.resets name = false)
              → let lines := (gateway.reportsOn name later).map LogRecord.line
                ∃ final,
                  (gateway.run later).1.registries[name]? = some final
                  ∧ Registry.Balances lines registry final
                  ∧ Registry.Paired lines := by
  constructor
  · intro commands session
    have named (name : String) : (session.registry name).Named := Session.run_named commands name
    refine ⟨Session.step_lines named, fun _ => Session.lookup_reported, ?_⟩
    intro name later kept
    simp only [Session.reportsOn_eq_log kept, Session.registry_run kept]
    exact ⟨(named name).balances_log _, (named name).paired_log _⟩
  · intro calls gateway
    have named := Gateway.run_named calls
    refine ⟨Gateway.lines_account named, fun _ _ => Gateway.records_of_null,
      fun _ _ _ _ => Gateway.lookup_reported, ?_⟩
    intro name registry later live kept
    have final : (gateway.run later).1.registries[name]? = _ := Gateway.registries_run kept
    rw [live, Option.map_some] at final
    simp only [Gateway.reportsOn_eq_log live kept]
    exact ⟨_, final, (named name registry live).balances_log _,
      (named name registry live).paired_log _⟩

end Inertial
