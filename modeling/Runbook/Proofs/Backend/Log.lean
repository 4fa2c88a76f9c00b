import Runbook.Proofs.Execution.Substitution

set_option autoImplicit false

namespace Runbook

namespace Registry

variable {τ : Type}

def silenced (registry : Registry τ) : Registry τ := { registry with log := .empty }

-- Without a sink the lines of a silenced registry are lost, so it stays silenced.
theorem backend_refines_silenced : (backend : Backend (Registry τ)).Refines backend silenced where
  found := by
    intro action kind registry
    simp only [backend, lookup, silenced]
    cases registry.handlers.get? ⟨action, kind⟩ with
    | none => rfl
    | some handler => rfl
  called := by
    intro action kind registry parameters later
    simp only [backend, lookup, silenced]
    cases registry.handlers.get? ⟨action, kind⟩ with
    | none => exact ⟨rfl, rfl⟩
    | some handler => exact ⟨rfl, rfl⟩

end Registry

namespace Execution

variable {τ : Type}

structure Report.SameButLog (first second : Report (Registry τ)) : Prop where
  error? : first.error? = second.error?
  phase : first.final.phase = second.final.phase
  bindings : first.final.bindings = second.final.bindings
  executed : first.final.executed = second.final.executed
  cancelled? : first.final.cancelled? = second.final.cancelled?
  handlers : first.final.state.handlers = second.final.state.handlers
  state : first.final.state.state = second.final.state.state

theorem Report.sameButLog_of_silenced {first second : Report (Registry τ)}
    (same : first.mapState Registry.silenced = second.mapState Registry.silenced) :
    first.SameButLog second := by
  obtain ⟨_, _, _, _, ⟨_, _, _⟩, _⟩ := first
  obtain ⟨_, _, _, _, ⟨_, _, _⟩, _⟩ := second
  simp only [Report.mapState, Execution.mapState, Registry.silenced, Report.mk.injEq,
    Execution.mk.injEq, Registry.mk.injEq] at same
  obtain ⟨rfl, rfl, rfl, rfl, ⟨rfl, -, rfl⟩, rfl⟩ := same
  exact ⟨rfl, rfl, rfl, rfl, rfl, rfl, rfl⟩

theorem run_silenced (script : Script) (registry : Registry τ) (cancelled? : Option Bool)
    (actions : List Action) :
    (run Registry.backend script
        (performs Registry.backend script (start registry cancelled?) actions)).mapState
          Registry.silenced =
      run Registry.backend script
        (performs Registry.backend script (start registry.silenced cancelled?) actions) := by
  have performed : performs Registry.backend script
      ((start registry cancelled?).mapState Registry.silenced) actions = _ :=
    performs_of_refines Registry.backend_refines_silenced (start registry cancelled?) actions
  rw [← run_of_refines Registry.backend_refines_silenced, ← performed]
  rfl

/-- Whatever the log of a registry is, without a sink, with a page, or with a sink that takes
nothing, a run against the registry ends the same, and so does one that goes on from steps and
cancellations. -/
theorem run_sameButLog (script : Script) (registry : Registry τ) (cancelled? : Option Bool)
    (actions : List Action) (first second : Log) :
    let report (log : Log) := run Registry.backend script
      (performs Registry.backend script (start { registry with log := log } cancelled?) actions)
    (report first).SameButLog (report second) := by
  intro report
  have silent (log : Log) : (report log).mapState Registry.silenced =
      run Registry.backend script
        (performs Registry.backend script (start registry.silenced cancelled?) actions) :=
    run_silenced script { registry with log := log } cancelled? actions
  exact Report.sameButLog_of_silenced ((silent first).trans (silent second).symm)

end Execution

end Runbook
