import Runbook.Proofs.Execution.Failure

set_option autoImplicit false

namespace Runbook

variable {τ : Type}

namespace Registry

theorem call_registered {registry : Registry τ} {operation : Operation} {handler : Handler τ}
    (registered : registry.handlers.get? operation = some handler) (parameters : Parameters) :
    (backend.call operation parameters registry).1 = (handler parameters registry.state).1 := by
  simp [Backend.call, backend, lookup, traced, registered]

theorem call_unregistered {registry : Registry τ} {operation : Operation}
    (missing : registry.handlers.get? operation = none) (parameters : Parameters) :
    (backend.call operation parameters registry).1 =
      ⟨.error (.unsupported operation.action operation.kind), false⟩ := by
  simp [Backend.call, backend, lookup, Handler.unsupported, Handler.answer, missing]

theorem handlers_call (registry : Registry τ) (operation : Operation) (parameters : Parameters) :
    (backend.call operation parameters registry).2.handlers = registry.handlers := by
  simp only [Backend.call, backend, lookup]
  cases registry.handlers.get? operation <;> rfl

theorem handlers_attempt (registry : Registry τ) (statement : Statement) (index : Nat)
    (bindings : Bindings) :
    (statement.attempt backend index bindings registry).state.handlers = registry.handlers := by
  cases prepared : statement.prepare bindings with
  | error cause => simp only [Statement.attempt, prepared]
  | ok parameters =>
    rw [Statement.attempt_of_prepared backend index registry prepared]
    exact handlers_call registry statement.operation parameters

end Registry

theorem RuntimeError.ofBackend_eq_dispatchNotFound_iff {failure : BackendError}
    {action kind : String} :
    RuntimeError.ofBackend failure = .dispatchNotFound action kind ↔
      failure = .unsupported action kind := by
  cases failure <;> simp [RuntimeError.ofBackend]

theorem RuntimeError.ofBackend_eq_execution_iff {failure : BackendError} :
    RuntimeError.ofBackend failure = .execution failure ↔
      ∀ action kind, failure ≠ .unsupported action kind := by
  cases failure <;> simp [RuntimeError.ofBackend]

theorem Reply.fault?_eq_dispatchNotFound_iff {reply : Reply} {action kind : String} :
    reply.fault? = some (.dispatchNotFound action kind) ↔
      reply.result = .error (.unsupported action kind) := by
  obtain ⟨_ | (_ | _ | _ | _), _⟩ := reply <;>
    simp [Reply.fault?, RuntimeError.ofBackend_eq_dispatchNotFound_iff]

namespace Execution

variable {script : Script} {first before : Execution (Registry τ)} {index : Nat}
  {statement : Statement} {parameters : Parameters}

theorem Advances.handlers {later : Execution (Registry τ)}
    (advances : Advances Registry.backend script first later) :
    later.state.handlers = first.state.handlers := by
  induction advances with
  | refl => rfl
  | @tail middle later front last ih =>
    rw [← ih]
    have stepped := step_stepped Registry.backend script middle
    rw [last] at stepped
    cases stepped with
    | ran index statement attempt record bindings next here allowed attempted outcome =>
      exact attempted ▸ Registry.handlers_attempt middle.state statement index middle.bindings

theorem Calls.reply_registered {handler : Handler τ}
    (calls : Calls Registry.backend script first before index statement parameters)
    (registered : first.state.handlers.get? statement.operation = some handler) :
    reply Registry.backend before statement parameters =
      (handler parameters before.state.state).1 := by
  rw [← calls.advances.handlers] at registered
  exact Registry.call_registered registered parameters

theorem Calls.reply_unregistered
    (calls : Calls Registry.backend script first before index statement parameters)
    (missing : first.state.handlers.get? statement.operation = none) :
    reply Registry.backend before statement parameters =
      ⟨.error (.unsupported statement.operation.action statement.operation.kind), false⟩ := by
  rw [← calls.advances.handlers] at missing
  exact Registry.call_unregistered missing parameters

def HandlerFails (script : Script) (first : Execution (Registry τ)) (index : Nat)
    (failure : BackendError) : Prop :=
  ∃ before statement parameters handler,
    Calls Registry.backend script first before index statement parameters ∧
      first.state.handlers.get? statement.operation = some handler ∧
      (handler parameters before.state.state).1.result = .error failure

def HandlerMissing (script : Script) (first : Execution (Registry τ)) (index : Nat)
    (operation : Operation) : Prop :=
  ∃ before statement parameters,
    Calls Registry.backend script first before index statement parameters ∧
      first.state.handlers.get? statement.operation = none ∧ statement.operation = operation

theorem HandlerFails.failsAt (consistent : first.Consistent script) {failure : BackendError}
    (fails : HandlerFails script first index failure) :
    (run Registry.backend script first).FailsAt script index (.ofBackend failure) := by
  obtain ⟨before, statement, parameters, handler, calls, registered, failed⟩ := fails
  have ofBackend := RuntimeError.ofBackend_ofBackend failure
  refine (failsAt_iff_of_ofBackend consistent ofBackend).mpr
    ⟨before, statement, parameters, calls, ?_⟩
  simp [calls.reply_registered registered, Reply.fault?, failed]

theorem failsAt_dispatchNotFound_iff (consistent : first.Consistent script)
    {action kind : String} :
    (run Registry.backend script first).FailsAt script index (.dispatchNotFound action kind) ↔
      HandlerMissing script first index ⟨action, kind⟩ ∨
        HandlerFails script first index (.unsupported action kind) := by
  rw [failsAt_iff_of_ofBackend consistent (by exact trivial)]
  simp only [Reply.fault?_eq_dispatchNotFound_iff]
  constructor
  next =>
    rintro ⟨before, statement, parameters, calls, answered⟩
    cases registered : first.state.handlers.get? statement.operation with
    | none =>
      rw [calls.reply_unregistered registered] at answered
      obtain ⟨sameAction, sameKind⟩ :
          statement.operation.action = action ∧ statement.operation.kind = kind := by
        simpa using answered
      subst sameAction sameKind
      exact .inl ⟨before, statement, parameters, calls, registered, rfl⟩
    | some handler =>
      rw [calls.reply_registered registered] at answered
      exact .inr ⟨before, statement, parameters, handler, calls, registered, answered⟩
  next =>
    rintro (⟨before, statement, parameters, calls, missing, same⟩ |
      ⟨before, statement, parameters, handler, calls, registered, failed⟩)
    · refine ⟨before, statement, parameters, calls, ?_⟩
      simp [calls.reply_unregistered missing, same]
    · exact ⟨before, statement, parameters, calls, calls.reply_registered registered ▸ failed⟩

structure Classified (script : Script) (first : Execution (Registry τ)) : Prop where
  missing : ∀ index action kind,
    (run Registry.backend script first).FailsAt script index (.dispatchNotFound action kind) ↔
      HandlerMissing script first index ⟨action, kind⟩
  failing : ∀ index failure, HandlerFails script first index failure →
    (run Registry.backend script first).FailsAt script index (.execution failure)

theorem classified_iff (consistent : first.Consistent script) :
    Classified script first ↔
      ∀ index action kind, ¬ HandlerFails script first index (.unsupported action kind) := by
  constructor
  next =>
    intro classified index action kind fails
    have reported := (fails.failsAt consistent).cause_eq (classified.failing index _ fails)
    exact RuntimeError.ofBackend_eq_execution_iff.mp reported action kind rfl
  next =>
    intro candid
    refine ⟨fun index action kind => ?_, fun index failure fails => ?_⟩
    · rw [failsAt_dispatchNotFound_iff consistent, or_iff_left (candid index action kind)]
    · have supported : ∀ action kind, failure ≠ .unsupported action kind := by
        rintro action kind rfl
        exact candid index action kind fails
      rw [← RuntimeError.ofBackend_eq_execution_iff.mpr supported]
      exact fails.failsAt consistent

/-- A run against a registry reports a missing function exactly if a statement that has passed its
checks has no handler, and then names its operation, or has one that answers that some operation is
unsupported, and then names that one. Any other failure of a handler is reported as such. So missing
and failing handlers are told apart exactly in the runs in which no handler gives that answer. -/
theorem run_dispatch (script : Script) (registry : Registry τ) (cancelled? : Option Bool) :
    let first := start registry cancelled?
    let report := run Registry.backend script first
    (∀ index action kind, report.FailsAt script index (.dispatchNotFound action kind) ↔
      HandlerMissing script first index ⟨action, kind⟩ ∨
        HandlerFails script first index (.unsupported action kind)) ∧
    (∀ index failure, HandlerFails script first index failure →
      (report.FailsAt script index (.execution failure) ↔
        ∀ action kind, failure ≠ .unsupported action kind)) ∧
    (Classified script first ↔
      ∀ index action kind, ¬ HandlerFails script first index (.unsupported action kind)) := by
  intro first report
  have consistent : first.Consistent script := start_consistent registry cancelled?
  refine ⟨fun index action kind => failsAt_dispatchNotFound_iff consistent, ?_,
    classified_iff consistent⟩
  intro index failure fails
  have reported := fails.failsAt consistent
  rw [← RuntimeError.ofBackend_eq_execution_iff]
  constructor
  next => exact reported.cause_eq
  next => exact fun same => same ▸ reported

def delegating : Registry Unit :=
  (Registry.empty ()).register "create" "vpc" (.unsupported "delete" "rocket")

theorem run_delegating :
    let first := start delegating none
    (run Registry.backend lone first).FailsAt lone 0 (.dispatchNotFound "delete" "rocket") ∧
      ¬ Classified lone first := by
  intro first
  have fails : (run Registry.backend lone first).FailsAt lone 0
      (.dispatchNotFound "delete" "rocket") := ⟨_, rfl, rfl⟩
  refine ⟨fails, fun classified => ?_⟩
  obtain ⟨before, statement, parameters, calls, missing, named⟩ :=
    (classified.missing 0 "delete" "rocket").mp fails
  obtain rfl : (⟨none, ⟨"create", "vpc", ∅⟩, ⟨0, 10⟩⟩ : Statement) = statement := by
    simpa [lone] using calls.here
  exact absurd named (by decide)

end Execution

end Runbook
