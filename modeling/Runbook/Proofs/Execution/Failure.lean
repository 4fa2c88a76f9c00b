import Runbook.Proofs.Execution.Cancellation

set_option autoImplicit false

namespace Runbook

variable {σ : Type} {backend : Backend σ} {script : Script}

def Reply.fault? (reply : Reply) : Option RuntimeError :=
  match reply.result with
  | .error failure => some (.ofBackend failure)
  | .ok (.reference name) => some (.execution (Statement.referenceResult name))
  | .ok _ => none

namespace Statement

theorem conclude_eq_error_iff {statement : Statement} {bindings : Bindings}
    {parameters : Parameters} (index : Nat) (prepared : statement.prepare bindings = .ok parameters)
    {reply : Reply} {cause : RuntimeError} :
    statement.conclude index bindings reply.result = .error cause ↔
      reply.fault? = some cause := by
  obtain ⟨result, cancels⟩ := reply
  cases result with
  | error failure => simp [conclude, Reply.fault?]
  | ok value =>
    cases concrete : value.isReference with
    | true =>
      cases value with
      | reference name => simp [conclude, Reply.fault?]
      | text _ | number _ | flag _ => simp [Value.isReference] at concrete
    | false =>
      -- The name is still free: it has been looked at before the call.
      obtain ⟨more, concluded, -⟩ := conclude_concrete index prepared concrete
      have faultless : Reply.fault? ⟨.ok value, cancels⟩ = none := by
        cases value with
        | reference name => simp [Value.isReference] at concrete
        | text _ | number _ | flag _ => rfl
      simp [concluded, faultless]

theorem not_ofBackend_of_prepare {statement : Statement} {bindings : Bindings}
    {cause : RuntimeError} (refused : statement.prepare bindings = .error cause) :
    ¬ cause.OfBackend := by
  have argument (found : statement.argumentFault? bindings.names = some cause) :
      ¬ cause.OfBackend := by
    obtain ⟨⟨parameter, argument⟩, -, faulty⟩ := List.exists_of_findSome?_eq_some found
    match argument with
    | .hole key =>
      obtain rfl : RuntimeError.unresolvedHole parameter key = cause := by
        simpa [Argument.scopeFault?] using faulty
      exact id
    | .given (.reference name) =>
      obtain ⟨-, rfl⟩ : name ∉ bindings.names ∧ RuntimeError.unknownReference name = cause := by
        simpa [Argument.scopeFault?] using faulty
      exact id
    | .given (.text _) | .given (.number _) | .given (.flag _) =>
      simp [Argument.scopeFault?] at faulty
  have faulty := prepare_eq_error_iff.mp refused
  by_cases redeclares : statement.Redeclares bindings.names
  next =>
    obtain ⟨name, named, known⟩ := redeclares
    obtain rfl := (scopeFault?_cases faulty).1 name named known
    exact id
  next => exact argument ((scopeFault?_cases faulty).2 redeclares)

end Statement

namespace Execution

structure Reaches (backend : Backend σ) (script : Script) (first before : Execution σ) (index : Nat)
    (statement : Statement) : Prop where
  advances : Advances backend script first before
  next : before.next? = some index
  here : script.statements[index]? = some statement

structure Calls (backend : Backend σ) (script : Script) (first before : Execution σ) (index : Nat)
    (statement : Statement) (parameters : Parameters) : Prop
    extends Reaches backend script first before index statement where
  allowed : before.cancelled? ≠ some true
  prepared : statement.prepare before.bindings = .ok parameters

theorem Advances.linear {first second third : Execution σ}
    (one : Advances backend script first second) (other : Advances backend script first third) :
    Advances backend script second third ∨ Advances backend script third second := by
  refine Relation.ReflTransGen.total_of_right_unique ?_ one other
  intro earlier later later' step step'
  exact (Prod.mk.inj (step.symm.trans step')).2

theorem Advances.eq_or_longer {earlier later : Execution σ}
    (advances : Advances backend script earlier later) :
    earlier = later ∨ earlier.executed.length < later.executed.length := by
  induction advances with
  | refl => exact .inl rfl
  | @tail middle later front last ih =>
    have longer := length_of_ran last
    right
    rcases ih with rfl | before <;> omega

theorem Advances.executed_prefix {earlier later : Execution σ}
    (advances : Advances backend script earlier later) : earlier.executed <+: later.executed := by
  induction advances with
  | refl => exact List.prefix_refl _
  | @tail middle later front last ih =>
    have stepped := step_stepped backend script middle
    rw [last] at stepped
    cases stepped with
    | ran index statement attempt record bindings next here allowed attempted outcome =>
      exact ih.trans (List.prefix_append _ _)

def reply (backend : Backend σ) (before : Execution σ) (statement : Statement)
    (parameters : Parameters) : Reply :=
  (backend.call statement.operation parameters before.state).1

inductive Fails (backend : Backend σ) (before : Execution σ) (statement : Statement) :
    RuntimeError → Prop where
  | cancelled (stopped : before.cancelled? = some true) : Fails backend before statement .cancelled
  | refused (cause : RuntimeError) (allowed : before.cancelled? ≠ some true)
      (refused : statement.prepare before.bindings = .error cause) :
      Fails backend before statement cause
  | answered (cause : RuntimeError) (parameters : Parameters)
      (allowed : before.cancelled? ≠ some true)
      (prepared : statement.prepare before.bindings = .ok parameters)
      (faulty : (reply backend before statement parameters).fault? = some cause) :
      Fails backend before statement cause

theorem attempt_eq_error_iff {before : Execution σ} {statement : Statement} {index : Nat}
    {cause : RuntimeError} (allowed : before.cancelled? ≠ some true) :
    (statement.attempt backend index before.bindings before.state).outcome = .error cause ↔
      Fails backend before statement cause := by
  cases prepared : statement.prepare before.bindings with
  | error first =>
    have outcome : (statement.attempt backend index before.bindings before.state).outcome =
        .error first := by
      simp only [Statement.attempt, prepared]
    rw [outcome, Except.error.injEq]
    constructor
    next =>
      rintro rfl
      exact .refused first allowed prepared
    next =>
      intro fails
      cases fails with
      | cancelled stopped => exact absurd stopped allowed
      | refused _ _ refused => simpa [prepared] using refused
      | answered _ parameters _ ready _ => simp [prepared] at ready
  | ok parameters =>
    rw [Statement.attempt_of_prepared backend index before.state prepared]
    refine (Statement.conclude_eq_error_iff index prepared).trans ⟨?_, ?_⟩
    next => exact .answered cause parameters allowed prepared
    next =>
      intro fails
      cases fails with
      | cancelled stopped => exact absurd stopped allowed
      | refused _ _ refused => simp [prepared] at refused
      | answered _ others _ ready faulty =>
        obtain rfl : parameters = others := by simpa [prepared] using ready
        exact faulty

theorem errorAt_inj {index index' : Nat} {statement statement' : Statement}
    {cause cause' : RuntimeError}
    (same : errorAt script index statement cause = errorAt script index' statement' cause') :
    index = index' ∧ cause = cause' := by
  simp only [errorAt, Place.of, RunError.mk.injEq, Option.some.injEq, Place.mk.injEq] at same
  exact ⟨same.2.1.1, same.1⟩

theorem Report.FailsAt.cause_eq {report : Report σ} {index index' : Nat}
    {cause cause' : RuntimeError} (fails : report.FailsAt script index cause)
    (fails' : report.FailsAt script index' cause') : cause = cause' := by
  obtain ⟨statement, -, error⟩ := fails
  obtain ⟨statement', -, error'⟩ := fails'
  exact (errorAt_inj (Option.some.inj (error.symm.trans error'))).2

theorem step_failed_iff {before : Execution σ} {index : Nat} {statement : Statement}
    {cause : RuntimeError} (here : script.statements[index]? = some statement) :
    (∃ final, before.step backend script = (.error (errorAt script index statement cause), final)) ↔
      before.next? = some index ∧ Fails backend before statement cause := by
  constructor
  next =>
    rintro ⟨final, step⟩
    have stepped := step_stepped backend script before
    rw [step] at stepped
    generalize error : errorAt script index statement cause = raised at stepped
    cases stepped with
    | cancelled reached failing next there stopped =>
      obtain ⟨rfl, rfl⟩ := errorAt_inj error
      exact ⟨next, .cancelled stopped⟩
    | failed reached failing attempt why next there allowed attempted outcome =>
      obtain ⟨rfl, rfl⟩ := errorAt_inj error
      obtain rfl : statement = failing := by simpa [here] using there
      exact ⟨next, (attempt_eq_error_iff allowed).mp (attempted ▸ outcome)⟩
  next =>
    rintro ⟨next, fails⟩
    by_cases stopped : before.cancelled? = some true
    next =>
      obtain rfl : cause = .cancelled := by
        cases fails with
        | cancelled _ => rfl
        | refused _ allowed _ => exact absurd stopped allowed
        | answered _ _ allowed _ _ => exact absurd stopped allowed
      exact ⟨_, step_of_cancelled backend stopped next here⟩
    next =>
      have outcome : (statement.attempt backend index before.bindings before.state).outcome =
          .error cause := (attempt_eq_error_iff stopped).mpr fails
      simp only [step, next, here, stepAt, if_neg stopped, outcome]
      exact ⟨_, rfl⟩

theorem run_of_advances {first later : Execution σ} (consistent : first.Consistent script)
    (advances : Advances backend script first later) :
    run backend script later = run backend script first := by
  induction advances with
  | refl => rfl
  | tail front last ih => exact (run_of_step (Advances.consistent front consistent) last).trans ih

theorem failsAt_iff {first : Execution σ} (consistent : first.Consistent script) {index : Nat}
    {cause : RuntimeError} :
    (run backend script first).FailsAt script index cause ↔
      ∃ before statement, Reaches backend script first before index statement ∧
        Fails backend before statement cause := by
  constructor
  next =>
    rintro ⟨statement, here, failed⟩
    obtain ⟨last, advances, ended⟩ := run_ends backend consistent
    generalize run backend script first = report at failed ended
    cases ended with
    | nothingLeft final step => simp at failed
    | failed error final step =>
      obtain rfl : error = errorAt script index statement cause := by simpa using failed
      obtain ⟨next, fails⟩ := (step_failed_iff here).mp ⟨final, step⟩
      exact ⟨last, statement, ⟨advances, next, here⟩, fails⟩
  next =>
    rintro ⟨before, statement, ⟨advances, next, here⟩, fails⟩
    obtain ⟨final, step⟩ := (step_failed_iff here).mpr ⟨next, fails⟩
    refine ⟨statement, here, ?_⟩
    rw [← run_of_advances consistent advances, run_of_step_error step]

theorem failsAt_iff_of_ofBackend {first : Execution σ} (consistent : first.Consistent script)
    {index : Nat} {cause : RuntimeError} (ofBackend : cause.OfBackend) :
    (run backend script first).FailsAt script index cause ↔
      ∃ before statement parameters,
        Calls backend script first before index statement parameters ∧
          (reply backend before statement parameters).fault? = some cause := by
  rw [failsAt_iff consistent]
  constructor
  next =>
    rintro ⟨before, statement, reaches, fails⟩
    cases fails with
    | cancelled stopped => exact ofBackend.elim
    | refused _ allowed refused =>
      exact absurd ofBackend (Statement.not_ofBackend_of_prepare refused)
    | answered _ parameters allowed prepared faulty =>
      exact ⟨before, statement, parameters, ⟨reaches, allowed, prepared⟩, faulty⟩
  next =>
    rintro ⟨before, statement, parameters, ⟨reaches, allowed, prepared⟩, faulty⟩
    exact ⟨before, statement, reaches, .answered cause parameters allowed prepared faulty⟩

end Execution

end Runbook
