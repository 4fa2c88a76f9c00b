import Runbook.Run.Execution
import Runbook.Proofs.Bindings

set_option autoImplicit false

namespace Runbook

def Executed.binding? (record : Executed) : Option (String × Value) :=
  record.name?.map (·, record.result)

namespace Statement

variable {σ : Type}

@[simp] theorem index_record (index : Nat) (statement : Statement) (result : Value) :
    (statement.record index result).index = index := rfl

@[simp] theorem action_record (index : Nat) (statement : Statement) (result : Value) :
    (statement.record index result).action = statement.call.action := rfl

@[simp] theorem kind_record (index : Nat) (statement : Statement) (result : Value) :
    (statement.record index result).kind = statement.call.kind := rfl

@[simp] theorem name?_record (index : Nat) (statement : Statement) (result : Value) :
    (statement.record index result).name? = statement.name? := rfl

@[simp] theorem result_record (index : Nat) (statement : Statement) (result : Value) :
    (statement.record index result).result = result := rfl

theorem tryMap_of_prepare {statement : Statement} {bindings : Bindings} {parameters : Parameters}
    (prepared : statement.prepare bindings = .ok parameters) :
    statement.call.arguments.tryMap (Argument.resolve bindings) = .ok parameters := by
  unfold prepare at prepared
  split at prepared
  next => exact prepared
  next =>
    split at prepared
    next => simp at prepared
    next => exact prepared

theorem conclude_ok {index : Nat} {statement : Statement} {bindings more : Bindings}
    {result : Except BackendError Value} {record : Executed}
    (done : statement.conclude index bindings result = .ok (record, more)) :
    ∃ value, result = .ok value ∧ value.isReference = false ∧
      record = statement.record index value ∧
      more.entries = bindings.entries ++ record.binding?.toList := by
  unfold conclude at done
  split at done
  next => simp at done
  next => simp at done
  next value concrete =>
    refine ⟨value, rfl, by cases value <;> simp_all [Value.isReference], ?_⟩
    split at done
    next anonymous =>
      obtain ⟨rfl, rfl⟩ : statement.record index value = record ∧ bindings = more := by
        simpa using done
      simp [Executed.binding?, anonymous]
    next name named =>
      split at done
      next => simp at done
      next bound =>
        obtain ⟨rfl, rfl⟩ : statement.record index value = record ∧ _ = more := by
          simpa using done
        simp [Executed.binding?, named, Bindings.entries_of_bind? bound]

theorem attempt_ok {backend : Backend σ} {index : Nat} {statement : Statement}
    {bindings more : Bindings} {state : σ} {record : Executed}
    (done : (statement.attempt backend index bindings state).outcome = .ok (record, more)) :
    ∃ parameters value, statement.prepare bindings = .ok parameters ∧
      value.isReference = false ∧ record = statement.record index value ∧
      more.entries = bindings.entries ++ record.binding?.toList := by
  unfold attempt at done
  split at done
  next => simp at done
  next parameters prepared =>
    obtain ⟨value, -, concrete, recorded, bound⟩ := conclude_ok done
    exact ⟨parameters, value, prepared, concrete, recorded, bound⟩

end Statement

namespace Execution

variable {σ : Type} {backend : Backend σ} {script : Script}

inductive Stepped (backend : Backend σ) (script : Script) (before : Execution σ) :
    Except RunError Bool × Execution σ → Prop where
  | ended (finished : before.next? = none) : Stepped backend script before (.ok false, before)
  | exhausted (index : Nat) (next : before.next? = some index)
      (beyond : script.statements[index]? = none) :
      Stepped backend script before (.ok false, { before with phase := .completed })
  | cancelled (index : Nat) (statement : Statement) (next : before.next? = some index)
      (here : script.statements[index]? = some statement)
      (stopped : before.cancelled? = some true) :
      Stepped backend script before
        (.error (errorAt script index statement .cancelled), { before with phase := .aborted })
  | failed (index : Nat) (statement : Statement) (attempt : Attempt σ) (cause : RuntimeError)
      (next : before.next? = some index) (here : script.statements[index]? = some statement)
      (allowed : before.cancelled? ≠ some true)
      (attempted : statement.attempt backend index before.bindings before.state = attempt)
      (outcome : attempt.outcome = .error cause) :
      Stepped backend script before
        (.error (errorAt script index statement cause),
          { before with
            phase := .aborted
            state := attempt.state
            cancelled? := before.cancelled?.map (· || attempt.cancels) })
  | ran (index : Nat) (statement : Statement) (attempt : Attempt σ) (record : Executed)
      (bindings : Bindings)
      (next : before.next? = some index) (here : script.statements[index]? = some statement)
      (allowed : before.cancelled? ≠ some true)
      (attempted : statement.attempt backend index before.bindings before.state = attempt)
      (outcome : attempt.outcome = .ok (record, bindings)) :
      Stepped backend script before
        (.ok true,
          ⟨phaseAfter script index, before.executed ++ [record], bindings, attempt.state,
            before.cancelled?.map (· || attempt.cancels)⟩)

theorem step_stepped (backend : Backend σ) (script : Script) (execution : Execution σ) :
    Stepped backend script execution (execution.step backend script) := by
  unfold step
  split
  next finished => exact .ended finished
  next index next =>
    split
    next beyond => exact .exhausted index next beyond
    next statement here =>
      unfold stepAt
      split
      next stopped => exact .cancelled index statement next here stopped
      next allowed =>
        dsimp only
        split
        next cause outcome =>
          exact .failed index statement _ cause next here allowed rfl outcome
        next record bindings outcome =>
          exact .ran index statement _ record bindings next here allowed rfl outcome

end Execution

end Runbook
