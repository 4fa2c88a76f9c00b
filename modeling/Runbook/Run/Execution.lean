import Runbook.Bindings
import Runbook.Run.Error

/-!
Executions: one pass over the statements of a script against a backend. Statements run in order,
each with the bindings of the ones before, and the first error ends the run; nothing is undone.
A run may be cancelled at any time, which takes effect before the next statement.
-/

set_option autoImplicit false

namespace Runbook

structure Executed where
  index : Nat
  action : String
  kind : String
  name? : Option String
  result : Value
deriving DecidableEq

inductive Phase where
  | notStarted
  | running (next : Nat)
  | completed
  | aborted
deriving DecidableEq

def Argument.resolve (bindings : Bindings) (parameter : String) :
    Argument → Except RuntimeError Value
  | .hole key => .error (.unresolvedHole parameter key)
  | .given (.reference name) =>
    match bindings.get? name with
    | some value => .ok value
    | none => .error (.unknownReference name)
  | .given value => .ok value

namespace Statement

def prepare (statement : Statement) (bindings : Bindings) : Except RuntimeError Parameters :=
  match statement.name? with
  | none => statement.call.arguments.tryMap (Argument.resolve bindings)
  | some name =>
    -- Looked at before the arguments and again after the call.
    if bindings.contains name then .error (.alreadyBound name)
    else statement.call.arguments.tryMap (Argument.resolve bindings)

def record (index : Nat) (statement : Statement) (result : Value) : Executed :=
  ⟨index, statement.call.action, statement.call.kind, statement.name?, result⟩

def referenceResult (name : String) : BackendError :=
  .invalidResult ("backend returned reference $" ++ name ++ ", expected a concrete value")

def conclude (index : Nat) (statement : Statement) (bindings : Bindings)
    (result : Except BackendError Value) : Except RuntimeError (Executed × Bindings) :=
  match result with
  | .error failure => .error (.ofBackend failure)
  -- Bound values are concrete, so that no reference ever stands for another.
  | .ok (.reference name) => .error (.execution (referenceResult name))
  | .ok value =>
    match statement.name? with
    | none => .ok (statement.record index value, bindings)
    | some name =>
      match bindings.bind? name value with
      | none => .error (.alreadyBound name)
      | some more => .ok (statement.record index value, more)

end Statement

structure Attempt (σ : Type) where
  outcome : Except RuntimeError (Executed × Bindings)
  state : σ
  cancels : Bool

def Statement.attempt {σ : Type} (backend : Backend σ) (index : Nat) (statement : Statement)
    (bindings : Bindings) (state : σ) : Attempt σ :=
  match statement.prepare bindings with
  | .error error => ⟨.error error, state, false⟩
  | .ok parameters =>
    let (handler, found) := backend.lookup statement.call.action statement.call.kind state
    let (reply, called) := handler parameters found
    ⟨statement.conclude index bindings reply.result, called, reply.cancels⟩

structure Execution (σ : Type) where
  phase : Phase
  executed : List Executed
  bindings : Bindings
  state : σ
  /-- Whether the run has been cancelled; absent if it cannot be. -/
  cancelled? : Option Bool

namespace Execution

variable {σ : Type}

def start (state : σ) (cancelled? : Option Bool) : Execution σ :=
  ⟨.notStarted, [], ∅, state, cancelled?⟩

def cancel (execution : Execution σ) : Execution σ :=
  { execution with cancelled? := execution.cancelled?.map fun _ => true }

def next? (execution : Execution σ) : Option Nat :=
  match execution.phase with
  | .notStarted => some 0
  | .running next => some next
  | .completed | .aborted => none

def phaseAfter (script : Script) (index : Nat) : Phase :=
  if index + 1 = script.statements.length then .completed else .running (index + 1)

def errorAt (script : Script) (index : Nat) (statement : Statement) (cause : RuntimeError) :
    RunError :=
  ⟨cause, some (.of index statement), some statement.span, script.file⟩

def stepAt (backend : Backend σ) (script : Script) (execution : Execution σ) (index : Nat)
    (statement : Statement) : Except RunError Bool × Execution σ :=
  if execution.cancelled? = some true then
    (.error (errorAt script index statement .cancelled), { execution with phase := .aborted })
  else
    let attempt := statement.attempt backend index execution.bindings execution.state
    -- A call that cancels the run is still recorded; the next statement is not tried.
    let cancelled? := execution.cancelled?.map (· || attempt.cancels)
    match attempt.outcome with
    | .error cause =>
      (.error (errorAt script index statement cause),
        { execution with phase := .aborted, state := attempt.state, cancelled? := cancelled? })
    | .ok (record, bindings) =>
      (.ok true,
        ⟨phaseAfter script index, execution.executed ++ [record], bindings, attempt.state,
          cancelled?⟩)

def step (backend : Backend σ) (script : Script) (execution : Execution σ) :
    Except RunError Bool × Execution σ :=
  match execution.next? with
  | none => (.ok false, execution)
  | some index =>
    match script.statements[index]? with
    | none => (.ok false, { execution with phase := .completed })
    | some statement => stepAt backend script execution index statement

structure Report (σ : Type) where
  error? : Option RunError
  final : Execution σ

def Report.isCompleted (report : Report σ) : Bool := report.error?.isNone

def drive (backend : Backend σ) (script : Script) : (steps : Nat) → Execution σ → Report σ
  | 0, execution => ⟨none, execution⟩
  | steps + 1, execution =>
    match step backend script execution with
    | (.ok true, later) => drive backend script steps later
    | (.ok false, later) => ⟨none, later⟩
    | (.error error, later) => ⟨some error, later⟩

/-- Runs to the end. No execution has more steps than its script has statements, and one more to
see that there is none left. -/
def run (backend : Backend σ) (script : Script) (execution : Execution σ) : Report σ :=
  drive backend script (script.statements.length + 1) execution

end Execution

end Runbook
