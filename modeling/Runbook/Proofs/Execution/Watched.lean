import Runbook.Backend.Registry
import Runbook.Run.Execution

/-!
Backends under observation. One backend refines another if a view of its states makes the two
indistinguishable; then every run against the first is a run against the second, seen through the
view. A watched backend notes each lookup and each call and refines the backend that it watches.
-/

set_option autoImplicit false

namespace Runbook

variable {σ τ : Type}

structure Backend.Refines (concrete : Backend σ) (abstract : Backend τ) (view : σ → τ) :
    Prop where
  found : ∀ action kind state,
    view (concrete.lookup action kind state).2 = (abstract.lookup action kind (view state)).2
  called : ∀ action kind state parameters later,
    ((concrete.lookup action kind state).1 parameters later).1 =
        ((abstract.lookup action kind (view state)).1 parameters (view later)).1 ∧
      view ((concrete.lookup action kind state).1 parameters later).2 =
        ((abstract.lookup action kind (view state)).1 parameters (view later)).2

theorem Statement.attempt_of_refines {concrete : Backend σ} {abstract : Backend τ} {view : σ → τ}
    (refines : concrete.Refines abstract view) (index : Nat) (statement : Statement)
    (bindings : Bindings) (state : σ) :
    statement.attempt abstract index bindings (view state) =
      let attempt := statement.attempt concrete index bindings state
      ⟨attempt.outcome, view attempt.state, attempt.cancels⟩ := by
  unfold attempt
  cases statement.prepare bindings with
  | error cause => rfl
  | ok parameters =>
    have found := refines.found statement.call.action statement.call.kind state
    have called := refines.called statement.call.action statement.call.kind state parameters
      (concrete.lookup statement.call.action statement.call.kind state).2
    simp only [← found, ← called.1, ← called.2]

namespace Execution

def mapState (view : σ → τ) (execution : Execution σ) : Execution τ :=
  ⟨execution.phase, execution.executed, execution.bindings, view execution.state,
    execution.cancelled?⟩

def Report.mapState (view : σ → τ) (report : Report σ) : Report τ :=
  ⟨report.error?, report.final.mapState view⟩

theorem next?_mapState (view : σ → τ) (execution : Execution σ) :
    (execution.mapState view).next? = execution.next? := rfl

theorem step_of_refines {concrete : Backend σ} {abstract : Backend τ} {view : σ → τ}
    (refines : concrete.Refines abstract view) (script : Script) (execution : Execution σ) :
    (execution.mapState view).step abstract script =
      ((execution.step concrete script).1, (execution.step concrete script).2.mapState view) := by
  unfold step
  rw [next?_mapState]
  cases execution.next? with
  | none => rfl
  | some index =>
    dsimp only
    cases script.statements[index]? with
    | none => rfl
    | some statement =>
      dsimp only [stepAt, mapState]
      rw [Statement.attempt_of_refines refines]
      split
      next => rfl
      next =>
        cases (statement.attempt concrete index execution.bindings execution.state).outcome <;> rfl

theorem drive_of_refines {concrete : Backend σ} {abstract : Backend τ} {view : σ → τ}
    (refines : concrete.Refines abstract view) (script : Script) (steps : Nat)
    (execution : Execution σ) :
    drive abstract script steps (execution.mapState view) =
      (drive concrete script steps execution).mapState view := by
  induction steps generalizing execution with
  | zero => rfl
  | succ steps ih =>
    simp only [drive, step_of_refines refines]
    rcases execution.step concrete script with ⟨error | ran, later⟩
    · rfl
    · cases ran with
      | true => exact ih later
      | false => rfl

theorem run_of_refines {concrete : Backend σ} {abstract : Backend τ} {view : σ → τ}
    (refines : concrete.Refines abstract view) (script : Script) (execution : Execution σ) :
    run abstract script (execution.mapState view) =
      (run concrete script execution).mapState view :=
  drive_of_refines refines script _ execution

end Execution

inductive Event where
  | lookedUp (operation : Operation)
  | called (operation : Operation) (parameters : Parameters)
deriving DecidableEq

def Event.lookup? : Event → Option Operation
  | .lookedUp operation => some operation
  | .called _ _ => none

structure Watched (σ : Type) where
  events : List Event
  inner : σ

def Watched.lookups (watched : Watched σ) : List Operation := watched.events.filterMap Event.lookup?

def Backend.watched (backend : Backend σ) : Backend (Watched σ) where
  lookup action kind watched :=
    let (handler, found) := backend.lookup action kind watched.inner
    (fun parameters watched =>
        let (reply, called) := handler parameters watched.inner
        (reply, ⟨watched.events ++ [.called ⟨action, kind⟩ parameters], called⟩),
      ⟨watched.events ++ [.lookedUp ⟨action, kind⟩], found⟩)

theorem Backend.watched_refines (backend : Backend σ) :
    backend.watched.Refines backend Watched.inner :=
  ⟨fun _ _ _ => rfl, fun _ _ _ _ _ => ⟨rfl, rfl⟩⟩

namespace Statement

def operation (statement : Statement) : Operation := ⟨statement.call.action, statement.call.kind⟩

def events (statement : Statement) (bindings : Bindings) : List Event :=
  match statement.prepare bindings with
  | .error _ => []
  | .ok parameters => [.lookedUp statement.operation, .called statement.operation parameters]

theorem events_attempt_watched (backend : Backend σ) (index : Nat) (statement : Statement)
    (bindings : Bindings) (state : Watched σ) :
    (statement.attempt backend.watched index bindings state).state.events =
      state.events ++ statement.events bindings := by
  unfold attempt events
  cases statement.prepare bindings with
  | error cause => simp
  | ok parameters => simp [Backend.watched, operation]

end Statement

end Runbook
