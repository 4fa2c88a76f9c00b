import Runbook.Proofs.Execution.Substitution
import Runbook.Proofs.Execution.Walk

set_option autoImplicit false

namespace Runbook

variable {σ : Type} {backend : Backend σ} {script : Script}

def Backend.call (backend : Backend σ) (operation : Operation) (parameters : Parameters)
    (state : σ) : Reply × σ :=
  let (handler, found) := backend.lookup operation.action operation.kind state
  handler parameters found

theorem Backend.call_watched (backend : Backend σ) (operation : Operation) (parameters : Parameters)
    (watched : Watched σ) :
    backend.watched.call operation parameters watched =
      ((backend.call operation parameters watched.inner).1,
        ⟨watched.events ++ [.lookedUp operation, .called operation parameters],
          (backend.call operation parameters watched.inner).2⟩) := by
  simp [call, Backend.watched]

theorem Statement.attempt_of_prepared (backend : Backend σ) (index : Nat) {statement : Statement}
    {bindings : Bindings} {parameters : Parameters} (state : σ)
    (prepared : statement.prepare bindings = .ok parameters) :
    let called := backend.call statement.operation parameters state
    statement.attempt backend index bindings state =
      ⟨statement.conclude index bindings called.1.result, called.2, called.1.cancels⟩ := by
  simp only [attempt, prepared]
  rfl

namespace Execution

theorem step_of_cancelled (backend : Backend σ) {execution : Execution σ} {index : Nat}
    {statement : Statement} (cancelled : execution.cancelled? = some true) (next : execution.next? = some index)
    (here : script.statements[index]? = some statement) :
    execution.step backend script =
      (.error (errorAt script index statement .cancelled),
        { execution with phase := .aborted }) := by
  simp [step, next, here, stepAt, cancelled]

theorem perform_cancelled {execution : Execution σ} (cancelled : execution.cancelled? = some true)
    (action : Action) :
    (perform backend script execution action).state = execution.state ∧
      (perform backend script execution action).cancelled? = some true := by
  cases action with
  | cancel => exact ⟨rfl, by simp [perform, cancel, cancelled]⟩
  | step =>
    have stepped := step_stepped backend script execution
    simp only [perform]
    generalize execution.step backend script = result at stepped
    cases stepped with
    | ended finished => exact ⟨rfl, cancelled⟩
    | exhausted index next beyond => exact ⟨rfl, cancelled⟩
    | cancelled index statement next here stopped => exact ⟨rfl, cancelled⟩
    | failed index statement attempt cause next here allowed attempted outcome =>
      exact absurd cancelled allowed
    | ran index statement attempt record bindings next here allowed attempted outcome =>
      exact absurd cancelled allowed

theorem performs_cancelled {execution : Execution σ}
    (cancelled : execution.cancelled? = some true) (actions : List Action) :
    (performs backend script execution actions).state = execution.state ∧
      (performs backend script execution actions).cancelled? = some true := by
  have kept (later : Execution σ) (action : Action)
      (before : later.state = execution.state ∧ later.cancelled? = some true) :
      (perform backend script later action).state = execution.state ∧
        (perform backend script later action).cancelled? = some true := by
    obtain ⟨same, still⟩ := perform_cancelled before.2 action
    exact ⟨same.trans before.1, still⟩
  exact performs_keep kept actions ⟨rfl, cancelled⟩

theorem perform_attached {execution : Execution σ} (attached : execution.cancelled?.isSome = true)
    (action : Action) :
    (perform backend script execution action).cancelled?.isSome = true := by
  cases action with
  | cancel => simpa [perform, cancel] using attached
  | step =>
    have stepped := step_stepped backend script execution
    simp only [perform]
    generalize execution.step backend script = result at stepped
    cases stepped <;> simpa using attached

theorem events_step_watched (backend : Backend σ) (script : Script)
    (execution : Execution (Watched σ)) :
    (execution.step backend.watched script).2.state.events = execution.state.events ∨
      ∃ operation parameters, (execution.step backend.watched script).2.state.events =
        execution.state.events ++ [.lookedUp operation, .called operation parameters] := by
  have asked (statement : Statement) (index : Nat) :
      let attempt := statement.attempt backend.watched index execution.bindings execution.state
      attempt.state.events = execution.state.events ∨
        ∃ operation parameters, attempt.state.events =
          execution.state.events ++ [.lookedUp operation, .called operation parameters] := by
    dsimp only
    rw [Statement.events_attempt_watched, Statement.events]
    cases statement.prepare execution.bindings with
    | error cause => exact .inl (List.append_nil _)
    | ok parameters => exact .inr ⟨statement.operation, parameters, rfl⟩
  have stepped := step_stepped backend.watched script execution
  generalize execution.step backend.watched script = result at stepped
  cases stepped with
  | ended finished => exact .inl rfl
  | exhausted index next beyond => exact .inl rfl
  | cancelled index statement next here stopped => exact .inl rfl
  | failed index statement attempt cause next here allowed attempted outcome =>
    exact attempted ▸ asked statement index
  | ran index statement attempt record bindings next here allowed attempted outcome =>
    exact attempted ▸ asked statement index

theorem Consistent.next_of_unfinished {execution : Execution σ}
    (consistent : execution.Consistent script) (unaborted : execution.phase ≠ .aborted)
    (more : execution.executed.length < script.statements.length) :
    execution.next? = some execution.executed.length := by
  have counted := consistent.counted
  unfold next?
  cases phase : execution.phase <;> rw [phase] at counted <;> simp only [Phase.Counts] at counted
  case notStarted => simp [counted]
  case running next => rw [counted.1]
  case completed => omega
  case aborted => exact absurd phase unaborted

theorem Consistent.step_of_finished (backend : Backend σ) {execution : Execution σ}
    (consistent : execution.Consistent script)
    (finished : execution.executed.length = script.statements.length) :
    execution.step backend script = (.ok false, { execution with phase := .completed }) := by
  have stepped := step_stepped backend script execution
  have inside {index : Nat} {statement : Statement} (next : execution.next? = some index)
      (here : script.statements[index]? = some statement) : False := by
    obtain rfl := consistent.next_eq next
    exact absurd (List.getElem?_eq_some_iff.mp here).1 (by omega)
  generalize execution.step backend script = result at stepped
  cases stepped with
  | ended ended =>
    have counted := consistent.counted
    rcases next?_eq_none_iff.mp ended with completed | aborted
    · rw [← completed]
    · rw [aborted] at counted
      exact absurd finished (Nat.ne_of_lt counted)
  | exhausted index next beyond => rfl
  | cancelled index statement next here stopped => exact (inside next here).elim
  | failed index statement attempt cause next here allowed attempted outcome =>
    exact (inside next here).elim
  | ran index statement attempt record bindings next here allowed attempted outcome =>
    exact (inside next here).elim

theorem step_of_called {execution : Execution σ} {index : Nat} {statement : Statement}
    {parameters : Parameters} {value : Value} {cancels : Bool} {called : σ}
    (allowed : execution.cancelled? ≠ some true) (next : execution.next? = some index)
    (here : script.statements[index]? = some statement)
    (prepared : statement.prepare execution.bindings = .ok parameters)
    (call : backend.call statement.operation parameters execution.state =
      (⟨.ok value, cancels⟩, called))
    (concrete : value.isReference = false) :
    ∃ more, execution.step backend script =
        (.ok true, ⟨phaseAfter script index,
          execution.executed ++ [statement.record index value], more, called,
          execution.cancelled?.map (· || cancels)⟩) ∧
      more.entries = execution.bindings.entries ++ (statement.name?.map (·, value)).toList := by
  obtain ⟨more, concluded, bound⟩ := Statement.conclude_concrete index prepared concrete
  refine ⟨more, ?_, bound⟩
  have attempted : statement.attempt backend index execution.bindings execution.state =
      ⟨.ok (statement.record index value, more), called, cancels⟩ := by
    rw [Statement.attempt_of_prepared backend index execution.state prepared, call, concluded]
  simp [step, next, here, stepAt, allowed, attempted]

theorem run_of_step_error {execution final : Execution σ} {error : RunError}
    (step : execution.step backend script = (.error error, final)) :
    run backend script execution = ⟨some error, final⟩ := by
  simp only [run, drive, step]

theorem run_of_step_false {execution final : Execution σ}
    (step : execution.step backend script = (.ok false, final)) :
    run backend script execution = ⟨none, final⟩ := by
  simp only [run, drive, step]

theorem run_of_last_step {execution final : Execution σ}
    (step : execution.step backend script = (.ok true, final))
    (completed : final.phase = .completed) :
    run backend script execution = ⟨none, final⟩ := by
  have finished : final.next? = none := next?_eq_none_iff.mpr (.inl completed)
  simp only [run, drive, step, drive_of_ended finished]

structure CancelLawful (backend : Backend σ) (script : Script) (execution : Execution (Watched σ)) :
    Prop where
  attached : execution.cancelled?.isSome = true
  cancels : execution.cancel.cancelled? = some true
  asks : (execution.step backend.watched script).2.state.events = execution.state.events ∨
    ∃ operation parameters, (execution.step backend.watched script).2.state.events =
      execution.state.events ++ [.lookedUp operation, .called operation parameters]
  silent : execution.cancelled? = some true → ∀ later,
    (performs backend.watched script execution later).state = execution.state ∧
      (performs backend.watched script execution later).cancelled? = some true
  refuses : execution.cancelled? = some true → execution.phase ≠ .aborted → ∀ statement,
    script.statements[execution.executed.length]? = some statement →
    let error := errorAt script execution.executed.length statement .cancelled
    execution.step backend.watched script = (.error error, { execution with phase := .aborted }) ∧
      run backend.watched script execution = ⟨some error, { execution with phase := .aborted }⟩
  keeps : execution.cancelled? = some false → execution.phase ≠ .aborted →
    ∀ statement parameters value called,
    script.statements[execution.executed.length]? = some statement →
    statement.prepare execution.bindings = .ok parameters →
    backend.call statement.operation parameters execution.state.inner =
      (⟨.ok value, true⟩, called) →
    value.isReference = false →
    ∃ final, execution.step backend.watched script = (.ok true, final) ∧
      final.executed = execution.executed ++ [statement.record execution.executed.length value] ∧
      final.bindings.entries =
        execution.bindings.entries ++ (statement.name?.map (·, value)).toList ∧
      final.state.inner = called ∧ final.cancelled? = some true
  completes : execution.executed.length = script.statements.length →
    execution.step backend.watched script =
        (.ok false, { execution with phase := .completed }) ∧
      run backend.watched script execution = ⟨none, { execution with phase := .completed }⟩

theorem cancelLawful (backend : Backend σ) {execution : Execution (Watched σ)}
    (consistent : execution.Consistent script) (attached : execution.cancelled?.isSome = true) :
    execution.CancelLawful backend script where
  attached := attached
  cancels := by
    obtain ⟨cancelled, isCancelled⟩ := Option.isSome_iff_exists.mp attached
    simp [cancel, isCancelled]
  asks := events_step_watched backend script execution
  silent := performs_cancelled
  refuses := by
    intro cancelled unaborted statement here
    have next := consistent.next_of_unfinished unaborted (List.getElem?_eq_some_iff.mp here).1
    have refused := step_of_cancelled backend.watched cancelled next here
    exact ⟨refused, run_of_step_error refused⟩
  keeps := by
    intro running unaborted statement parameters value called here prepared call concrete
    have next := consistent.next_of_unfinished unaborted (List.getElem?_eq_some_iff.mp here).1
    have watched := backend.call_watched statement.operation parameters execution.state
    rw [call] at watched
    have allowed : execution.cancelled? ≠ some true := by simp [running]
    obtain ⟨more, step, bound⟩ := step_of_called allowed next here prepared watched concrete
    exact ⟨_, step, rfl, bound, rfl, by simp [running]⟩
  completes := by
    intro finished
    have step := consistent.step_of_finished backend.watched finished
    exact ⟨step, run_of_step_false step⟩

/-- Whatever the backend answers, and whether a run is cancelled before its first step, between two
steps or from inside a call: from then on the backend is not asked again, and the next statement is
refused by name, with records and bindings left as they are. A call that cancels the run still
counts, and a run with nothing left to do completes. -/
theorem performs_start_cancelLawful (backend : Backend σ) (script : Script) (state : σ)
    (cancelled : Bool) (actions : List Action) :
    let execution := performs backend.watched script (start ⟨[], state⟩ (some cancelled)) actions
    performs backend script (start state (some cancelled)) actions =
        execution.mapState Watched.inner ∧
      execution.CancelLawful backend script := by
  have kept (execution : Execution (Watched σ)) (action : Action)
      (attached : execution.cancelled?.isSome = true) :
      (perform backend.watched script execution action).cancelled?.isSome = true :=
    perform_attached attached action
  refine ⟨performs_of_refines backend.watched_refines (start ⟨[], state⟩ (some cancelled)) actions,
    cancelLawful backend ?_ ?_⟩
  · exact performs_start_consistent backend.watched script _ (some cancelled) actions
  · exact performs_keep kept actions rfl

end Execution

end Runbook
