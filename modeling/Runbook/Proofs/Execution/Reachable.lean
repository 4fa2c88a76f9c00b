import Runbook.Proofs.Execution.Step

set_option autoImplicit false

namespace Runbook

theorem forall_getElem?_concat {α : Type} {list : List α} {last : α} {holds : Nat → α → Prop} :
    (∀ index element, (list ++ [last])[index]? = some element → holds index element) ↔
      (∀ index element, list[index]? = some element → holds index element) ∧
        holds list.length last := by
  constructor
  next =>
    intro all
    refine ⟨fun index element found => all index element ?_, all list.length last (by simp)⟩
    rwa [List.getElem?_append_left (List.getElem?_eq_some_iff.mp found).1]
  next =>
    rintro ⟨front, back⟩ index element found
    by_cases old : index < list.length
    next => exact front index element (List.getElem?_append_left old ▸ found)
    next =>
      rw [List.getElem?_append_right (Nat.le_of_not_lt old), List.getElem?_singleton] at found
      split at found
      next =>
        obtain rfl : index = list.length := by omega
        exact Option.some.inj found ▸ back
      next => simp at found

def Phase.Counts (script : Script) (executed : List Executed) : Phase → Prop
  | .notStarted => executed = []
  | .running next => next = executed.length ∧ next < script.statements.length
  | .completed => executed.length = script.statements.length
  | .aborted => executed.length < script.statements.length

def Script.Recorded (script : Script) (executed : List Executed) : Prop :=
  ∀ (index : Nat) (record : Executed), executed[index]? = some record →
    ∃ statement, script.statements[index]? = some statement ∧ record.index = index ∧
      record.action = statement.call.action ∧ record.kind = statement.call.kind ∧
      record.name? = statement.name?

namespace Execution

variable {σ : Type} {backend : Backend σ} {script : Script}

inductive Action where
  | step
  | cancel
deriving DecidableEq

def perform (backend : Backend σ) (script : Script) (execution : Execution σ) :
    Action → Execution σ
  | .step => (execution.step backend script).2
  | .cancel => execution.cancel

def performs (backend : Backend σ) (script : Script) : Execution σ → List Action → Execution σ
  | execution, [] => execution
  | execution, action :: rest =>
    performs backend script (perform backend script execution action) rest

theorem performs_keep {Kept : Execution σ → Prop}
    (kept : ∀ execution action, Kept execution → Kept (perform backend script execution action))
    {execution : Execution σ} (actions : List Action) (initially : Kept execution) :
    Kept (performs backend script execution actions) := by
  induction actions generalizing execution with
  | nil => exact initially
  | cons action rest ih => exact ih (kept execution action initially)

structure Consistent (script : Script) (execution : Execution σ) : Prop where
  recorded : script.Recorded execution.executed
  counted : execution.phase.Counts script execution.executed
  bound : execution.bindings.entries = execution.executed.filterMap Executed.binding?
  distinct : (execution.executed.filterMap Executed.name?).Nodup

theorem recorded_append {executed : List Executed} {statement : Statement} (result : Value)
    (recorded : script.Recorded executed)
    (here : script.statements[executed.length]? = some statement) :
    script.Recorded (executed ++ [statement.record executed.length result]) :=
  forall_getElem?_concat.mpr ⟨recorded, statement, here, rfl, rfl, rfl, rfl⟩

theorem names_of_bindings (executed : List Executed) :
    (executed.filterMap Executed.binding?).map Prod.fst = executed.filterMap Executed.name? := by
  induction executed with
  | nil => rfl
  | cons record rest ih =>
    cases named : record.name? <;> simp [Executed.binding?, named, ih]

theorem Consistent.next_eq {execution : Execution σ} (consistent : execution.Consistent script)
    {index : Nat} (next : execution.next? = some index) : index = execution.executed.length := by
  have counted := consistent.counted
  unfold next? at next
  split at next <;> simp_all [Phase.Counts]

theorem start_consistent (state : σ) (cancelled? : Option Bool) :
    (start state cancelled?).Consistent script where
  recorded := by simp [Script.Recorded, start]
  counted := rfl
  bound := rfl
  distinct := List.nodup_nil

theorem cancel_consistent {execution : Execution σ} (consistent : execution.Consistent script) :
    execution.cancel.Consistent script :=
  ⟨consistent.recorded, consistent.counted, consistent.bound, consistent.distinct⟩

theorem step_consistent (backend : Backend σ) {execution : Execution σ}
    (consistent : execution.Consistent script) :
    (execution.step backend script).2.Consistent script := by
  have within {index : Nat} {statement : Statement} (next : execution.next? = some index)
      (here : script.statements[index]? = some statement) :
      execution.executed.length < script.statements.length := by
    rw [← consistent.next_eq next]
    exact (List.getElem?_eq_some_iff.mp here).1
  have stepped := step_stepped backend script execution
  generalize execution.step backend script = result at stepped
  cases stepped with
  | ended finished => exact consistent
  | exhausted index next beyond =>
    refine ⟨consistent.recorded, ?_, consistent.bound, consistent.distinct⟩
    have counted := consistent.counted
    rw [List.getElem?_eq_none_iff] at beyond
    unfold next? at next
    split at next <;> simp only [Option.some.injEq, reduceCtorEq] at next
    next fresh =>
      rw [fresh] at counted
      have nothing : execution.executed = [] := counted
      simp only [Phase.Counts, nothing, List.length_nil]
      omega
    next running =>
      rw [running] at counted
      exact absurd counted.2 (by omega)
  | cancelled index statement next here stopped =>
    exact ⟨consistent.recorded, within next here, consistent.bound, consistent.distinct⟩
  | failed index statement attempt cause next here allowed attempted outcome =>
    exact ⟨consistent.recorded, within next here, consistent.bound, consistent.distinct⟩
  | ran index statement attempt record bindings next here allowed attempted outcome =>
    have inside := within next here
    obtain rfl := consistent.next_eq next
    subst attempted
    obtain ⟨parameters, value, -, -, rfl, bound⟩ := Statement.attempt_ok outcome
    have entries : bindings.entries = (execution.executed ++
        [statement.record execution.executed.length value]).filterMap Executed.binding? := by
      rw [bound, consistent.bound, List.filterMap_append]
      rfl
    refine ⟨recorded_append value consistent.recorded here, ?_, entries, ?_⟩
    · unfold phaseAfter
      split
      next last => simpa [Phase.Counts] using last
      next more =>
        simp only [Phase.Counts, List.length_append, List.length_singleton, true_and]
        omega
    · rw [← names_of_bindings, ← entries]
      exact bindings.distinct

theorem performs_consistent (backend : Backend σ) {execution : Execution σ}
    (consistent : execution.Consistent script) (actions : List Action) :
    (performs backend script execution actions).Consistent script := by
  apply performs_keep _ actions consistent
  intro execution action consistent
  cases action with
  | step => exact step_consistent backend consistent
  | cancel => exact cancel_consistent consistent

theorem performs_start_consistent (backend : Backend σ) (script : Script) (state : σ)
    (cancelled? : Option Bool) (actions : List Action) :
    (performs backend script (start state cancelled?) actions).Consistent script :=
  performs_consistent backend (start_consistent state cancelled?) actions

theorem next?_eq_none_iff {execution : Execution σ} :
    execution.next? = none ↔ execution.phase = .completed ∨ execution.phase = .aborted := by
  unfold next?
  cases execution.phase <;> simp

theorem step_of_ended {execution : Execution σ} (finished : execution.next? = none) :
    execution.step backend script = (.ok false, execution) := by
  simp [step, finished]

theorem performs_of_ended (backend : Backend σ) (script : Script) {execution : Execution σ}
    (finished : execution.next? = none) (actions : List Action) :
    ∃ cancelled?, performs backend script execution actions =
      { execution with cancelled? := cancelled? } := by
  induction actions generalizing execution with
  | nil => exact ⟨execution.cancelled?, rfl⟩
  | cons action rest ih =>
    cases action with
    | step =>
      simp only [performs, perform, step_of_ended finished]
      exact ih finished
    | cancel =>
      have still : execution.cancel.next? = none := finished
      exact ih still

/-- What a step promises: it adds a record, or ends the run and says which statement it could not
run and why, or does nothing because there is nothing left to do. -/
structure StepLawful (backend : Backend σ) (script : Script) (execution : Execution σ) :
    Prop where
  advances : (execution.step backend script).1 = .ok true ↔
    (execution.step backend script).2.executed.length = execution.executed.length + 1
  aborts : (∃ error, (execution.step backend script).1 = .error error) ↔
    execution.phase ≠ .aborted ∧ (execution.step backend script).2.phase = .aborted
  explains : ∀ error, (execution.step backend script).1 = .error error →
    (execution.step backend script).2.executed = execution.executed ∧
      (execution.step backend script).2.bindings = execution.bindings ∧
      ∃ statement, script.statements[execution.executed.length]? = some statement ∧
        error.place? = some ⟨execution.executed.length, statement.call.action,
          statement.call.kind, statement.name?⟩ ∧
        error.span? = some statement.span ∧ error.file = script.file
  rests : execution.phase = .completed ∨ execution.phase = .aborted →
    ∀ later, ∃ cancelled?,
      performs backend script execution later = { execution with cancelled? := cancelled? } ∧
      (performs backend script execution later).step backend script =
        (.ok false, performs backend script execution later)

theorem phaseAfter_ne_aborted (script : Script) (index : Nat) :
    phaseAfter script index ≠ .aborted := by
  unfold phaseAfter
  split <;> simp

theorem step_ok_true_iff {execution : Execution σ} :
    (execution.step backend script).1 = .ok true ↔
      (execution.step backend script).2.executed.length = execution.executed.length + 1 := by
  have stepped := step_stepped backend script execution
  generalize execution.step backend script = result at stepped
  cases stepped <;> simp

theorem length_of_ran {execution later : Execution σ}
    (ran : execution.step backend script = (.ok true, later)) :
    later.executed.length = execution.executed.length + 1 := by
  have longer := step_ok_true_iff.mp (congrArg Prod.fst ran)
  rwa [ran] at longer

theorem phase_ne_aborted {execution : Execution σ} {index : Nat}
    (next : execution.next? = some index) : execution.phase ≠ .aborted := by
  intro aborted
  simp [next?, aborted] at next

theorem step_error_iff {execution : Execution σ} :
    (∃ error, (execution.step backend script).1 = .error error) ↔
      execution.phase ≠ .aborted ∧ (execution.step backend script).2.phase = .aborted := by
  have stepped := step_stepped backend script execution
  generalize execution.step backend script = result at stepped
  cases stepped with
  | ended finished => simp
  | exhausted index next beyond => simp
  | cancelled index statement next here stopped => simpa using phase_ne_aborted next
  | failed index statement attempt cause next here allowed attempted outcome =>
    simpa using phase_ne_aborted next
  | ran index statement attempt record bindings next here allowed attempted outcome =>
    simp [phaseAfter_ne_aborted]

theorem step_error_explained {execution : Execution σ} (consistent : execution.Consistent script)
    {error : RunError} (failed : (execution.step backend script).1 = .error error) :
    (execution.step backend script).2.executed = execution.executed ∧
      (execution.step backend script).2.bindings = execution.bindings ∧
      ∃ statement, script.statements[execution.executed.length]? = some statement ∧
        error = errorAt script execution.executed.length statement error.cause := by
  have stepped := step_stepped backend script execution
  generalize execution.step backend script = result at stepped failed
  cases stepped with
  | ended finished => simp at failed
  | exhausted index next beyond => simp at failed
  | cancelled index statement next here stopped =>
    obtain rfl := consistent.next_eq next
    obtain rfl : errorAt script _ statement _ = error := by simpa using failed
    exact ⟨rfl, rfl, statement, here, rfl⟩
  | failed index statement attempt cause next here allowed attempted outcome =>
    obtain rfl := consistent.next_eq next
    obtain rfl : errorAt script _ statement _ = error := by simpa using failed
    exact ⟨rfl, rfl, statement, here, rfl⟩
  | ran index statement attempt record bindings next here allowed attempted outcome =>
    simp at failed

theorem step_lawful (backend : Backend σ) {execution : Execution σ}
    (consistent : execution.Consistent script) : execution.StepLawful backend script where
  advances := step_ok_true_iff
  aborts := step_error_iff
  explains := by
    intro error failed
    obtain ⟨executed, bindings, statement, here, explained⟩ :=
      step_error_explained consistent failed
    rw [explained]
    exact ⟨executed, bindings, statement, here, rfl, rfl, rfl⟩
  rests := by
    intro finished later
    have ended := next?_eq_none_iff.mpr finished
    obtain ⟨cancelled?, reached⟩ := performs_of_ended backend script ended later
    exact ⟨cancelled?, reached, step_of_ended (by rw [reached]; exact ended)⟩

/-- Whatever the backend answers and whenever the run is cancelled, the parts of an execution agree
with each other and with the script, and its next step is lawful. -/
theorem performs_start_lawful (backend : Backend σ) (script : Script) (state : σ)
    (cancelled? : Option Bool) (actions : List Action) :
    (performs backend script (start state cancelled?) actions).Consistent script ∧
      (performs backend script (start state cancelled?) actions).StepLawful backend script :=
  have consistent := performs_start_consistent backend script state cancelled? actions
  ⟨consistent, step_lawful backend consistent⟩

end Execution

end Runbook
