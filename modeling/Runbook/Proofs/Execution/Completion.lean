import Runbook.Proofs.Execution.Reachable
import Mathlib.Logic.Relation

set_option autoImplicit false

namespace Runbook

def Script.Covered (script : Script) (executed : List Executed) : Prop :=
  ∀ (index : Nat) (statement : Statement), script.statements[index]? = some statement →
    ∃ record ∈ executed, record.index = index

theorem Script.covered_iff {script : Script} {executed : List Executed}
    (recorded : script.Recorded executed) (bounded : executed.length ≤ script.statements.length) :
    script.Covered executed ↔ executed.length = script.statements.length := by
  constructor
  next =>
    intro covered
    rcases Nat.lt_or_eq_of_le bounded with more | complete
    · obtain ⟨record, member, here⟩ := covered executed.length _ (List.getElem?_eq_getElem more)
      obtain ⟨index, inside, found⟩ := List.mem_iff_getElem.mp member
      obtain ⟨-, -, same, -⟩ := recorded index record (found ▸ List.getElem?_eq_getElem inside)
      omega
    · exact complete
  next =>
    intro complete index statement here
    have inside : index < executed.length := by
      rw [complete]
      exact (List.getElem?_eq_some_iff.mp here).1
    obtain ⟨-, -, same, -⟩ := recorded index _ (List.getElem?_eq_getElem inside)
    exact ⟨executed[index], List.getElem_mem inside, same⟩

namespace Execution

variable {σ : Type} {backend : Backend σ} {script : Script}

theorem drive_keep {Kept : Execution σ → Prop}
    (kept : ∀ execution, Kept execution → Kept (execution.step backend script).2) (steps : Nat)
    {execution : Execution σ} (initially : Kept execution) :
    Kept (drive backend script steps execution).final := by
  induction steps generalizing execution with
  | zero => exact initially
  | succ steps ih =>
    have stepped := kept execution initially
    unfold drive
    split
    next later ran => exact ih (by rwa [ran] at stepped)
    next final step => rwa [step] at stepped
    next error final step => rwa [step] at stepped

def Advances (backend : Backend σ) (script : Script) : Execution σ → Execution σ → Prop :=
  Relation.ReflTransGen fun earlier later => earlier.step backend script = (.ok true, later)

theorem Consistent.executed_le {execution : Execution σ}
    (consistent : execution.Consistent script) :
    execution.executed.length ≤ script.statements.length := by
  have counted := consistent.counted
  cases phase : execution.phase <;> rw [phase] at counted <;> simp only [Phase.Counts] at counted
  · simp [counted]
  · omega
  · omega
  · omega

theorem Consistent.of_step {earlier later : Execution σ} {answer : Except RunError Bool}
    (consistent : earlier.Consistent script)
    (step : earlier.step backend script = (answer, later)) : later.Consistent script := by
  have kept := step_consistent backend consistent
  rwa [step] at kept

theorem Advances.consistent {earlier later : Execution σ}
    (advances : Advances backend script earlier later) (consistent : earlier.Consistent script) :
    later.Consistent script := by
  induction advances with
  | refl => exact consistent
  | tail _ last ih => exact ih.of_step last

theorem Advances.aborted_iff {earlier later : Execution σ}
    (advances : Advances backend script earlier later) :
    later.phase = .aborted ↔ earlier.phase = .aborted ∧ later = earlier := by
  induction advances with
  | refl => simp
  | @tail middle later front last ih =>
    have running : later.phase ≠ .aborted ∧ middle.phase ≠ .aborted := by
      have stepped := step_stepped backend script middle
      rw [last] at stepped
      cases stepped with
      | ran index statement attempt record bindings next here allowed attempted outcome =>
        exact ⟨phaseAfter_ne_aborted script index, phase_ne_aborted next⟩
    constructor
    next => exact fun aborted => absurd aborted running.1
    next =>
      rintro ⟨aborted, rfl⟩
      exact absurd aborted running.1

inductive Ended (backend : Backend σ) (script : Script) (last : Execution σ) : Report σ → Prop where
  | nothingLeft (final : Execution σ) (step : last.step backend script = (.ok false, final)) :
      Ended backend script last ⟨none, final⟩
  | failed (error : RunError) (final : Execution σ)
      (step : last.step backend script = (.error error, final)) :
      Ended backend script last ⟨some error, final⟩

theorem drive_ends {steps : Nat} {execution : Execution σ}
    (consistent : execution.Consistent script)
    (enough : script.statements.length < execution.executed.length + steps) :
    ∃ last, Advances backend script execution last ∧
      Ended backend script last (drive backend script steps execution) := by
  induction steps generalizing execution with
  | zero =>
    have := consistent.executed_le
    omega
  | succ steps ih =>
    unfold drive
    split
    next later ran =>
      have longer := length_of_ran ran
      obtain ⟨last, advances, ended⟩ := ih (consistent.of_step ran) (by omega)
      exact ⟨last, .head ran advances, ended⟩
    next final step => exact ⟨execution, .refl, .nothingLeft final step⟩
    next error final step => exact ⟨execution, .refl, .failed error final step⟩

theorem run_ends (backend : Backend σ) {execution : Execution σ}
    (consistent : execution.Consistent script) :
    ∃ last, Advances backend script execution last ∧
      Ended backend script last (run backend script execution) :=
  drive_ends consistent (by omega)

theorem run_consistent {execution : Execution σ} (consistent : execution.Consistent script) :
    (run backend script execution).final.Consistent script := by
  obtain ⟨last, advances, ended⟩ := run_ends backend consistent
  generalize run backend script execution = report at ended
  cases ended with
  | nothingLeft final step => exact (advances.consistent consistent).of_step step
  | failed error final step => exact (advances.consistent consistent).of_step step

theorem phase_of_nothing_left {last final : Execution σ}
    (step : last.step backend script = (.ok false, final)) :
    final.phase = .completed ∨ last.phase = .aborted ∧ final = last := by
  have stepped := step_stepped backend script last
  rw [step] at stepped
  cases stepped with
  | ended finished => exact (next?_eq_none_iff.mp finished).imp id (⟨·, rfl⟩)
  | exhausted index next beyond => exact .inl rfl

theorem phase_of_failed {last final : Execution σ} {error : RunError}
    (step : last.step backend script = (.error error, final)) : final.phase = .aborted := by
  have raised : ∃ error, (last.step backend script).1 = .error error :=
    ⟨error, congrArg Prod.fst step⟩
  simpa [step] using (step_error_iff.mp raised).2

theorem run_of_aborted {execution : Execution σ} (aborted : execution.phase = .aborted) :
    run backend script execution = ⟨none, execution⟩ := by
  have finished : execution.next? = none := next?_eq_none_iff.mpr (.inr aborted)
  simp only [run, drive, step_of_ended finished]

theorem run_phase {execution : Execution σ} (consistent : execution.Consistent script)
    (unaborted : execution.phase ≠ .aborted) :
    (run backend script execution).final.phase =
      if (run backend script execution).isCompleted then .completed else .aborted := by
  obtain ⟨last, advances, ended⟩ := run_ends backend consistent
  generalize run backend script execution = report at ended
  cases ended with
  | nothingLeft final step =>
    rcases phase_of_nothing_left step with completed | ⟨aborted, -⟩
    · exact completed
    · exact absurd (advances.aborted_iff.mp aborted).1 unaborted
  | failed error final step => exact phase_of_failed step

theorem covered_iff_of_consistent {execution : Execution σ}
    (consistent : execution.Consistent script) :
    script.Covered execution.executed ↔
      execution.executed.length = script.statements.length :=
  Script.covered_iff consistent.recorded consistent.executed_le

/-- A run that is entered before any abort is reported completed exactly when every statement has a
record. Entered after an abort, it is reported completed all the same. -/
theorem run_completed_iff (backend : Backend σ) (script : Script) (state : σ)
    (cancelled? : Option Bool) (actions : List Action) :
    let execution := performs backend script (start state cancelled?) actions
    let report := run backend script execution
    (execution.phase ≠ .aborted →
      (report.isCompleted = true ↔ script.Covered report.final.executed)) ∧
    (execution.phase = .aborted →
      report.isCompleted = true ∧ ¬ script.Covered report.final.executed) := by
  intro execution report
  have consistent : execution.Consistent script :=
    performs_start_consistent backend script state cancelled? actions
  constructor
  next =>
    intro unaborted
    have kept : report.final.Consistent script := run_consistent consistent
    have counted := kept.counted
    rw [run_phase consistent unaborted] at counted
    rw [covered_iff_of_consistent kept]
    by_cases completed : report.isCompleted = true
    next =>
      rw [if_pos completed] at counted
      exact ⟨fun _ => counted, fun _ => completed⟩
    next =>
      rw [if_neg completed] at counted
      exact ⟨fun done => absurd done completed, fun all => absurd all (Nat.ne_of_lt counted)⟩
  next =>
    intro aborted
    have counted := consistent.counted
    rw [aborted] at counted
    have unchanged : report = ⟨none, execution⟩ := run_of_aborted aborted
    rw [unchanged, covered_iff_of_consistent consistent]
    exact ⟨rfl, Nat.ne_of_lt counted⟩

def lone : Script := ⟨[⟨none, ⟨"create", "vpc", ∅⟩, ⟨0, 10⟩⟩], 0⟩

def refusing : Backend Unit :=
  ⟨fun _ _ state => (.answer (.error (.provider "quota exceeded")), state)⟩

theorem run_after_abort_completed :
    let report := run refusing lone (performs refusing lone (start () none) [.step])
    report.isCompleted = true ∧ ¬ lone.Covered report.final.executed := by
  refine ⟨rfl, ?_⟩
  intro covered
  obtain ⟨record, member, -⟩ := covered 0 _ rfl
  exact absurd member (List.not_mem_nil)

end Execution

end Runbook
