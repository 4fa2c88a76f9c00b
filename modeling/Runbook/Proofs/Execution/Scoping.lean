import Runbook.Proofs.Execution.Completion
import Runbook.Proofs.Execution.Watched

set_option autoImplicit false

namespace Runbook

variable {σ : Type}

def Argument.scopeFault? (declared : List String) (parameter : String) :
    Argument → Option RuntimeError
  | .hole key => some (.unresolvedHole parameter key)
  | .given (.reference name) => if name ∈ declared then none else some (.unknownReference name)
  | .given _ => none

namespace Statement

def Redeclares (declared : List String) (statement : Statement) : Prop :=
  ∃ name, statement.name? = some name ∧ name ∈ declared

def Violates (declared : List String) (statement : Statement) : Prop :=
  statement.Redeclares declared ∨
    (∃ parameter key, (parameter, Argument.hole key) ∈ statement.call.arguments.entries) ∨
    ∃ parameter name, (parameter, Argument.given (.reference name)) ∈
      statement.call.arguments.entries ∧ name ∉ declared

def argumentFault? (declared : List String) (statement : Statement) : Option RuntimeError :=
  statement.call.arguments.entries.findSome? fun entry => entry.2.scopeFault? declared entry.1

def scopeFault? (declared : List String) (statement : Statement) : Option RuntimeError :=
  match statement.name? with
  | none => statement.argumentFault? declared
  | some name =>
    if name ∈ declared then some (.alreadyBound name) else statement.argumentFault? declared

theorem argumentFault?_isSome_iff {declared : List String} {statement : Statement} :
    (statement.argumentFault? declared).isSome = true ↔
      (∃ parameter key, (parameter, Argument.hole key) ∈ statement.call.arguments.entries) ∨
      ∃ parameter name, (parameter, Argument.given (.reference name)) ∈
        statement.call.arguments.entries ∧ name ∉ declared := by
  simp only [argumentFault?, List.findSome?_isSome_iff]
  constructor
  next =>
    rintro ⟨⟨parameter, argument⟩, member, fault⟩
    match argument with
    | .hole key => exact .inl ⟨parameter, key, member⟩
    | .given (.reference name) =>
      refine .inr ⟨parameter, name, member, fun known => ?_⟩
      simp [Argument.scopeFault?, known] at fault
    | .given (.text _) | .given (.number _) | .given (.flag _) =>
      simp [Argument.scopeFault?] at fault
  next =>
    rintro (⟨parameter, key, member⟩ | ⟨parameter, name, member, unknown⟩)
    · exact ⟨_, member, rfl⟩
    · exact ⟨_, member, by simp [Argument.scopeFault?, unknown]⟩

theorem violates_iff {declared : List String} {statement : Statement} :
    statement.Violates declared ↔ ∃ cause, statement.scopeFault? declared = some cause := by
  rw [Violates, ← argumentFault?_isSome_iff, ← Option.isSome_iff_exists]
  unfold scopeFault? Redeclares
  cases statement.name? with
  | none => simp
  | some name => by_cases known : name ∈ declared <;> simp [known]

theorem scopeFault?_cases {declared : List String} {statement : Statement} {cause : RuntimeError}
    (faulty : statement.scopeFault? declared = some cause) :
    (∀ name, statement.name? = some name → name ∈ declared → cause = .alreadyBound name) ∧
      (¬ statement.Redeclares declared → statement.argumentFault? declared = some cause) := by
  unfold scopeFault? at faulty
  constructor
  next =>
    intro name named known
    simpa [named, known, eq_comm] using faulty
  next =>
    intro fresh
    split at faulty
    next => exact faulty
    next name named =>
      have unknown : name ∉ declared := fun known => fresh ⟨name, named, known⟩
      simpa [unknown] using faulty

end Statement

theorem Argument.resolve_eq_error_iff {bindings : Bindings} {parameter : String}
    {argument : Argument} {cause : RuntimeError} :
    argument.resolve bindings parameter = .error cause ↔
      argument.scopeFault? bindings.names parameter = some cause := by
  match argument with
  | .hole key => simp [resolve, scopeFault?]
  | .given (.reference name) =>
    by_cases known : name ∈ bindings.names
    next =>
      obtain ⟨value, found⟩ := Option.ne_none_iff_exists'.mp
        (mt Bindings.get?_eq_none_iff.mp (not_not_intro known))
      simp [resolve, scopeFault?, known, found]
    next => simp [resolve, scopeFault?, known, Bindings.get?_eq_none_iff.mpr known]
  | .given (.text _) | .given (.number _) | .given (.flag _) => simp [resolve, scopeFault?]

theorem Statement.prepare_eq_error_iff {statement : Statement} {bindings : Bindings}
    {cause : RuntimeError} :
    statement.prepare bindings = .error cause ↔
      statement.scopeFault? bindings.names = some cause := by
  have arguments : statement.call.arguments.tryMap (Argument.resolve bindings) = .error cause ↔
      statement.argumentFault? bindings.names = some cause := by
    rw [Dict.tryMap_eq_error_iff]
    exact Dict.tryEach_error_iff fun _ _ _ => Argument.resolve_eq_error_iff
  unfold prepare scopeFault?
  cases statement.name? with
  | none => exact arguments
  | some name =>
    by_cases bound : name ∈ bindings.names
    next => simp [Bindings.contains_iff, bound]
    next => simpa [Bindings.contains_iff, bound] using arguments

def RuntimeError.OfBackend : RuntimeError → Prop
  | .dispatchNotFound _ _ | .execution _ => True
  | _ => False

theorem RuntimeError.ofBackend_ofBackend (failure : BackendError) :
    (RuntimeError.ofBackend failure).OfBackend := by
  cases failure <;> trivial

namespace Statement

theorem scopeFault?_eq_none_iff {statement : Statement} {bindings : Bindings} :
    statement.scopeFault? bindings.names = none ↔
      ∃ parameters, statement.prepare bindings = .ok parameters := by
  cases prepared : statement.prepare bindings with
  | error cause => simp [prepare_eq_error_iff.mp prepared]
  | ok parameters =>
    refine ⟨fun _ => ⟨parameters, rfl⟩, fun _ => ?_⟩
    refine Option.eq_none_iff_forall_ne_some.mpr fun cause faulty => ?_
    simp [prepare_eq_error_iff.mpr faulty] at prepared

theorem unbound_of_prepared {statement : Statement} {bindings : Bindings} {name : String}
    {parameters : Parameters} (prepared : statement.prepare bindings = .ok parameters)
    (named : statement.name? = some name) : name ∉ bindings.names := by
  intro bound
  simp [prepare, named, Bindings.contains_iff.mpr bound] at prepared

theorem conclude_error {index : Nat} {statement : Statement} {bindings : Bindings}
    {parameters : Parameters} {result : Except BackendError Value} {cause : RuntimeError}
    (prepared : statement.prepare bindings = .ok parameters)
    (failed : statement.conclude index bindings result = .error cause) : cause.OfBackend := by
  unfold conclude at failed
  split at failed
  next failure =>
    obtain rfl : RuntimeError.ofBackend failure = cause := by simpa using failed
    exact RuntimeError.ofBackend_ofBackend failure
  next name =>
    obtain rfl : RuntimeError.execution (referenceResult name) = cause := by simpa using failed
    trivial
  next value concrete =>
    split at failed
    next => simp at failed
    next name named =>
      split at failed
      next bound =>
        -- A name that is bound has been found out before the call.
        exact absurd (Bindings.bind?_eq_none_iff.mp bound) (unbound_of_prepared prepared named)
      next => simp at failed

theorem attempt_error {backend : Backend σ} {index : Nat} {statement : Statement}
    {bindings : Bindings} {state : σ} {cause : RuntimeError}
    (failed : (statement.attempt backend index bindings state).outcome = .error cause) :
    statement.scopeFault? bindings.names = some cause ∨
      statement.scopeFault? bindings.names = none ∧ cause.OfBackend := by
  unfold attempt at failed
  split at failed
  next first prepared =>
    obtain rfl : first = cause := by simpa using failed
    exact .inl (prepare_eq_error_iff.mp prepared)
  next parameters prepared =>
    exact .inr ⟨scopeFault?_eq_none_iff.mpr ⟨parameters, prepared⟩,
      conclude_error prepared failed⟩

end Statement

namespace Script

def declaredBefore (script : Script) (index : Nat) : List String :=
  (script.statements.take index).filterMap (·.name?)

def ViolatesAt (script : Script) (index : Nat) : Prop :=
  ∃ statement, script.statements[index]? = some statement ∧
    statement.Violates (script.declaredBefore index)

theorem violatesAt_iff {script : Script} {index : Nat} {statement : Statement}
    (here : script.statements[index]? = some statement) :
    script.ViolatesAt index ↔
      ∃ cause, statement.scopeFault? (script.declaredBefore index) = some cause := by
  simp [ViolatesAt, here, Statement.violates_iff]

theorem Recorded.names {script : Script} {executed : List Executed}
    (recorded : script.Recorded executed) :
    executed.map Executed.name? =
      (script.statements.take executed.length).map Statement.name? := by
  apply List.ext_getElem?
  intro index
  simp only [List.getElem?_map, List.getElem?_take]
  split
  next inside =>
    obtain ⟨statement, here, -, -, -, same⟩ :=
      recorded index _ (List.getElem?_eq_getElem inside)
    simp [inside, here, same]
  next outside => simp [List.getElem?_eq_none (Nat.le_of_not_lt outside)]

end Script

namespace Execution

variable {backend : Backend σ} {script : Script}

theorem Consistent.names_eq {execution : Execution σ} (consistent : execution.Consistent script) :
    execution.bindings.names = script.declaredBefore execution.executed.length := by
  have declared := congrArg (List.filterMap id) consistent.recorded.names
  rw [List.filterMap_map, List.filterMap_map] at declared
  rw [Bindings.names, consistent.bound, names_of_bindings]
  exact declared

theorem step_fault {execution final : Execution σ} (consistent : execution.Consistent script)
    {error : RunError} (failed : execution.step backend script = (.error error, final)) :
    ∃ statement, script.statements[execution.executed.length]? = some statement ∧
      error = errorAt script execution.executed.length statement error.cause ∧
      (error.cause = .cancelled ∨
        statement.scopeFault? (script.declaredBefore execution.executed.length) =
          some error.cause ∨
        statement.scopeFault? (script.declaredBefore execution.executed.length) = none ∧
          error.cause.OfBackend) := by
  have stepped := step_stepped backend script execution
  rw [failed] at stepped
  cases stepped with
  | cancelled index statement next here stopped =>
    obtain rfl := consistent.next_eq next
    exact ⟨statement, here, rfl, .inl rfl⟩
  | failed index statement attempt cause next here allowed attempted outcome =>
    obtain rfl := consistent.next_eq next
    subst attempted
    rw [← consistent.names_eq]
    exact ⟨statement, here, rfl, .inr (Statement.attempt_error outcome)⟩

-- The backend has been asked about the first statements, in order, none of which violates
-- scoping; about all that have run, and about one more if that is where the backend failed.
def Asked (script : Script) (execution : Execution (Watched σ)) : Prop :=
  ∃ count, execution.state.lookups = (script.statements.take count).map Statement.operation ∧
    (∀ index < count, ¬ script.ViolatesAt index) ∧ execution.executed.length ≤ count ∧
    (execution.phase ≠ .aborted → count = execution.executed.length)

theorem lookups_attempt_watched {statement : Statement} {index : Nat} {bindings : Bindings}
    {state : Watched σ} :
    (statement.attempt backend.watched index bindings state).state.lookups =
      state.lookups ++
        if statement.scopeFault? bindings.names = none then [statement.operation] else [] := by
  rw [Watched.lookups, Statement.events_attempt_watched, List.filterMap_append, Watched.lookups]
  congr 1
  unfold Statement.events
  cases prepared : statement.prepare bindings with
  | error cause => simp [Statement.prepare_eq_error_iff.mp prepared]
  | ok parameters =>
    simp [Statement.scopeFault?_eq_none_iff.mpr ⟨parameters, prepared⟩, Event.lookup?]

theorem operations_take_succ {index : Nat} {statement : Statement}
    (here : script.statements[index]? = some statement) :
    (script.statements.take (index + 1)).map Statement.operation =
      (script.statements.take index).map Statement.operation ++ [statement.operation] := by
  simp [List.take_add_one, here]

theorem clean_succ {count : Nat} {statement : Statement}
    (here : script.statements[count]? = some statement)
    (clean : ∀ index < count, ¬ script.ViolatesAt index)
    (faultless : statement.scopeFault? (script.declaredBefore count) = none) :
    ∀ index < count + 1, ¬ script.ViolatesAt index := by
  intro index within
  rcases Nat.lt_succ_iff_lt_or_eq.mp within with earlier | rfl
  · exact clean index earlier
  · simp [Script.violatesAt_iff here, faultless]

theorem start_asked (state : σ) (cancelled? : Option Bool) :
    Asked script (start ⟨[], state⟩ cancelled?) :=
  ⟨0, rfl, by simp, Nat.le_refl 0, fun _ => rfl⟩

theorem step_asked (backend : Backend σ) {execution : Execution (Watched σ)}
    (consistent : execution.Consistent script) (asked : Asked script execution) :
    Asked script (execution.step backend.watched script).2 := by
  obtain ⟨count, lookups, clean, bounded, all⟩ := asked
  have stepped := step_stepped backend.watched script execution
  generalize execution.step backend.watched script = result at stepped
  cases stepped with
  | ended finished => exact ⟨count, lookups, clean, bounded, all⟩
  | exhausted index next beyond =>
    exact ⟨count, lookups, clean, bounded, fun _ => all (phase_ne_aborted next)⟩
  | cancelled index statement next here stopped =>
    exact ⟨count, lookups, clean, bounded, fun unaborted => absurd rfl unaborted⟩
  | failed index statement attempt cause next here allowed attempted outcome =>
    obtain rfl := consistent.next_eq next
    obtain rfl := all (phase_ne_aborted next)
    subst attempted
    have names := consistent.names_eq
    cases faults : statement.scopeFault? (script.declaredBefore execution.executed.length) with
    | none =>
      refine ⟨execution.executed.length + 1, ?_, clean_succ here clean faults, Nat.le_succ _,
        fun unaborted => absurd rfl unaborted⟩
      simp only [lookups_attempt_watched, names, faults, if_true, lookups,
        operations_take_succ here]
    | some cause =>
      refine ⟨execution.executed.length, ?_, clean, Nat.le_refl _,
        fun unaborted => absurd rfl unaborted⟩
      simp [lookups_attempt_watched, names, faults, lookups]
  | ran index statement attempt record bindings next here allowed attempted outcome =>
    obtain rfl := consistent.next_eq next
    obtain rfl := all (phase_ne_aborted next)
    subst attempted
    obtain ⟨parameters, value, prepared, -⟩ := Statement.attempt_ok outcome
    have faultless := Statement.scopeFault?_eq_none_iff.mpr ⟨parameters, prepared⟩
    rw [consistent.names_eq] at faultless
    refine ⟨execution.executed.length + 1, ?_, clean_succ here clean faultless, by simp, by simp⟩
    simp only [lookups_attempt_watched, consistent.names_eq, faultless, if_true, lookups,
      operations_take_succ here]

theorem Advances.asked {earlier later : Execution (Watched σ)}
    (advances : Advances backend.watched script earlier later)
    (consistent : earlier.Consistent script) (asked : Asked script earlier) :
    Asked script later := by
  induction advances with
  | refl => exact asked
  | tail front last ih =>
    have kept := step_asked backend (Advances.consistent front consistent) ih
    rwa [last] at kept

def Report.FailsAt (script : Script) (report : Report σ) (index : Nat) (cause : RuntimeError) :
    Prop :=
  ∃ statement, script.statements[index]? = some statement ∧
    report.error? = some (errorAt script index statement cause)

theorem run_watched_cases (backend : Backend σ) (script : Script) (state : σ)
    (cancelled? : Option Bool) :
    let report := run backend.watched script (start ⟨[], state⟩ cancelled?)
    Asked script report.final ∧
      (report.error? = none ∧ report.final.executed.length = script.statements.length ∨
      ∃ index statement cause, script.statements[index]? = some statement ∧
        report.error? = some (errorAt script index statement cause) ∧
        (∀ earlier < index, ¬ script.ViolatesAt earlier) ∧
        (cause = .cancelled ∨
          statement.scopeFault? (script.declaredBefore index) = some cause ∨
          statement.scopeFault? (script.declaredBefore index) = none ∧ cause.OfBackend)) := by
  intro report
  have consistent : (start (⟨[], state⟩ : Watched σ) cancelled?).Consistent script :=
    start_consistent _ _
  have kept : report.final.Consistent script := run_consistent consistent
  have phase : report.final.phase = if report.isCompleted then .completed else .aborted :=
    run_phase consistent (by simp [start])
  have counted := kept.counted
  rw [phase] at counted
  obtain ⟨last, advances, ended⟩ := run_ends backend.watched consistent
  have asked := advances.asked consistent (start_asked state cancelled?)
  have after := step_asked backend (advances.consistent consistent) asked
  change Ended backend.watched script last report at ended
  generalize report = report at *
  cases ended with
  | nothingLeft final step =>
    rw [step] at after
    exact ⟨after, .inl ⟨rfl, counted⟩⟩
  | failed error final step =>
    rw [step] at after
    obtain ⟨statement, here, explained, causes⟩ := step_fault (advances.consistent consistent) step
    obtain ⟨count, -, clean, bounded, -⟩ := asked
    exact ⟨after, .inr ⟨_, statement, error.cause, here, congrArg some explained,
      fun earlier within => clean earlier (by omega), causes⟩⟩

theorem run_watched (backend : Backend σ) (script : Script) (state : σ)
    (cancelled? : Option Bool) :
    run backend script (start state cancelled?) =
      (run backend.watched script (start ⟨[], state⟩ cancelled?)).mapState Watched.inner :=
  run_of_refines backend.watched_refines script (start ⟨[], state⟩ cancelled?)

theorem run_cases (backend : Backend σ) (script : Script) (state : σ) (cancelled? : Option Bool)
    (uncancelled : ∀ error, (run backend script (start state cancelled?)).error? = some error →
      error.cause ≠ .cancelled) :
    let report := run backend script (start state cancelled?)
    report.error? = none ∧ (∀ index, ¬ script.ViolatesAt index) ∨
      ∃ index cause, report.FailsAt script index cause ∧
        (∀ earlier < index, ¬ script.ViolatesAt earlier) ∧
        (¬ script.ViolatesAt index ∧ cause.OfBackend ∨
          ∃ statement, script.statements[index]? = some statement ∧
            statement.scopeFault? (script.declaredBefore index) = some cause) := by
  intro report
  have error_eq : (run backend.watched script (start ⟨[], state⟩ cancelled?)).error? =
      report.error? := by
    rw [show report = _ from run_watched backend script state cancelled?]
    rfl
  obtain ⟨⟨count, -, clean, executed, -⟩, ends⟩ := run_watched_cases backend script state cancelled?
  rw [error_eq] at ends
  rcases ends with ⟨completed, all⟩ | ⟨index, statement, cause, here, failed, before, causes⟩
  · refine .inl ⟨completed, fun index violating => ?_⟩
    -- A completed run has executed, hence asked about, every statement.
    have inside := (List.getElem?_eq_some_iff.mp violating.choose_spec.1).1
    exact clean index (by omega) violating
  · refine .inr ⟨index, cause, ⟨statement, here, failed⟩, before, ?_⟩
    rcases causes with cancelled | faulty | ⟨faultless, backends⟩
    · exact absurd cancelled (uncancelled _ failed)
    · exact .inr ⟨statement, here, faulty⟩
    · exact .inl ⟨by simp [Script.violatesAt_iff here, faultless], backends⟩

/-- Where no statement violates scoping, a run that no cancellation ends fails only by the backend.
Otherwise it fails by the backend before the first violation, or at the violation, and the backend
is asked about no statement from there on. -/
theorem run_scoping (backend : Backend σ) (script : Script) (state : σ) (cancelled? : Option Bool)
    (uncancelled : ∀ error, (run backend script (start state cancelled?)).error? = some error →
      error.cause ≠ .cancelled) :
    let report := run backend script (start state cancelled?)
    let watched := run backend.watched script (start ⟨[], state⟩ cancelled?)
    report = watched.mapState Watched.inner ∧
    ((∀ index, ¬ script.ViolatesAt index) →
      ∀ error, report.error? = some error → error.cause.OfBackend) ∧
    ∀ index statement, script.statements[index]? = some statement →
      statement.Violates (script.declaredBefore index) →
      (∀ earlier < index, ¬ script.ViolatesAt earlier) →
      ((∃ earlier < index, ∃ cause, cause.OfBackend ∧ report.FailsAt script earlier cause) ∨
        ∃ cause, report.FailsAt script index cause ∧
          (∀ name, statement.name? = some name → name ∈ script.declaredBefore index →
            cause = .alreadyBound name) ∧
          (¬ statement.Redeclares (script.declaredBefore index) →
            statement.argumentFault? (script.declaredBefore index) = some cause)) ∧
      ∃ count ≤ index, watched.final.state.lookups =
        (script.statements.take count).map Statement.operation := by
  intro report watched
  have cases := run_cases backend script state cancelled? uncancelled
  obtain ⟨⟨count, lookups, asked, -, -⟩, -⟩ := run_watched_cases backend script state cancelled?
  refine ⟨run_watched backend script state cancelled?, ?_, ?_⟩
  · intro clean error failed
    rcases cases with ⟨completed, -⟩ | ⟨index, cause, ⟨statement, here, failing⟩, -, causes⟩
    · simp [report, completed] at failed
    · obtain rfl : errorAt script index statement cause = error := by
        simpa [report, failing] using failed
      rcases causes with ⟨-, backends⟩ | ⟨statement, here, faulty⟩
      · exact backends
      · exact absurd ((Script.violatesAt_iff here).mpr ⟨cause, faulty⟩) (clean index)
  · intro index statement here violates first
    have violating : script.ViolatesAt index := ⟨statement, here, violates⟩
    refine ⟨?_, count, Nat.le_of_not_lt fun beyond => asked index beyond violating, lookups⟩
    rcases cases with ⟨-, none⟩ | ⟨reached, cause, fails, clean, causes⟩
    · exact absurd violating (none index)
    have within : reached ≤ index := Nat.le_of_not_lt fun beyond => clean index beyond violating
    rcases causes with ⟨unviolated, backends⟩ | ⟨failing, there, faulty⟩
    · have distinct : reached ≠ index := fun same => unviolated (same ▸ violating)
      exact .inl ⟨reached, Nat.lt_of_le_of_ne within distinct, cause, backends, fails⟩
    · have violated := (Script.violatesAt_iff there).mpr ⟨cause, faulty⟩
      obtain rfl : reached = index :=
        Nat.le_antisymm within (Nat.le_of_not_lt fun before => first reached before violated)
      obtain rfl : failing = statement := by simpa [there] using here
      exact .inr ⟨cause, fails, Statement.scopeFault?_cases faulty⟩

def granting : Backend Unit := ⟨fun _ _ state => (.answer (.ok (.text "vpc-1")), state)⟩

def redeclaring : Script :=
  ⟨[⟨some "net", ⟨"create", "vpc", ∅⟩, ⟨0, 16⟩⟩, ⟨some "net", ⟨"create", "vpc", ∅⟩, ⟨17, 33⟩⟩], 0⟩

theorem run_scoping_redeclaring :
    let report := run granting redeclaring (start () none)
    let watched := run granting.watched redeclaring (start ⟨[], ()⟩ none)
    (∀ error, report.error? = some error → error.cause ≠ .cancelled) ∧
    redeclaring.ViolatesAt 1 ∧ report.FailsAt redeclaring 1 (.alreadyBound "net") ∧
    ∃ count ≤ 1, watched.final.state.lookups =
      (redeclaring.statements.take count).map Statement.operation := by
  intro report watched
  let second : Statement := ⟨some "net", ⟨"create", "vpc", ∅⟩, ⟨17, 33⟩⟩
  have failed : report.error? = some (errorAt redeclaring 1 second (.alreadyBound "net")) := by
    decide
  have uncancelled : ∀ error, report.error? = some error → error.cause ≠ .cancelled := by
    intro error failing
    obtain rfl : _ = error := by simpa [failed] using failing
    simp [errorAt]
  have violates : second.Violates (redeclaring.declaredBefore 1) := .inl ⟨"net", rfl, by decide⟩
  have clean : ∀ earlier < 1, ¬ redeclaring.ViolatesAt earlier := by
    intro earlier before
    obtain rfl : earlier = 0 := by omega
    have here : redeclaring.statements[0]? = some ⟨some "net", ⟨"create", "vpc", ∅⟩, ⟨0, 16⟩⟩ := rfl
    simp [Script.violatesAt_iff here, Statement.scopeFault?, Statement.argumentFault?,
      Script.declaredBefore]
  obtain ⟨fails, asked⟩ :=
    (run_scoping granting redeclaring () none uncancelled).2.2 1 second rfl violates clean
  refine ⟨uncancelled, ⟨second, rfl, violates⟩, ?_, asked⟩
  rcases fails with ⟨earlier, before, cause, backends, _, _, failing⟩ | ⟨cause, fails, names, -⟩
  · have same := congrArg (Option.map RunError.cause) (failed.symm.trans failing)
    simp only [errorAt, Option.map_some, Option.some.injEq] at same
    exact absurd backends (same ▸ id)
  · exact names "net" rfl (by decide) ▸ fails

end Execution

end Runbook
