import Runbook.Proofs.Dict
import Runbook.Proofs.Execution.Scoping

set_option autoImplicit false

namespace Runbook

variable {σ : Type}

def Event.call? : Event → Option (Operation × Parameters)
  | .lookedUp _ => none
  | .called operation parameters => some (operation, parameters)

def Watched.calls (watched : Watched σ) : List (Operation × Parameters) :=
  watched.events.filterMap Event.call?

inductive Argument.Passed (earlier : List Executed) : Argument → Value → Prop where
  | same (value : Value) (concrete : value.isReference = false) :
      Passed earlier (.given value) value
  -- The record is the only one that declares the name.
  | result (name : String) (record : Executed)
      (declared : earlier.filter (·.name? = some name) = [record]) :
      Passed earlier (.given (.reference name)) record.result

structure Statement.Passes (earlier : List Executed) (statement : Statement)
    (parameters : Parameters) : Prop where
  names : parameters.keys = statement.call.arguments.keys
  concrete : ∀ entry ∈ parameters.entries, entry.2.isReference = false
  passed : ∀ name argument, statement.call.arguments.get? name = some argument →
    ∃ value, parameters.get? name = some value ∧ argument.Passed earlier value

structure Declared (executed : List Executed) : Prop where
  concrete : ∀ record ∈ executed, record.result.isReference = false
  distinct : (executed.filterMap Executed.name?).Nodup

theorem Declared.filter_name {executed : List Executed} (declared : Declared executed)
    {record : Executed} {name : String} (member : record ∈ executed)
    (named : record.name? = some name) :
    executed.filter (·.name? = some name) = [record] := by
  obtain ⟨before, after, rfl⟩ := List.append_of_mem member
  have distinct := declared.distinct
  rw [List.filterMap_append, List.filterMap_cons_some named] at distinct
  obtain ⟨-, later, apart⟩ := List.nodup_append.mp distinct
  have none_before : before.filter (·.name? = some name) = [] := by
    refine List.filter_eq_nil_iff.mpr fun other inside same => ?_
    exact apart name (List.mem_filterMap.mpr ⟨other, inside, by simpa using same⟩) name
      List.mem_cons_self rfl
  have none_after : after.filter (·.name? = some name) = [] := by
    refine List.filter_eq_nil_iff.mpr fun other inside same => ?_
    exact (List.nodup_cons.mp later).1
      (List.mem_filterMap.mpr ⟨other, inside, by simpa using same⟩)
  simp [none_before, none_after, named]

theorem Declared.of_get? {executed : List Executed} (declared : Declared executed)
    {bindings : Bindings} (bound : bindings.entries = executed.filterMap Executed.binding?)
    {name : String} {value : Value} (found : bindings.get? name = some value) :
    ∃ record ∈ executed, executed.filter (·.name? = some name) = [record] ∧
      record.result = value := by
  obtain ⟨before, after, split, -⟩ := List.lookup_eq_some_iff.mp found
  have member : (name, value) ∈ executed.filterMap Executed.binding? := by
    rw [← bound, split]
    simp
  obtain ⟨record, inside, binds⟩ := List.mem_filterMap.mp member
  obtain ⟨_, named, rfl, result⟩ : ∃ declared, record.name? = some declared ∧ declared = name ∧
      record.result = value := by
    simpa [Executed.binding?] using binds
  exact ⟨record, inside, declared.filter_name inside named, result⟩

theorem Argument.passed_of_resolve {executed : List Executed} (declared : Declared executed)
    {bindings : Bindings} (bound : bindings.entries = executed.filterMap Executed.binding?)
    {parameter : String} {argument : Argument} {value : Value}
    (resolved : argument.resolve bindings parameter = .ok value) :
    argument.Passed executed value ∧ value.isReference = false := by
  match argument with
  | .hole key => simp [resolve] at resolved
  | .given (.reference name) =>
    simp only [resolve] at resolved
    split at resolved
    next result found =>
      obtain rfl : result = value := by simpa using resolved
      obtain ⟨record, inside, only, rfl⟩ := declared.of_get? bound found
      exact ⟨.result name record only, declared.concrete record inside⟩
    next => simp at resolved
  | .given (.text _) | .given (.number _) | .given (.flag _) =>
    obtain rfl : _ = value := by simpa [resolve] using resolved
    exact ⟨.same _ rfl, rfl⟩

namespace Statement

theorem passes_of_prepare {executed : List Executed} (declared : Declared executed)
    {bindings : Bindings} (bound : bindings.entries = executed.filterMap Executed.binding?)
    {statement : Statement} {parameters : Parameters}
    (prepared : statement.prepare bindings = .ok parameters) :
    statement.Passes executed parameters := by
  have mapped := Dict.entries_tryMap (tryMap_of_prepare prepared)
  constructor
  case names => exact Dict.keys_tryEach mapped
  case concrete =>
    intro entry member
    obtain ⟨argument, -, resolved⟩ := Dict.mem_tryEach mapped member
    exact (Argument.passed_of_resolve declared bound resolved).2
  case passed =>
    intro name argument found
    obtain ⟨value, given, resolved⟩ := Dict.find_tryEach mapped found
    exact ⟨value, given, (Argument.passed_of_resolve declared bound resolved).1⟩

theorem calls_attempt_watched (backend : Backend σ) (index : Nat) (statement : Statement)
    (bindings : Bindings) (state : Watched σ) :
    (statement.attempt backend.watched index bindings state).state.calls =
      state.calls ++ match statement.prepare bindings with
        | .error _ => []
        | .ok parameters => [(statement.operation, parameters)] := by
  rw [Watched.calls, events_attempt_watched, List.filterMap_append, Watched.calls]
  congr 1
  unfold events
  cases statement.prepare bindings <;> rfl

end Statement

namespace Execution

variable {backend : Backend σ} {script : Script}

structure Substituted (script : Script) (execution : Execution (Watched σ)) : Prop where
  bound : ∀ entry ∈ execution.bindings.entries, entry.2.isReference = false
  results : ∀ record ∈ execution.executed, record.result.isReference = false
  paced : execution.phase ≠ .aborted → execution.state.calls.length = execution.executed.length
  passed : ∀ (index : Nat) (operation : Operation) (parameters : Parameters),
    execution.state.calls[index]? = some (operation, parameters) →
    ∃ statement, script.statements[index]? = some statement ∧ operation = statement.operation ∧
      statement.Passes (execution.executed.take index) parameters

theorem Consistent.declared {execution : Execution σ} (consistent : execution.Consistent script)
    (results : ∀ record ∈ execution.executed, record.result.isReference = false) :
    Declared execution.executed :=
  ⟨results, consistent.distinct⟩

theorem concrete_of_results {execution : Execution σ} (consistent : execution.Consistent script)
    (results : ∀ record ∈ execution.executed, record.result.isReference = false) :
    ∀ entry ∈ execution.bindings.entries, entry.2.isReference = false := by
  intro entry member
  rw [consistent.bound] at member
  obtain ⟨record, inside, binds⟩ := List.mem_filterMap.mp member
  obtain ⟨name, -, rfl⟩ : ∃ name, record.name? = some name ∧ (name, record.result) = entry := by
    simpa [Executed.binding?] using binds
  exact results record inside

theorem start_substituted (state : σ) (cancelled? : Option Bool) :
    Substituted script (start ⟨[], state⟩ cancelled?) where
  bound := by simp [start, EmptyCollection.emptyCollection, Bindings.empty]
  results := by simp [start]
  paced := fun _ => rfl
  passed := by simp [start, Watched.calls]

theorem passed_attempt {execution : Execution (Watched σ)}
    (consistent : execution.Consistent script) (substituted : Substituted script execution)
    {statement : Statement}
    (next : execution.next? = some execution.executed.length)
    (here : script.statements[execution.executed.length]? = some statement) :
    ∀ (index : Nat) (operation : Operation) (parameters : Parameters),
      (statement.attempt backend.watched execution.executed.length execution.bindings
        execution.state).state.calls[index]? = some (operation, parameters) →
      index ≤ execution.executed.length ∧
      ∃ statement, script.statements[index]? = some statement ∧ operation = statement.operation ∧
        statement.Passes (execution.executed.take index) parameters := by
  intro index operation parameters called
  have paced := substituted.paced (phase_ne_aborted next)
  rw [Statement.calls_attempt_watched] at called
  by_cases old : index < execution.state.calls.length
  next =>
    rw [List.getElem?_append_left old] at called
    exact ⟨by omega, substituted.passed index operation parameters called⟩
  next =>
    rw [List.getElem?_append_right (Nat.le_of_not_lt old)] at called
    split at called
    next => simp at called
    next given prepared =>
      obtain ⟨last, rfl, rfl⟩ : index - execution.state.calls.length = 0 ∧
          statement.operation = operation ∧ given = parameters := by
        simpa [List.getElem?_singleton] using called
      obtain rfl : index = execution.executed.length := by omega
      refine ⟨Nat.le_refl _, statement, here, rfl, ?_⟩
      rw [List.take_length]
      exact Statement.passes_of_prepare (consistent.declared substituted.results)
        consistent.bound prepared

theorem step_substituted (backend : Backend σ) {execution : Execution (Watched σ)}
    (consistent : execution.Consistent script) (substituted : Substituted script execution) :
    Substituted script (execution.step backend.watched script).2 := by
  have after := step_consistent backend.watched consistent
  have stepped := step_stepped backend.watched script execution
  generalize execution.step backend.watched script = result at stepped after
  cases stepped with
  | ended finished => exact substituted
  | exhausted index next beyond =>
    exact ⟨substituted.bound, substituted.results,
      fun _ => substituted.paced (phase_ne_aborted next), substituted.passed⟩
  | cancelled index statement next here stopped =>
    exact ⟨substituted.bound, substituted.results, fun running => absurd rfl running,
      substituted.passed⟩
  | failed index statement attempt cause next here allowed attempted outcome =>
    obtain rfl := consistent.next_eq next
    subst attempted
    refine ⟨substituted.bound, substituted.results, fun running => absurd rfl running, ?_⟩
    intro index operation parameters called
    exact (passed_attempt consistent substituted next here index operation parameters called).2
  | ran index statement attempt record bindings next here allowed attempted outcome =>
    obtain rfl := consistent.next_eq next
    subst attempted
    obtain ⟨parameters, value, prepared, concrete, rfl, -⟩ := Statement.attempt_ok outcome
    have results : ∀ record ∈ execution.executed ++
        [statement.record execution.executed.length value], record.result.isReference = false := by
      intro record member
      rcases List.mem_append.mp member with old | last
      · exact substituted.results record old
      · obtain rfl := List.mem_singleton.mp last
        exact concrete
    refine ⟨concrete_of_results after results, results, ?_, ?_⟩
    · intro running
      simp [Statement.calls_attempt_watched, prepared, substituted.paced (phase_ne_aborted next)]
    · intro index operation parameters called
      obtain ⟨within, passes⟩ :=
        passed_attempt consistent substituted next here index operation parameters called
      -- The record of this step stands behind all that the call has seen.
      rwa [List.take_append_of_le_length within]

theorem performs_of_refines {τ : Type} {concrete : Backend σ} {abstract : Backend τ}
    {view : σ → τ} (refines : concrete.Refines abstract view) (execution : Execution σ)
    (actions : List Action) :
    performs abstract script (execution.mapState view) actions =
      (performs concrete script execution actions).mapState view := by
  induction actions generalizing execution with
  | nil => rfl
  | cons action rest ih =>
    cases action with
    | step =>
      simp only [performs, perform, step_of_refines refines]
      exact ih _
    | cancel => exact ih execution.cancel

/-- At every point of a run, whatever the backend answers and whenever the run is cancelled, no
reference is bound, answered or passed, and each function has been given what its statement says,
with every reference replaced by the result of the one statement before that declares it. -/
theorem performs_substituted (backend : Backend σ) (script : Script) (state : σ)
    (cancelled? : Option Bool) (actions : List Action) :
    let execution := performs backend.watched script (start ⟨[], state⟩ cancelled?) actions
    performs backend script (start state cancelled?) actions =
        execution.mapState Watched.inner ∧
      Substituted script execution := by
  refine ⟨performs_of_refines backend.watched_refines (start ⟨[], state⟩ cancelled?) actions, ?_⟩
  have kept : ∀ (execution : Execution (Watched σ)) (action : Action),
      execution.Consistent script ∧ Substituted script execution →
      (perform backend.watched script execution action).Consistent script ∧
        Substituted script (perform backend.watched script execution action) := by
    rintro execution action ⟨consistent, substituted⟩
    cases action with
    | step =>
      exact ⟨step_consistent backend.watched consistent,
        step_substituted backend consistent substituted⟩
    | cancel =>
      exact ⟨cancel_consistent consistent, substituted.bound, substituted.results,
        substituted.paced, substituted.passed⟩
  exact (performs_keep kept actions
    ⟨start_consistent _ cancelled?, start_substituted state cancelled?⟩).2

end Execution

end Runbook
