import Mathlib.Data.List.Nodup
import Runbook.Backend.DryRun
import Runbook.Proofs.Execution.Cancellation

set_option autoImplicit false

namespace Runbook

def Executed.creations (kind : String) (records : List Executed) : List Executed :=
  records.filter fun record => record.action = "create" ∧ record.kind = kind

namespace DryRun

inductive Offers (operation : Operation) : Handler Counters → Prop where
  | creation (creates : operation.action = "create") : Offers operation (create operation.kind)
  | echo (other : operation.action ≠ "create") : Offers operation answerId
  | refusal (message : String) : Offers operation (.answer (.error (.provider message)))

def Stocked (registry : DryRun) : Prop :=
  ∀ operation handler, registry.handlers.get? operation = some handler → Offers operation handler

theorem Stocked.of_handlers {registry later : DryRun} (stocked : Stocked registry)
    (same : later.handlers = registry.handlers) : Stocked later := by
  intro operation handler found
  exact stocked operation handler (same ▸ found)

theorem stocked_register {registry : DryRun} {action kind : String} {handler : Handler Counters}
    (stocked : Stocked registry) (offers : Offers ⟨action, kind⟩ handler) :
    Stocked (registry.register action kind handler) := by
  intro operation found member
  simp only [Registry.register] at member
  by_cases same : operation = ⟨action, kind⟩
  next =>
    subst same
    obtain rfl : handler = found := by simpa [Dict.get?_insert_self] using member
    exact offers
  next =>
    rw [Dict.get?_insert_of_ne _ _ same] at member
    exact stocked operation found member

theorem stocked_registerKind {registry : DryRun} (stocked : Stocked registry) (kind : String) :
    Stocked (registerKind registry kind) := by
  have others : ∀ action ∈ otherActions, action ≠ "create" := by decide
  refine List.foldlRecOn otherActions _ (stocked_register stocked (.creation rfl)) ?_
  intro registry stocked action member
  exact stocked_register stocked (.echo (others action member))

theorem stocked_new : Stocked new := by
  have nothing : Stocked (Registry.empty ∅) := by
    intro operation handler found
    simp [Registry.empty] at found
  exact List.foldlRecOn kinds _ nothing fun registry stocked kind _ =>
    stocked_registerKind stocked kind

def Creates (registry : DryRun) (kind : String) : Prop :=
  registry.handlers.get? ⟨"create", kind⟩ = some (create kind)

theorem registerKind_creates (registry : DryRun) {kind : String} (other : String)
    (known : kind = other ∨ Creates registry kind) :
    Creates (registerKind registry other) kind := by
  have others : ∀ action ∈ otherActions, action ≠ "create" := by decide
  have first : Creates (registry.register "create" other (create other)) kind := by
    by_cases same : kind = other
    next =>
      subst same
      exact Dict.get?_insert_self _ _ _
    next =>
      have apart : Operation.mk "create" kind ≠ ⟨"create", other⟩ := by simpa using same
      exact (Dict.get?_insert_of_ne _ _ apart).trans (known.resolve_left same)
  refine List.foldlRecOn otherActions (motive := (Creates · kind)) _ first
    fun registry kept action member => ?_
  have apart : Operation.mk "create" kind ≠ ⟨action, other⟩ := by
    simpa using fun same => absurd same.symm (others action member)
  exact (Dict.get?_insert_of_ne _ _ apart).trans kept

theorem new_creates {kind : String} (member : kind ∈ kinds) : Creates new kind := by
  have registered (list : List String) (registry : DryRun)
      (known : kind ∈ list ∨ Creates registry kind) :
      Creates (list.foldl registerKind registry) kind := by
    induction list generalizing registry with
    | nil => exact known.resolve_left List.not_mem_nil
    | cons first rest ih =>
      refine ih _ ?_
      rcases known with among | creates
      · rcases List.mem_cons.mp among with same | later
        · exact .inr (registerKind_creates registry first (.inl same))
        · exact .inl later
      · exact .inr (registerKind_creates registry first (.inr creates))
  exact registered kinds (Registry.empty ∅) (.inl member)

theorem call_create {registry : DryRun} {kind : String} (creates : Creates registry kind)
    (parameters : Parameters) :
    (Registry.backend.call ⟨"create", kind⟩ parameters registry).1 =
      ⟨.ok (.text (identifier kind (count registry.state kind + 1))), false⟩ := by
  have found : registry.handlers.get? ⟨"create", kind⟩ = some (create kind) := creates
  simp only [Backend.call, Registry.backend, Registry.lookup, found]
  rfl

inductive Answered (operation : Operation) (parameters : Parameters) (counters : Counters) :
    Except BackendError Value → Counters → Prop where
  | created (creates : operation.action = "create") :
      Answered operation parameters counters
        (.ok (.text (identifier operation.kind (count counters operation.kind + 1))))
        (counters.insert operation.kind (count counters operation.kind + 1))
  | echoed (value : Value) (other : operation.action ≠ "create")
      (given : parameters.get? "id" = some value) :
      Answered operation parameters counters (.ok value) counters
  | failed (failure : BackendError) :
      Answered operation parameters counters (.error failure) counters

theorem call_answered {registry : DryRun} (stocked : Stocked registry) (operation : Operation)
    (parameters : Parameters) :
    let called := Registry.backend.call operation parameters registry
    called.2.handlers = registry.handlers ∧
      Answered operation parameters registry.state called.1.result called.2.state := by
  simp only [Backend.call, Registry.backend, Registry.lookup]
  cases found : registry.handlers.get? operation with
  | none => exact ⟨rfl, .failed _⟩
  | some handler =>
    cases stocked operation handler found with
    | creation creates => exact ⟨rfl, .created creates⟩
    | refusal message => exact ⟨rfl, .failed _⟩
    | echo other =>
      refine ⟨rfl, ?_⟩
      simp only [Registry.traced, answerId, Parameters.require]
      cases given : parameters.get? "id" with
      | none => exact .failed _
      | some value => exact .echoed value other given

-- What trying a statement comes to. A failure counts nothing, wherever it happens: a creation that
-- has been counted can no longer fail.
inductive Tried (index : Nat) (statement : Statement) (bindings : Bindings) (counters : Counters) :
    Except RuntimeError (Executed × Bindings) → Counters → Prop where
  | failed (cause : RuntimeError) : Tried index statement bindings counters (.error cause) counters
  | ran (parameters : Parameters) (value : Value) (more : Bindings) (later : Counters)
      (prepared : statement.prepare bindings = .ok parameters)
      (concrete : value.isReference = false)
      (answered : Answered statement.operation parameters counters (.ok value) later) :
      Tried index statement bindings counters (.ok (statement.record index value, more)) later

theorem Tried.counters_of_error {index : Nat} {statement : Statement} {bindings : Bindings}
    {counters later : Counters} {cause : RuntimeError}
    (tried : Tried index statement bindings counters (.error cause) later) : later = counters := by
  cases tried
  rfl

theorem Tried.concrete {index : Nat} {statement : Statement} {bindings more : Bindings}
    {counters later : Counters} {record : Executed}
    (tried : Tried index statement bindings counters (.ok (record, more)) later) :
    record.result.isReference = false := by
  cases tried
  assumption

theorem attempt_tried {registry : DryRun} (stocked : Stocked registry) (index : Nat)
    (statement : Statement) (bindings : Bindings) :
    let attempt := statement.attempt Registry.backend index bindings registry
    attempt.state.handlers = registry.handlers ∧
      Tried index statement bindings registry.state attempt.outcome attempt.state.state := by
  cases prepared : statement.prepare bindings with
  | error cause =>
    simp only [Statement.attempt, prepared]
    exact ⟨trivial, .failed cause⟩
  | ok parameters =>
    obtain ⟨handlers, answered⟩ := call_answered stocked statement.operation parameters
    simp only [Statement.attempt_of_prepared _ index registry prepared]
    refine ⟨handlers, ?_⟩
    generalize (Registry.backend.call statement.operation parameters registry).2.state = later
      at answered ⊢
    generalize (Registry.backend.call statement.operation parameters registry).1.result = result
      at answered ⊢
    have concluded (value : Value) (concrete : value.isReference = false)
        (answered : Answered statement.operation parameters registry.state (.ok value) later) :
        Tried index statement bindings registry.state
          (statement.conclude index bindings (.ok value)) later := by
      obtain ⟨more, done, -⟩ := Statement.conclude_concrete index prepared concrete
      rw [done]
      exact .ran parameters value more later prepared concrete answered
    cases answered with
    | created creates => exact concluded _ rfl (.created creates)
    | failed failure => exact .failed _
    | echoed value other given =>
      cases concrete : value.isReference with
      | false => exact concluded value concrete (.echoed value other given)
      | true =>
        cases value with
        | reference name => exact .failed _
        | text _ | number _ | flag _ => simp [Value.isReference] at concrete

def Numbered (records : List Executed) (counters : Counters) : Prop :=
  ∀ kind, (Executed.creations kind records).map Executed.result =
    (List.range (count counters kind)).map fun number => .text (identifier kind (number + 1))

theorem numbered_of_created {records : List Executed} {counters : Counters} {record : Executed}
    (numbered : Numbered records counters) (creates : record.action = "create")
    (result : record.result = .text (identifier record.kind (count counters record.kind + 1))) :
    Numbered (records ++ [record])
      (counters.insert record.kind (count counters record.kind + 1)) := by
  intro kind
  have before := numbered kind
  simp only [Executed.creations, count] at before ⊢
  rw [List.filter_append, List.map_append, before]
  by_cases same : kind = record.kind
  next =>
    subst same
    rw [Dict.get?_insert_self, Option.getD_some, List.range_succ, List.map_append]
    simp [creates, result, count]
  next =>
    rw [Dict.get?_insert_of_ne _ _ same]
    simp [Ne.symm same]

theorem numbered_of_other {records : List Executed} {counters : Counters} {record : Executed}
    (numbered : Numbered records counters) (other : record.action ≠ "create") :
    Numbered (records ++ [record]) counters := by
  intro kind
  rw [← numbered kind]
  simp [Executed.creations, other]

theorem Tried.numbered {records : List Executed} {counters later : Counters} {index : Nat}
    {statement : Statement} {bindings more : Bindings} {record : Executed}
    (tried : Tried index statement bindings counters (.ok (record, more)) later)
    (numbered : Numbered records counters) : Numbered (records ++ [record]) later := by
  cases tried with
  | ran parameters value more later prepared concrete answered =>
    cases answered with
    | created creates => exact numbered_of_created numbered creates rfl
    | echoed value other given => exact numbered_of_other numbered other

def Echoes (script : Script) (executed : List Executed) : Prop :=
  ∀ (index : Nat) (record : Executed), executed[index]? = some record → record.action ≠ "create" →
    ∃ statement argument, script.statements[index]? = some statement ∧
      statement.call.arguments.get? "id" = some argument ∧
      argument.Passed (executed.take index) record.result

theorem argument_of_prepared {statement : Statement} {bindings : Bindings}
    {executed : List Executed} {parameters : Parameters} {parameter : String} {value : Value}
    (declared : Declared executed) (bound : bindings.entries = executed.filterMap Executed.binding?)
    (prepared : statement.prepare bindings = .ok parameters)
    (given : parameters.get? parameter = some value) :
    ∃ argument, statement.call.arguments.get? parameter = some argument ∧
      argument.Passed executed value := by
  have mapped := Dict.entries_tryMap (Statement.tryMap_of_prepare prepared)
  obtain ⟨argument, member, resolved⟩ := Dict.mem_tryEach mapped (Dict.mem_entries_iff.mpr given)
  exact ⟨argument, Dict.mem_entries_iff.mp member,
    (Argument.passed_of_resolve declared bound resolved).1⟩

theorem Tried.echoes {executed : List Executed} {counters later : Counters} {index : Nat}
    {statement : Statement} {bindings more : Bindings} {record : Executed}
    (tried : Tried index statement bindings counters (.ok (record, more)) later)
    (declared : Declared executed)
    (bound : bindings.entries = executed.filterMap Executed.binding?)
    (other : record.action ≠ "create") :
    ∃ argument, statement.call.arguments.get? "id" = some argument ∧
      argument.Passed executed record.result := by
  cases tried with
  | ran parameters value more later prepared concrete answered =>
    cases answered with
    | created creates => exact absurd creates other
    | echoed value other given => exact argument_of_prepared declared bound prepared given

theorem echoes_append {script : Script} {executed : List Executed} {record : Executed}
    (echoes : Echoes script executed)
    (last : record.action ≠ "create" → ∃ statement argument,
      script.statements[executed.length]? = some statement ∧
      statement.call.arguments.get? "id" = some argument ∧
      argument.Passed executed record.result) : Echoes script (executed ++ [record]) := by
  refine forall_getElem?_concat.mpr ⟨fun index found member => ?_, ?_⟩
  next =>
    have old : index < executed.length := (List.getElem?_eq_some_iff.mp member).1
    rw [List.take_append_of_le_length (Nat.le_of_lt old)]
    exact echoes index found member
  next => rwa [List.take_left]

structure Tallied (script : Script) (past : List Executed) (execution : Execution DryRun) :
    Prop where
  consistent : execution.Consistent script
  stocked : Stocked execution.state
  numbered : Numbered (past ++ execution.executed) execution.state.state
  concrete : ∀ record ∈ execution.executed, record.result.isReference = false
  echoes : Echoes script execution.executed

section Runs

open Execution

variable {script : Script} {past : List Executed}

theorem start_tallied {registry : DryRun} (stocked : Stocked registry)
    (numbered : Numbered past registry.state) (script : Script) (cancelled? : Option Bool) :
    Tallied script past (start registry cancelled?) where
  consistent := start_consistent registry cancelled?
  stocked := stocked
  numbered := by simpa [start] using numbered
  concrete := by simp [start]
  echoes := by simp [Echoes, start]

theorem step_tallied {execution : Execution DryRun} (tallied : Tallied script past execution) :
    Tallied script past (execution.step Registry.backend script).2 := by
  have consistent := step_consistent Registry.backend tallied.consistent
  have stepped := step_stepped Registry.backend script execution
  generalize execution.step Registry.backend script = result at stepped consistent
  cases stepped with
  | ended finished => exact tallied
  | exhausted index next beyond =>
    exact ⟨consistent, tallied.stocked, tallied.numbered, tallied.concrete, tallied.echoes⟩
  | cancelled index statement next here stopped =>
    exact ⟨consistent, tallied.stocked, tallied.numbered, tallied.concrete, tallied.echoes⟩
  | failed index statement attempt cause next here allowed attempted outcome =>
    subst attempted
    obtain ⟨handlers, tried⟩ := attempt_tried tallied.stocked index statement execution.bindings
    rw [outcome] at tried
    refine ⟨consistent, tallied.stocked.of_handlers handlers, ?_, tallied.concrete, tallied.echoes⟩
    exact tried.counters_of_error.symm ▸ tallied.numbered
  | ran index statement attempt record bindings next here allowed attempted outcome =>
    obtain rfl := tallied.consistent.next_eq next
    subst attempted
    obtain ⟨handlers, tried⟩ :=
      attempt_tried tallied.stocked execution.executed.length statement execution.bindings
    rw [outcome] at tried
    have concrete : ∀ earlier ∈ execution.executed ++ [record],
        earlier.result.isReference = false := by
      intro earlier member
      rcases List.mem_append.mp member with old | last
      · exact tallied.concrete earlier old
      · exact List.mem_singleton.mp last ▸ tried.concrete
    have numbered := tried.numbered tallied.numbered
    rw [List.append_assoc] at numbered
    refine ⟨consistent, tallied.stocked.of_handlers handlers, numbered, concrete, ?_⟩
    refine echoes_append tallied.echoes fun other => ?_
    obtain ⟨argument, passes, passed⟩ := tried.echoes
      (tallied.consistent.declared tallied.concrete) tallied.consistent.bound other
    exact ⟨statement, argument, here, passes, passed⟩

theorem run_tallied {execution : Execution DryRun} (tallied : Tallied script past execution) :
    Tallied script past (run Registry.backend script execution).final :=
  drive_keep (fun _ => step_tallied) _ tallied

theorem performs_tallied {execution : Execution DryRun} (tallied : Tallied script past execution)
    (actions : List Action) :
    Tallied script past (performs Registry.backend script execution actions) := by
  refine performs_keep (fun execution action tallied => ?_) actions tallied
  cases action with
  | step => exact step_tallied tallied
  | cancel =>
    exact ⟨cancel_consistent tallied.consistent, tallied.stocked, tallied.numbered,
      tallied.concrete, tallied.echoes⟩

theorem counters_of_step_error {execution : Execution DryRun}
    (tallied : Tallied script past execution) {error : RunError}
    (failed : (execution.step Registry.backend script).1 = .error error) :
    (execution.step Registry.backend script).2.state.state = execution.state.state := by
  have stepped := step_stepped Registry.backend script execution
  generalize execution.step Registry.backend script = result at stepped failed
  cases stepped with
  | ended finished => rfl
  | exhausted index next beyond => rfl
  | cancelled index statement next here stopped => rfl
  | failed index statement attempt cause next here allowed attempted outcome =>
    subst attempted
    obtain ⟨-, tried⟩ := attempt_tried tallied.stocked index statement execution.bindings
    rw [outcome] at tried
    exact tried.counters_of_error
  | ran index statement attempt record bindings next here allowed attempted outcome =>
    simp at failed

end Runs

inductive Act where
  | failOn (action kind message : String)
  | install (sink : Sink)
  | run (script : Script) (cancelled? : Option Bool)

structure Session where
  registry : DryRun
  runs : List (Script × Execution.Report DryRun)

namespace Session

def start : Session := ⟨new, []⟩

def records (session : Session) : List Executed :=
  session.runs.flatMap fun run => run.2.final.executed

def perform (session : Session) : Act → Session
  | .failOn action kind message =>
    { session with registry := failOn session.registry action kind message }
  | .install sink => { session with registry := session.registry.install sink }
  | .run script cancelled? =>
    let report := Execution.run Registry.backend script (.start session.registry cancelled?)
    ⟨report.final.state, session.runs ++ [(script, report)]⟩

def after (acts : List Act) : Session := acts.foldl perform start

structure Kept (session : Session) : Prop where
  stocked : Stocked session.registry
  numbered : Numbered session.records session.registry.state
  echoes : ∀ run ∈ session.runs, Echoes run.1 run.2.final.executed

theorem start_kept : Kept start where
  stocked := stocked_new
  numbered := by
    have unused : new.state = ∅ := by decide
    intro kind
    simp [start, unused, records, Executed.creations, count]
  echoes := by simp [start]

theorem perform_kept {session : Session} (kept : session.Kept) (act : Act) :
    (session.perform act).Kept := by
  cases act with
  | failOn action kind message =>
    exact ⟨stocked_register kept.stocked (.refusal message), kept.numbered, kept.echoes⟩
  | install sink => exact ⟨kept.stocked, kept.numbered, kept.echoes⟩
  | run script cancelled? =>
    have tallied := run_tallied (start_tallied kept.stocked kept.numbered script cancelled?)
    refine ⟨tallied.stocked, ?_, ?_⟩
    · simpa [perform, records] using tallied.numbered
    · intro run member
      rcases List.mem_append.mp member with old | last
      · exact kept.echoes run old
      · exact List.mem_singleton.mp last ▸ tallied.echoes

theorem after_kept (acts : List Act) : (after acts).Kept :=
  List.foldlRecOn acts _ start_kept fun _ kept act _ => perform_kept kept act

end Session

theorem dash_not_mem_repr (number : Nat) : '-' ∉ number.repr.toList := by
  intro member
  rw [Nat.toList_repr] at member
  simpa using Nat.isDigit_of_mem_toDigits (by decide) (by decide) member

theorem identifier_inj {kind kind' : String} {number number' : Nat} :
    identifier kind number = identifier kind' number' ↔ kind = kind' ∧ number = number' := by
  refine ⟨fun same => ?_, by rintro ⟨rfl, rfl⟩; rfl⟩
  have spelled (kind : String) (number : Nat) : (identifier kind number).toList.reverse =
      number.repr.toList.reverse ++ '-' :: kind.toList.reverse := by
    simp [identifier, Nat.toString_eq_repr]
  have ends (number : Nat) (rest : List Char) :
      (number.repr.toList.reverse ++ '-' :: rest).takeWhile (· ≠ '-') =
        number.repr.toList.reverse := by
    have digits : ∀ c ∈ number.repr.toList.reverse, decide (c ≠ '-') = true := by
      intro c member
      rw [decide_eq_true_iff]
      rintro rfl
      exact dash_not_mem_repr number (List.mem_reverse.mp member)
    rw [List.takeWhile_append_of_pos digits]
    simp
  have backwards := congrArg (fun text => text.toList.reverse) same
  simp only [spelled] at backwards
  have numbers := congrArg (List.takeWhile (· ≠ '-')) backwards
  rw [ends, ends] at numbers
  rw [numbers] at backwards
  have kinds := List.append_cancel_left backwards
  rw [List.cons_inj_right, List.reverse_inj, String.toList_inj] at kinds
  rw [List.reverse_inj, Nat.toList_repr, Nat.toList_repr] at numbers
  have read := congrArg (Nat.ofDigitChars 10 · 0) numbers
  rw [Nat.ofDigitChars_toDigits (by decide) (by decide),
    Nat.ofDigitChars_toDigits (by decide) (by decide)] at read
  exact ⟨kinds, read⟩

theorem nodup_of_groups {α β γ : Type} [DecidableEq γ] {value : α → β} {group : α → γ}
    {list : List α}
    (within : ∀ element, ((list.filter fun other => group other = element).map value).Nodup)
    (between : ∀ first ∈ list, ∀ second ∈ list, value first = value second →
      group first = group second) : (list.map value).Nodup := by
  induction list with
  | nil => exact List.nodup_nil
  | cons head rest ih =>
    rw [List.map_cons, List.nodup_cons]
    constructor
    next =>
      intro again
      obtain ⟨other, member, same⟩ := List.mem_map.mp again
      have grouped := between other (List.mem_cons_of_mem _ member) head List.mem_cons_self same
      have group := within (group head)
      rw [List.filter_cons_of_pos (by simp), List.map_cons, List.nodup_cons] at group
      exact group.1 (List.mem_map.mpr ⟨other, by simp [member, grouped], same⟩)
    next =>
      refine ih (fun element => (within element).sublist ?_) ?_
      · exact ((List.sublist_cons_self head rest).filter _).map value
      · intro first inside second inside' same
        exact between first (List.mem_cons_of_mem _ inside) second (List.mem_cons_of_mem _ inside')
          same

section Numbers

variable {records : List Executed} {counters : Counters}

theorem Numbered.result (numbered : Numbered records counters) {kind : String} {number : Nat}
    {record : Executed} (here : (Executed.creations kind records)[number]? = some record) :
    record.result = .text (identifier kind (number + 1)) := by
  have counted := congrArg (·[number]?) (numbered kind)
  simp only [List.getElem?_map, here, Option.map_some] at counted
  obtain ⟨position, place, same⟩ := Option.map_eq_some_iff.mp counted.symm
  obtain ⟨within, equal⟩ := List.getElem?_eq_some_iff.mp place
  rw [List.getElem_range] at equal
  rw [← same, equal]

theorem Numbered.result_of_create (numbered : Numbered records counters) {record : Executed}
    (member : record ∈ records) (creates : record.action = "create") :
    ∃ number, record.result = .text (identifier record.kind number) := by
  have inside : record ∈ Executed.creations record.kind records := by
    simp [Executed.creations, member, creates]
  obtain ⟨number, here⟩ := List.mem_iff_getElem?.mp inside
  exact ⟨number + 1, numbered.result here⟩

theorem Numbered.distinct (numbered : Numbered records counters) :
    ((records.filter (·.action = "create")).map Executed.result).Nodup := by
  have grouped (kind : String) :
      (records.filter (·.action = "create")).filter (·.kind = kind) =
        Executed.creations kind records := by
    simp [Executed.creations, List.filter_filter, Bool.and_comm]
  have within (kind : String) : (((records.filter (·.action = "create")).filter
      fun record => record.kind = kind).map Executed.result).Nodup := by
    rw [grouped, numbered kind]
    refine List.Nodup.map (fun first second same => ?_) List.nodup_range
    have numbers := (identifier_inj.mp (Value.text.inj same)).2
    omega
  have identified : ∀ record ∈ records.filter (·.action = "create"), ∃ number,
      record.result = .text (identifier record.kind number) := by
    intro record member
    obtain ⟨inside, creates⟩ := List.mem_filter.mp member
    exact numbered.result_of_create inside (by simpa using creates)
  refine nodup_of_groups within fun first inside second inside' same => ?_
  obtain ⟨number, result⟩ := identified first inside
  obtain ⟨number', result'⟩ := identified second inside'
  rw [result, result'] at same
  exact (identifier_inj.mp (Value.text.inj same)).1

end Numbers

structure Session.Accounted (session : Session) : Prop where
  created : ∀ kind, created session.registry kind =
    (Executed.creations kind session.records).length
  numbered : ∀ (kind : String) (number : Nat) (record : Executed),
    (Executed.creations kind session.records)[number]? = some record →
    record.result = .text (kind ++ "-" ++ toString (number + 1))
  distinct : ((session.records.filter (·.action = "create")).map Executed.result).Nodup
  echoes : ∀ run ∈ session.runs, Echoes run.1 run.2.final.executed
  uncounted : ∀ script cancelled? actions error,
    let execution := Execution.performs Registry.backend script
      (.start session.registry cancelled?) actions
    (execution.step Registry.backend script).1 = .error error →
    (execution.step Registry.backend script).2.state.state = execution.state.state

/-- However scripts are run against a dry run and operations are made to fail in between, the
counter of a kind is the number of its creations that have been executed, which got the identifiers
of the kind one after the other; no identifier is handed out twice; every other action has answered
with the identifier that its statement passed; and a statement that fails counts nothing. -/
theorem session_accounted (acts : List Act) : (Session.after acts).Accounted := by
  have kept := Session.after_kept acts
  refine ⟨fun kind => ?created, fun kind number record => kept.numbered.result,
    kept.numbered.distinct, kept.echoes, ?uncounted⟩
  case created =>
    have length := congrArg List.length (kept.numbered kind)
    rw [List.length_map, List.length_map, List.length_range] at length
    exact length.symm
  case uncounted =>
    intro script cancelled? actions error execution
    have tallied := start_tallied kept.stocked kept.numbered script cancelled?
    exact counters_of_step_error (performs_tallied tallied actions)

end DryRun

end Runbook
