import Runbook.Proofs.Dict
import Runbook.Proofs.Execution.Scoping

set_option autoImplicit false

namespace Runbook

variable {σ : Type}

structure Course (σ : Type) where
  symbols : List (String × Value)
  executed : List Executed
  state : σ
  cancelled? : Option Bool

def Argument.denote? (symbols : List (String × Value)) : Argument → Option Value
  | .hole _ => none
  | .given (.reference name) => symbols.lookup name
  | .given value => some value

namespace Statement

def refusal? (statement : Statement) (course : Course σ) : Option RuntimeError :=
  if course.cancelled? = some true then some .cancelled
  else statement.scopeFault? (course.symbols.map Prod.fst)

def settle (position : Nat) (statement : Statement) (course : Course σ) :
    Except BackendError Value → Option RuntimeError × Course σ
  | .error failure => (some (.ofBackend failure), course)
  | .ok (.reference name) => (some (.execution (referenceResult name)), course)
  | .ok value =>
    (none, { course with
      symbols := course.symbols ++ (statement.name?.map (·, value)).toList
      executed := course.executed ++ [statement.record position value] })

def invoke (backend : Backend σ) (statement : Statement) (course : Course σ) :
    Except BackendError Value × Course σ :=
  let parameters := statement.call.arguments.map fun argument =>
    (argument.denote? course.symbols).getD default
  let (handler, found) := backend.lookup statement.call.action statement.call.kind course.state
  let (reply, called) := handler parameters found
  (reply.result,
    { course with
      state := called
      cancelled? := course.cancelled?.map (· || reply.cancels) })

def visit (backend : Backend σ) (position : Nat) (statement : Statement) (course : Course σ) :
    Option RuntimeError × Course σ :=
  match statement.refusal? course with
  | some cause => (some cause, course)
  | none =>
    let (result, later) := statement.invoke backend course
    statement.settle position later result

end Statement

def walk (backend : Backend σ) (file : Nat) :
    (position : Nat) → List Statement → Course σ → Option RunError × Course σ
  | _, [], course => (none, course)
  | position, statement :: rest, course =>
    match statement.visit backend position course with
    | (some cause, later) =>
      (some ⟨cause, some (.of position statement), some statement.span, file⟩, later)
    | (none, later) => walk backend file (position + 1) rest later

theorem walk_append (backend : Backend σ) (file position : Nat) (first second : List Statement)
    (course : Course σ) :
    walk backend file position (first ++ second) course =
      match walk backend file position first course with
      | (some error, later) => (some error, later)
      | (none, later) => walk backend file (position + first.length) second later := by
  induction first generalizing position course with
  | nil => rfl
  | cons statement rest ih =>
    simp only [List.cons_append, walk, List.length_cons]
    split
    next => rfl
    next later visited =>
      rw [ih]
      simp only [Nat.add_assoc, Nat.add_comm 1]

def Executed.shift (offset : Nat) (record : Executed) : Executed :=
  { record with index := offset + record.index }

def RunError.shift (offset : Nat) (error : RunError) : RunError :=
  { error with
    place? := error.place?.map fun place => { place with index := offset + place.index } }

def Course.behind (offset : Nat) (earlier : List Executed) (course : Course σ) : Course σ :=
  { course with executed := earlier ++ course.executed.map (·.shift offset) }

namespace Statement

theorem settle_concrete {position : Nat} {statement : Statement} {course : Course σ} {value : Value}
    (concrete : value.isReference = false) :
    statement.settle position course (.ok value) =
      (none, { course with
        symbols := course.symbols ++ (statement.name?.map (·, value)).toList
        executed := course.executed ++ [statement.record position value] }) := by
  cases value with
  | reference name => simp [Value.isReference] at concrete
  | text _ | number _ | flag _ => rfl

theorem settle_behind (offset position : Nat) (earlier : List Executed) (statement : Statement)
    (course : Course σ) (result : Except BackendError Value) :
    statement.settle (offset + position) (course.behind offset earlier) result =
      ((statement.settle position course result).1,
        (statement.settle position course result).2.behind offset earlier) := by
  match result with
  | .error _ | .ok (.reference _) => rfl
  | .ok (.text _) | .ok (.number _) | .ok (.flag _) =>
    simp [settle, Course.behind, record, Executed.shift]

theorem visit_behind (backend : Backend σ) (offset position : Nat) (earlier : List Executed)
    (statement : Statement) (course : Course σ) :
    statement.visit backend (offset + position) (course.behind offset earlier) =
      ((statement.visit backend position course).1,
        (statement.visit backend position course).2.behind offset earlier) := by
  have refused :
      statement.refusal? (course.behind offset earlier) = statement.refusal? course := rfl
  have invoked : statement.invoke backend (course.behind offset earlier) =
      ((statement.invoke backend course).1,
        (statement.invoke backend course).2.behind offset earlier) := rfl
  unfold visit
  rw [refused, invoked]
  cases statement.refusal? course with
  | some cause => rfl
  | none => exact settle_behind offset position earlier statement _ _

end Statement

theorem walk_behind (backend : Backend σ) (file offset position : Nat) (earlier : List Executed)
    (statements : List Statement) (course : Course σ) :
    walk backend file (offset + position) statements (course.behind offset earlier) =
      ((walk backend file position statements course).1.map (·.shift offset),
        (walk backend file position statements course).2.behind offset earlier) := by
  induction statements generalizing position course with
  | nil => rfl
  | cons statement rest ih =>
    simp only [walk, Statement.visit_behind]
    rcases statement.visit backend position course with ⟨cause | _, later⟩
    · exact ih (position + 1) later
    · rfl

namespace Statement

theorem denote?_of_resolve {bindings : Bindings} {parameter : String} {argument : Argument}
    {value : Value} (resolved : argument.resolve bindings parameter = .ok value) :
    value = (argument.denote? bindings.entries).getD default := by
  match argument with
  | .hole key => simp [Argument.resolve] at resolved
  | .given (.reference name) =>
    simp only [Argument.resolve] at resolved
    split at resolved
    next result found =>
      obtain rfl : result = value := by simpa using resolved
      rw [Argument.denote?, ← Bindings.get?, found]
      rfl
    next => simp at resolved
  | .given (.text _) | .given (.number _) | .given (.flag _) =>
    simpa [Argument.resolve, Argument.denote?, eq_comm] using resolved

theorem parameters_of_prepare {statement : Statement} {bindings : Bindings}
    {parameters : Parameters} (prepared : statement.prepare bindings = .ok parameters) :
    parameters = statement.call.arguments.map fun argument =>
      (argument.denote? bindings.entries).getD default :=
  Dict.ext (Dict.tryEach_eq_map (Dict.entries_tryMap (tryMap_of_prepare prepared))
    fun _ _ _ => denote?_of_resolve)

theorem conclude_concrete {statement : Statement} {bindings : Bindings} {parameters : Parameters}
    {value : Value} (index : Nat) (prepared : statement.prepare bindings = .ok parameters)
    (concrete : value.isReference = false) :
    ∃ more, statement.conclude index bindings (.ok value) =
        .ok (statement.record index value, more) ∧
      more.entries = bindings.entries ++ (statement.name?.map (·, value)).toList := by
  unfold conclude
  split
  next failing => simp at failing
  next name same => simp_all [Value.isReference]
  next value' _ same =>
    obtain rfl : value = value' := by simpa using same
    cases named : statement.name? with
    | none => exact ⟨bindings, rfl, by simp⟩
    | some name =>
      have free : bindings.bind? name value ≠ none :=
        mt Bindings.bind?_eq_none_iff.mp (unbound_of_prepared prepared named)
      obtain ⟨more, bound⟩ := Option.ne_none_iff_exists'.mp free
      exact ⟨more, by simp [bound], Bindings.entries_of_bind? bound⟩

end Statement

namespace Execution

variable {backend : Backend σ} {script : Script}

def course (execution : Execution σ) : Course σ :=
  ⟨execution.bindings.entries, execution.executed, execution.state, execution.cancelled?⟩

def Report.outcome (report : Report σ) : Option RunError × Course σ :=
  (report.error?, report.final.course)

theorem stepAt_of_refused {execution : Execution σ} {statement : Statement} {cause : RuntimeError}
    (index : Nat) (refused : statement.refusal? execution.course = some cause) :
    stepAt backend script execution index statement =
      (.error (errorAt script index statement cause), { execution with phase := .aborted }) := by
  unfold Statement.refusal? at refused
  split at refused
  next stopped =>
    have stopped' : execution.cancelled? = some true := stopped
    obtain rfl : RuntimeError.cancelled = cause := by simpa using refused
    rw [stepAt, if_pos stopped']
  next allowed =>
    have allowed' : ¬ execution.cancelled? = some true := allowed
    have prepared : statement.prepare execution.bindings = .error cause :=
      Statement.prepare_eq_error_iff.mpr refused
    simp [stepAt, allowed', Statement.attempt, prepared]

theorem prepare_of_unrefused {execution : Execution σ} {statement : Statement}
    (unrefused : statement.refusal? execution.course = none) :
    execution.cancelled? ≠ some true ∧
      ∃ parameters, statement.prepare execution.bindings = .ok parameters := by
  unfold Statement.refusal? at unrefused
  split at unrefused
  next => simp at unrefused
  next allowed => exact ⟨allowed, Statement.scopeFault?_eq_none_iff.mp unrefused⟩

theorem attempt_eq_invoke (backend : Backend σ) {execution : Execution σ} {statement : Statement}
    {parameters : Parameters} (index : Nat)
    (prepared : statement.prepare execution.bindings = .ok parameters) :
    let attempt := statement.attempt backend index execution.bindings execution.state
    let invoked := statement.invoke backend execution.course
    attempt.outcome = statement.conclude index execution.bindings invoked.1 ∧
      invoked.2 = { execution.course with
        state := attempt.state
        cancelled? := execution.cancelled?.map (· || attempt.cancels) } := by
  obtain rfl := Statement.parameters_of_prepare prepared
  simp only [Statement.attempt, prepared]
  exact ⟨rfl, rfl⟩

structure Visited (script : Script) (index : Nat) (statement : Statement)
    (visited : Option RuntimeError × Course σ) (stepped : Except RunError Bool × Execution σ) :
    Prop where
  course : stepped.2.course = visited.2
  failed : ∀ cause, visited.1 = some cause →
    stepped.1 = .error (errorAt script index statement cause)
  ran : visited.1 = none → stepped.1 = .ok true ∧ stepped.2.phase = phaseAfter script index

theorem stepAt_visited (backend : Backend σ) (script : Script) (execution : Execution σ)
    (index : Nat) (statement : Statement) :
    Visited script index statement (statement.visit backend index execution.course)
      (stepAt backend script execution index statement) := by
  unfold Statement.visit
  cases refused : statement.refusal? execution.course with
  | some cause =>
    rw [stepAt_of_refused index refused]
    exact ⟨rfl, by simp, by simp⟩
  | none =>
    obtain ⟨allowed, parameters, prepared⟩ := prepare_of_unrefused refused
    obtain ⟨outcome, later⟩ := attempt_eq_invoke backend index prepared
    dsimp only
    rw [stepAt, if_neg allowed]
    dsimp only
    rw [outcome, later]
    cases (statement.invoke backend execution.course).1 with
    | error failure =>
      exact ⟨rfl, by simp [Statement.conclude, Statement.settle], by simp [Statement.settle]⟩
    | ok value =>
      cases concrete : value.isReference with
      | true =>
        obtain ⟨name, rfl⟩ : ∃ name, value = .reference name := by
          cases value <;> simp_all [Value.isReference]
        exact ⟨rfl, by simp [Statement.conclude, Statement.settle], by simp [Statement.settle]⟩
      | false =>
        obtain ⟨more, concluded, bound⟩ := Statement.conclude_concrete index prepared concrete
        rw [concluded, Statement.settle_concrete concrete]
        exact ⟨by simp [course, bound], by simp, by simp⟩

theorem drive_of_ended {execution : Execution σ} (finished : execution.next? = none)
    (steps : Nat) : drive backend script steps execution = ⟨none, execution⟩ := by
  cases steps with
  | zero => rfl
  | succ steps => simp only [drive, step_of_ended finished]

theorem next?_of_phaseAfter {execution : Execution σ} {index : Nat}
    (phase : execution.phase = phaseAfter script index) :
    execution.next? = if index + 1 = script.statements.length then none else some (index + 1) := by
  by_cases last : index + 1 = script.statements.length <;> simp [next?, phase, phaseAfter, last]

theorem drive_eq_walk (backend : Backend σ) {execution : Execution σ} {position steps : Nat}
    {statements : List Statement} (next : execution.next? = some position)
    (left : script.statements.drop position = statements) (enough : statements.length < steps) :
    (drive backend script steps execution).outcome =
      walk backend script.file position statements execution.course := by
  induction statements generalizing execution position steps with
  | nil =>
    obtain ⟨fewer, rfl⟩ : ∃ fewer, steps = fewer + 1 := ⟨steps - 1, by omega⟩
    have beyond : script.statements[position]? = none :=
      List.getElem?_eq_none (List.drop_eq_nil_iff.mp left)
    simp only [drive, step, next, beyond]
    rfl
  | cons statement rest ih =>
    obtain ⟨fewer, rfl⟩ : ∃ fewer, steps = fewer + 1 := ⟨steps - 1, by omega⟩
    have here : script.statements[position]? = some statement := by
      have head := congrArg List.head? left
      simpa [List.head?_drop] using head
    have remaining : script.statements.drop (position + 1) = rest := by
      rw [← List.tail_drop, left, List.tail_cons]
    have visited := stepAt_visited backend script execution position statement
    rw [walk]
    simp only [drive, step, next, here]
    generalize stepAt backend script execution position statement = stepped at visited ⊢
    generalize statement.visit backend position execution.course = result at visited ⊢
    obtain ⟨answer, later⟩ := stepped
    obtain ⟨_ | cause, after⟩ := result
    next =>
      obtain ⟨rfl, phase⟩ := visited.ran rfl
      obtain rfl : later.course = after := visited.course
      have next' := next?_of_phaseAfter phase
      have length : script.statements.length = position + 1 + rest.length := by
        have inside := (List.getElem?_eq_some_iff.mp here).1
        have counted := congrArg List.length remaining
        rw [List.length_drop] at counted
        omega
      dsimp only
      cases rest with
      | nil =>
        rw [if_pos (by simpa using length.symm)] at next'
        rw [drive_of_ended next']
        rfl
      | cons second others =>
        rw [if_neg (by simp at length; omega)] at next'
        exact ih next' remaining (by simp at enough ⊢; omega)
    next =>
      obtain rfl := visited.failed cause rfl
      obtain rfl : later.course = after := visited.course
      rfl

theorem run_eq_walk_of_next (backend : Backend σ) {execution : Execution σ}
    (next : execution.next? = some 0) :
    (run backend script execution).outcome =
      walk backend script.file 0 script.statements execution.course :=
  drive_eq_walk backend next List.drop_zero (Nat.lt_succ_self _)

theorem drive_eq_of_enough {execution : Execution σ} {steps more : Nat}
    (consistent : execution.Consistent script)
    (enough : script.statements.length < execution.executed.length + steps)
    (enough' : script.statements.length < execution.executed.length + more) :
    drive backend script steps execution = drive backend script more execution := by
  induction steps generalizing execution more with
  | zero =>
    have := consistent.executed_le
    omega
  | succ steps ih =>
    have executed := consistent.executed_le
    obtain ⟨fewer, rfl⟩ : ∃ fewer, more = fewer + 1 := ⟨more - 1, by omega⟩
    unfold drive
    split
    next later ran =>
      have longer := length_of_ran ran
      exact ih (consistent.of_step ran) (by omega) (by omega)
    next => rfl
    next => rfl

theorem run_of_step {execution later : Execution σ} {ran : Bool}
    (consistent : execution.Consistent script)
    (step : execution.step backend script = (.ok ran, later)) :
    run backend script later = run backend script execution := by
  have unfolded : run backend script execution =
      if ran then drive backend script script.statements.length later else ⟨none, later⟩ := by
    rw [run, drive, step]
    cases ran <;> rfl
  rw [unfolded]
  cases ran with
  | true =>
    have longer := length_of_ran step
    exact drive_eq_of_enough (consistent.of_step step) (by omega) (by omega)
  | false =>
    have finished : later.next? = none := by
      rcases phase_of_nothing_left step with completed | ⟨aborted, rfl⟩
      · exact next?_eq_none_iff.mpr (.inl completed)
      · exact next?_eq_none_iff.mpr (.inr aborted)
    exact drive_of_ended finished _

theorem performs_append (backend : Backend σ) (script : Script) (execution : Execution σ)
    (actions more : List Action) :
    performs backend script execution (actions ++ more) =
      performs backend script (performs backend script execution actions) more := by
  induction actions generalizing execution with
  | nil => rfl
  | cons action rest ih => exact ih (perform backend script execution action)

theorem run_of_steps {execution : Execution σ} (consistent : execution.Consistent script)
    (steps : Nat)
    (unfailed : ∀ earlier < steps, ∀ error,
      ((performs backend script execution (List.replicate earlier .step)).step backend script).1 ≠
        .error error) :
    run backend script (performs backend script execution (List.replicate steps .step)) =
      run backend script execution := by
  induction steps with
  | zero => rfl
  | succ steps ih =>
    have before := ih fun earlier within => unfailed earlier (Nat.lt_succ_of_lt within)
    have kept := performs_consistent backend consistent (List.replicate steps .step)
    rw [List.replicate_succ', performs_append, ← before]
    have last := unfailed steps (Nat.lt_succ_self _)
    generalize performs backend script execution (List.replicate steps .step) = middle
      at kept last ⊢
    cases answered : middle.step backend script with
    | mk answer later =>
      have reached : performs backend script middle [.step] = later := congrArg Prod.snd answered
      rw [reached]
      cases answer with
      | error error => exact absurd (congrArg Prod.fst answered) (last error)
      | ok ran => exact run_of_step kept answered

/-- A run comes to what the walk through its statements comes to. So a longer script does the same
up to where a shorter one aborts, or goes on from where the shorter one completes, and steps made
before a run change nothing about it. -/
theorem run_eq_walk (backend : Backend σ) (state : σ) (cancelled? : Option Bool) :
    (∀ script, (run backend script (start state cancelled?)).outcome =
      walk backend script.file 0 script.statements ⟨[], [], state, cancelled?⟩) ∧
    (∀ first second file,
      let front := run backend ⟨first, file⟩ (start state cancelled?)
      let whole := run backend ⟨first ++ second, file⟩ (start state cancelled?)
      match front.error? with
      | some _ => whole.outcome = front.outcome
      | none =>
        let apart := walk backend file 0 second { front.final.course with executed := [] }
        whole.outcome = walk backend file first.length second front.final.course ∧
          whole.outcome = (apart.1.map (·.shift first.length),
            apart.2.behind first.length front.final.executed)) ∧
    ∀ script steps,
      (∀ earlier < steps, ∀ error,
        ((performs backend script (start state cancelled?)
          (List.replicate earlier .step)).step backend script).1 ≠ .error error) →
      run backend script (performs backend script (start state cancelled?)
          (List.replicate steps .step)) =
        run backend script (start state cancelled?) := by
  have walks (script : Script) : (run backend script (start state cancelled?)).outcome =
      walk backend script.file 0 script.statements ⟨[], [], state, cancelled?⟩ :=
    run_eq_walk_of_next backend rfl
  refine ⟨walks, ?_, fun script steps => run_of_steps (start_consistent state cancelled?) steps⟩
  intro first second file front whole
  have whole_eq : whole.outcome = _ := walks ⟨first ++ second, file⟩
  have front_eq : front.outcome = _ := walks ⟨first, file⟩
  rw [walk_append, ← front_eq] at whole_eq
  cases failed : front.error? with
  | some error =>
    simp only [Report.outcome, failed] at whole_eq ⊢
    exact whole_eq
  | none =>
    simp only [Report.outcome, failed, Nat.zero_add] at whole_eq ⊢
    refine ⟨whole_eq, ?_⟩
    have resumed : Course.behind first.length front.final.executed
        { front.final.course with executed := [] } = front.final.course := by
      simp [Course.behind, course]
    rw [whole_eq, ← walk_behind, resumed, Nat.add_zero]

theorem run_eq_walk_redeclaring :
    (∀ earlier < 1, ∀ error,
      ((performs granting redeclaring (start () none)
        (List.replicate earlier .step)).step granting redeclaring).1 ≠ .error error) ∧
    run granting redeclaring (performs granting redeclaring (start () none)
        (List.replicate 1 .step)) =
      run granting redeclaring (start () none) := by
  have unfailed : ∀ earlier < 1, ∀ error,
      ((performs granting redeclaring (start () none)
        (List.replicate earlier .step)).step granting redeclaring).1 ≠ .error error := by
    intro earlier within error
    obtain rfl : earlier = 0 := by omega
    have ran : ((start () none).step granting redeclaring).1 = .ok true := rfl
    change ((start () none).step granting redeclaring).1 ≠ .error error
    simp [ran]
  exact ⟨unfailed, (run_eq_walk granting () none).2.2 redeclaring 1 unfailed⟩

end Execution

end Runbook
