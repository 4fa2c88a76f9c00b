import Runbook.Proofs.Execution.Walk
import Mathlib.Data.Set.Function

set_option autoImplicit false

namespace Runbook

variable {σ : Type}

def Value.rename (r : String → String) : Value → Value
  | .reference name => .reference (r name)
  | value => value

def Argument.rename (r : String → String) : Argument → Argument
  | .given value => .given (value.rename r)
  | .hole key => .hole key

def Argument.identifier? : Argument → Option String
  | .given (.reference name) => some name
  | _ => none

namespace Statement

def rename (r : String → String) (statement : Statement) : Statement :=
  { statement with
    name? := statement.name?.map r
    call := { statement.call with arguments := statement.call.arguments.map (·.rename r) } }

def identifiers (statement : Statement) : List String :=
  statement.name?.toList ++
    statement.call.arguments.entries.filterMap fun entry => entry.2.identifier?

end Statement

namespace Script

def rename (r : String → String) (script : Script) : Script :=
  { script with statements := script.statements.map (·.rename r) }

def identifiers (script : Script) : List String := script.statements.flatMap Statement.identifiers

end Script

def RuntimeError.rename (r : String → String) : RuntimeError → RuntimeError
  | .unknownReference name => .unknownReference (r name)
  | .alreadyBound name => .alreadyBound (r name)
  | cause => cause

def Place.rename (r : String → String) (place : Place) : Place :=
  { place with name? := place.name?.map r }

def RunError.rename (r : String → String) (error : RunError) : RunError :=
  { error with cause := error.cause.rename r, place? := error.place?.map (·.rename r) }

def Executed.rename (r : String → String) (record : Executed) : Executed :=
  { record with name? := record.name?.map r }

def renameSymbols (r : String → String) (symbols : List (String × Value)) : List (String × Value) :=
  symbols.map fun entry => (r entry.1, entry.2)

def Course.rename (r : String → String) (course : Course σ) : Course σ :=
  { course with
    symbols := renameSymbols r course.symbols
    executed := course.executed.map (·.rename r) }

@[simp] theorem names_renameSymbols (r : String → String) (symbols : List (String × Value)) :
    (renameSymbols r symbols).map Prod.fst = (symbols.map Prod.fst).map r := by
  simp [renameSymbols]

section Injective

variable {r : String → String} {known : Set String}

theorem mem_map_iff_of_injOn (injective : Set.InjOn r known) {names : List String}
    (names_known : ∀ name ∈ names, name ∈ known) {name : String} (name_known : name ∈ known) :
    r name ∈ names.map r ↔ name ∈ names := by
  constructor
  next =>
    intro member
    obtain ⟨other, inside, same⟩ := List.mem_map.mp member
    exact injective (names_known other inside) name_known same ▸ inside
  next => exact List.mem_map_of_mem

theorem lookup_renameSymbols (injective : Set.InjOn r known) {symbols : List (String × Value)}
    (symbols_known : ∀ name ∈ symbols.map Prod.fst, name ∈ known) {name : String}
    (name_known : name ∈ known) :
    (renameSymbols r symbols).lookup (r name) = symbols.lookup name := by
  induction symbols with
  | nil => rfl
  | cons entry rest ih =>
    obtain ⟨here, later⟩ := List.forall_mem_cons.mp symbols_known
    have compared : (r name == r entry.1) = (name == entry.1) := by
      rw [Bool.eq_iff_iff, beq_iff_eq, beq_iff_eq]
      exact injective.eq_iff name_known here
    have others : (rest.map fun entry => (r entry.1, entry.2)).lookup (r name) = rest.lookup name :=
      ih later
    rw [renameSymbols, List.map_cons, List.lookup_cons, compared, List.lookup_cons, others]

namespace Argument

theorem scopeFault?_rename (injective : Set.InjOn r known) {declared : List String}
    (declared_known : ∀ name ∈ declared, name ∈ known) (parameter : String) {argument : Argument}
    (argument_known : ∀ name, argument.identifier? = some name → name ∈ known) :
    (argument.rename r).scopeFault? (declared.map r) parameter =
      (argument.scopeFault? declared parameter).map (RuntimeError.rename r) := by
  match argument with
  | .hole key => rfl
  | .given (.reference name) =>
    have member := mem_map_iff_of_injOn injective declared_known (argument_known name rfl)
    by_cases bound : name ∈ declared
    next => simp only [rename, Value.rename, scopeFault?, if_pos bound, if_pos (member.mpr bound),
      Option.map_none]
    next => simp only [rename, Value.rename, scopeFault?, if_neg bound, if_neg (mt member.mp bound),
      Option.map_some, RuntimeError.rename]
  | .given (.text _) | .given (.number _) | .given (.flag _) => rfl

theorem denote?_rename (injective : Set.InjOn r known) {symbols : List (String × Value)}
    (symbols_known : ∀ name ∈ symbols.map Prod.fst, name ∈ known) {argument : Argument}
    (argument_known : ∀ name, argument.identifier? = some name → name ∈ known) :
    (argument.rename r).denote? (renameSymbols r symbols) = argument.denote? symbols := by
  match argument with
  | .hole key => rfl
  | .given (.reference name) =>
    exact lookup_renameSymbols injective symbols_known (argument_known name rfl)
  | .given (.text _) | .given (.number _) | .given (.flag _) => rfl

end Argument

namespace Statement

variable {statement : Statement} {course : Course σ}

theorem mem_identifiers_of_name {name : String} (named : statement.name? = some name) :
    name ∈ statement.identifiers := by
  simp [identifiers, named]

theorem mem_identifiers_of_argument {entry : String × Argument} {name : String}
    (member : entry ∈ statement.call.arguments.entries) (refers : entry.2.identifier? = some name) :
    name ∈ statement.identifiers :=
  List.mem_append_right _ (List.mem_filterMap.mpr ⟨entry, member, refers⟩)

theorem argumentFault?_rename (injective : Set.InjOn r known) {declared : List String}
    (declared_known : ∀ name ∈ declared, name ∈ known)
    (statement_known : ∀ name ∈ statement.identifiers, name ∈ known) :
    (statement.rename r).argumentFault? (declared.map r) =
      (statement.argumentFault? declared).map (RuntimeError.rename r) := by
  have arguments_known : ∀ entry ∈ statement.call.arguments.entries,
      ∀ name, entry.2.identifier? = some name → name ∈ known :=
    fun entry member name refers =>
      statement_known name (mem_identifiers_of_argument member refers)
  simp only [argumentFault?, rename, Dict.map]
  generalize statement.call.arguments.entries = entries at arguments_known
  induction entries with
  | nil => rfl
  | cons entry rest ih =>
    obtain ⟨here, later⟩ := List.forall_mem_cons.mp arguments_known
    have fault := Argument.scopeFault?_rename injective declared_known entry.1 here
    rw [List.map_cons, List.findSome?_cons, List.findSome?_cons, fault, ih later]
    cases entry.2.scopeFault? declared entry.1 <;> rfl

theorem scopeFault?_rename (injective : Set.InjOn r known) {declared : List String}
    (declared_known : ∀ name ∈ declared, name ∈ known)
    (statement_known : ∀ name ∈ statement.identifiers, name ∈ known) :
    (statement.rename r).scopeFault? (declared.map r) =
      (statement.scopeFault? declared).map (RuntimeError.rename r) := by
  have arguments := argumentFault?_rename injective declared_known statement_known
  unfold scopeFault?
  cases named : statement.name? with
  | none => simpa [rename, named] using arguments
  | some name =>
    have member := mem_map_iff_of_injOn injective declared_known
      (statement_known name (mem_identifiers_of_name named))
    by_cases bound : name ∈ declared
    next => simp [rename, named, member, bound, RuntimeError.rename]
    next => simpa [rename, named, member, bound] using arguments

theorem refusal?_rename (injective : Set.InjOn r known)
    (statement_known : ∀ name ∈ statement.identifiers, name ∈ known)
    (course_known : ∀ name ∈ course.symbols.map Prod.fst, name ∈ known) :
    (statement.rename r).refusal? (course.rename r) =
      (statement.refusal? course).map (RuntimeError.rename r) := by
  have fault := scopeFault?_rename injective course_known statement_known
  unfold refusal?
  by_cases stopped : course.cancelled? = some true
  next => simp [Course.rename, stopped, RuntimeError.rename]
  next => simpa [Course.rename, stopped] using fault

theorem invoke_rename (backend : Backend σ) (injective : Set.InjOn r known)
    (statement_known : ∀ name ∈ statement.identifiers, name ∈ known)
    (course_known : ∀ name ∈ course.symbols.map Prod.fst, name ∈ known) :
    (statement.rename r).invoke backend (course.rename r) =
      ((statement.invoke backend course).1, (statement.invoke backend course).2.rename r) := by
  have parameters : ((statement.rename r).call.arguments.map fun argument =>
        (argument.denote? (course.rename r).symbols).getD default) =
      statement.call.arguments.map fun argument =>
        (argument.denote? course.symbols).getD default := by
    refine Dict.ext ?_
    simp only [rename, Dict.map, List.map_map, Function.comp_def]
    refine List.map_congr_left fun entry member => ?_
    have denoted := Argument.denote?_rename injective course_known fun name refers =>
      statement_known name (mem_identifiers_of_argument member refers)
    exact congrArg (fun value? => (entry.1, Option.getD value? default)) denoted
  unfold invoke
  rw [parameters]
  rfl

theorem settle_rename (r : String → String) (position : Nat) (statement : Statement)
    (course : Course σ) (result : Except BackendError Value) :
    (statement.rename r).settle position (course.rename r) result =
      ((statement.settle position course result).1.map (RuntimeError.rename r),
        (statement.settle position course result).2.rename r) := by
  match result with
  | .error (.unsupported _ _) | .error (.missingParameter _) | .error (.invalidParameter _ _)
  | .error (.invalidResult _) | .error (.provider _) | .ok (.reference _) => rfl
  | .ok (.text _) | .ok (.number _) | .ok (.flag _) =>
    cases named : statement.name? <;>
      simp [settle, Course.rename, renameSymbols, rename, record, Executed.rename, named]

theorem visit_rename (backend : Backend σ) (position : Nat) (injective : Set.InjOn r known)
    (statement_known : ∀ name ∈ statement.identifiers, name ∈ known)
    (course_known : ∀ name ∈ course.symbols.map Prod.fst, name ∈ known) :
    (statement.rename r).visit backend position (course.rename r) =
      ((statement.visit backend position course).1.map (RuntimeError.rename r),
        (statement.visit backend position course).2.rename r) := by
  unfold visit
  rw [refusal?_rename injective statement_known course_known]
  cases statement.refusal? course with
  | some cause => rfl
  | none =>
    dsimp only [Option.map_none]
    rw [invoke_rename backend injective statement_known course_known]
    exact settle_rename r position statement _ _

theorem symbols_visit (backend : Backend σ) (position : Nat)
    (statement_known : ∀ name ∈ statement.identifiers, name ∈ known)
    (course_known : ∀ name ∈ course.symbols.map Prod.fst, name ∈ known) :
    ∀ name ∈ (statement.visit backend position course).2.symbols.map Prod.fst, name ∈ known := by
  have settled (result : Except BackendError Value) (later : Course σ)
      (same : later.symbols = course.symbols) :
      ∀ name ∈ (statement.settle position later result).2.symbols.map Prod.fst, name ∈ known := by
    match result with
    | .error _ | .ok (.reference _) => exact same ▸ course_known
    | .ok (.text _) | .ok (.number _) | .ok (.flag _) =>
      intro name member
      simp only [settle, List.map_append, List.mem_append, same] at member
      rcases member with old | new
      · exact course_known name old
      · refine statement_known name (mem_identifiers_of_name ?_)
        cases named : statement.name? <;> simp_all
  unfold visit
  cases statement.refusal? course with
  | some cause => exact course_known
  | none => exact settled _ _ rfl

end Statement

theorem walk_rename (backend : Backend σ) (file position : Nat) (injective : Set.InjOn r known)
    {statements : List Statement} {course : Course σ}
    (statements_known : ∀ statement ∈ statements, ∀ name ∈ statement.identifiers, name ∈ known)
    (course_known : ∀ name ∈ course.symbols.map Prod.fst, name ∈ known) :
    walk backend file position (statements.map (·.rename r)) (course.rename r) =
      ((walk backend file position statements course).1.map (RunError.rename r),
        (walk backend file position statements course).2.rename r) := by
  induction statements generalizing position course with
  | nil => rfl
  | cons statement rest ih =>
    obtain ⟨here, others⟩ := List.forall_mem_cons.mp statements_known
    have later := Statement.symbols_visit backend position here course_known
    rw [List.map_cons, walk, Statement.visit_rename backend position injective here course_known,
      walk]
    generalize statement.visit backend position course = visited at later
    rcases visited with ⟨_ | cause, after⟩
    · exact ih (position + 1) others later
    · rfl

end Injective

namespace Execution

structure Report.RenamedAs (r : String → String) (first second : Report (Watched σ)) : Prop where
  asked : second.final.state.events = first.final.state.events
  state : second.final.state.inner = first.final.state.inner
  error : second.error? = first.error?.map (RunError.rename r)
  executed : second.final.executed = first.final.executed.map (Executed.rename r)
  bound : second.final.bindings.entries = renameSymbols r first.final.bindings.entries

/-- Identifiers never influence what a backend is asked: under a renaming that keeps the identifiers
of a script apart, its run differs in the names that it reports and in nothing else. -/
theorem run_rename (backend : Backend σ) (state : σ) (cancelled? : Option Bool)
    {r : String → String} {script : Script}
    (injective : Set.InjOn r {name | name ∈ script.identifiers}) :
    let watched := run backend.watched script (start ⟨[], state⟩ cancelled?)
    let renamed := run backend.watched (script.rename r) (start ⟨[], state⟩ cancelled?)
    run backend script (start state cancelled?) = watched.mapState Watched.inner ∧
      run backend (script.rename r) (start state cancelled?) = renamed.mapState Watched.inner ∧
      watched.RenamedAs r renamed := by
  intro watched renamed
  refine ⟨run_watched backend script state cancelled?,
    run_watched backend (script.rename r) state cancelled?, ?_⟩
  have statements_known : ∀ statement ∈ script.statements, ∀ name ∈ statement.identifiers,
      name ∈ {name | name ∈ script.identifiers} :=
    fun statement member name inside => List.mem_flatMap.mpr ⟨statement, member, inside⟩
  let begun : Execution (Watched σ) := start ⟨[], state⟩ cancelled?
  have nothing_bound : ∀ name ∈ begun.course.symbols.map Prod.fst,
      name ∈ {name | name ∈ script.identifiers} :=
    fun name member => absurd member List.not_mem_nil
  have walks := walk_rename backend.watched script.file 0 injective statements_known nothing_bound
  have before : watched.outcome =
      walk backend.watched script.file 0 script.statements begun.course :=
    run_eq_walk_of_next backend.watched rfl
  have after : renamed.outcome = _ := run_eq_walk_of_next backend.watched rfl
  rw [← before] at walks
  have same : renamed.outcome =
      (watched.outcome.1.map (RunError.rename r), watched.outcome.2.rename r) := after.trans walks
  have course : renamed.final.course = watched.final.course.rename r := congrArg Prod.snd same
  exact {
    asked := congrArg (fun course => course.state.events) course
    state := congrArg (fun course => course.state.inner) course
    error := congrArg Prod.fst same
    executed := congrArg Course.executed course
    bound := congrArg Course.symbols course }

def crossed : Script :=
  ⟨[⟨some "net", ⟨"create", "vpc", ∅⟩, ⟨0, 16⟩⟩,
    ⟨some "hub", ⟨"create", "subnet", .ofList [("via", .given (.reference "net"))]⟩, ⟨17, 45⟩⟩,
    ⟨none, ⟨"delete", "subnet", .ofList [("id", .given (.reference "lost"))]⟩, ⟨46, 68⟩⟩], 0⟩

def exchange (name : String) : String :=
  if name = "net" then "hub" else if name = "hub" then "net" else name

theorem run_rename_crossed :
    let watched := run granting.watched crossed (start ⟨[], ()⟩ none)
    let renamed := run granting.watched (crossed.rename exchange) (start ⟨[], ()⟩ none)
    Set.InjOn exchange {name | name ∈ crossed.identifiers} ∧
      renamed.final.bindings.entries = [("hub", .text "vpc-1"), ("net", .text "vpc-1")] ∧
      renamed.error?.map RunError.cause = some (.unknownReference "lost") ∧
      watched.RenamedAs exchange renamed := by
  intro watched renamed
  have injective : Set.InjOn exchange {name | name ∈ crossed.identifiers} := by
    intro first _ second _ same
    simp only [exchange] at same
    grind
  have renamedAs : watched.RenamedAs exchange renamed := (run_rename granting () none injective).2.2
  exact ⟨injective, by decide +kernel, by decide +kernel, renamedAs⟩

end Execution

end Runbook
