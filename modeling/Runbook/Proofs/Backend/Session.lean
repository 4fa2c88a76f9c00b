import Mathlib.Data.String.Basic
import Runbook.Backend.Registry
import Runbook.Proofs.Dict

set_option autoImplicit false

namespace Runbook

theorem Operation.compare_eq_lt_iff {first second : Operation} :
    compare first second = .lt ↔
      first.action < second.action ∨ first.action = second.action ∧ first.kind < second.kind := by
  have parts : compare first second =
      (compare first.action second.action).then (compare first.kind second.kind) := rfl
  rw [parts, Ordering.then_eq_lt, compare_lt_iff_lt, compare_lt_iff_lt, compare_eq_iff_eq]

def Log.received (sink? : Option Sink) (text : String) : List (String × String) :=
  match sink? with
  | some (.page name) => [(name, text ++ "\n")]
  | some .broken | none => []

theorem Log.line_written (log : Log) (text : String) :
    (log.line text).written = log.written ++ received log.sink? text := by
  obtain ⟨_ | ⟨name⟩ | _, written⟩ := log <;> simp [line, received]

@[simp] theorem Log.line_sink? (log : Log) (text : String) : (log.line text).sink? = log.sink? := by
  obtain ⟨_ | ⟨name⟩ | _, written⟩ := log <;> rfl

namespace Registry

variable {τ : Type}

inductive Act (τ : Type) where
  | register (operation : Operation) (handler : Handler τ)
  | lookup (operation : Operation)
  | install (sink : Sink)
  | call (number : Nat) (parameters : Parameters)

namespace Act

def handler? (operation : Operation) : Act τ → Option (Handler τ)
  | .register other handler => if other = operation then some handler else none
  | .lookup _ | .install _ | .call _ _ => none

def sink? : Act τ → Option Sink
  | .install sink => some sink
  | .register _ _ | .lookup _ | .call _ _ => none

def isLookup : Act τ → Bool
  | .lookup _ => true
  | .register _ _ | .install _ | .call _ _ => false

end Act

section Acts

variable (acts : List (Act τ))

def lastHandler? (operation : Operation) : Option (Handler τ) :=
  acts.reverse.findSome? (Act.handler? operation)

def lastSink? : Option Sink := acts.reverse.findSome? Act.sink?

def lookups : Nat := acts.countP Act.isLookup

end Acts

structure Session (τ : Type) where
  registry : Registry τ
  kept : List (Handler (Registry τ))
  replies : List Reply

namespace Session

def perform (session : Session τ) : Act τ → Session τ
  | .register operation handler =>
    { session with
      registry := session.registry.register operation.action operation.kind handler }
  | .lookup operation =>
    let (function, registry) := session.registry.lookup operation.action operation.kind
    { session with registry := registry, kept := session.kept ++ [function] }
  | .install sink => { session with registry := session.registry.install sink }
  | .call number parameters =>
    match session.kept[number]? with
    | some function =>
      let (reply, registry) := function parameters session.registry
      { session with registry := registry, replies := session.replies ++ [reply] }
    | none => session

def after (state : τ) (acts : List (Act τ)) : Session τ :=
  acts.foldl perform ⟨.empty state, [], []⟩

theorem after_append (state : τ) (first second : List (Act τ)) :
    after state (first ++ second) = second.foldl perform (after state first) := List.foldl_append

end Session

def function (operation : Operation) : Option (Handler τ) → Handler (Registry τ)
  | some handler => traced operation handler
  | none => .unsupported operation.action operation.kind

theorem lookup_function (registry : Registry τ) (operation : Operation) :
    (registry.lookup operation.action operation.kind).1 =
      function operation (registry.handlers.get? operation) := by
  simp only [lookup, function]
  cases registry.handlers.get? operation <;> rfl

structure SameTable (first second : Registry τ) : Prop where
  handlers : first.handlers = second.handlers
  sink? : first.log.sink? = second.log.sink?

theorem lookup_sameTable (registry : Registry τ) (action kind : String) :
    SameTable (registry.lookup action kind).2 registry := by
  simp only [lookup]
  cases registry.handlers.get? ⟨action, kind⟩ with
  | some handler => exact ⟨rfl, rfl⟩
  | none => exact ⟨rfl, Log.line_sink? _ _⟩

theorem function_sameTable (operation : Operation) (handler? : Option (Handler τ))
    (parameters : Parameters) (registry : Registry τ) :
    SameTable (function operation handler? parameters registry).2 registry := by
  cases handler? with
  | some handler => exact ⟨rfl, Log.line_sink? _ _⟩
  | none => exact ⟨rfl, rfl⟩

theorem lastHandler?_concat (acts : List (Act τ)) (act : Act τ) (operation : Operation) :
    lastHandler? (acts ++ [act]) operation =
      (act.handler? operation).or (lastHandler? acts operation) := by
  rw [lastHandler?, List.reverse_concat, List.findSome?_cons]
  cases act.handler? operation <;> rfl

theorem lastSink?_concat (acts : List (Act τ)) (act : Act τ) :
    lastSink? (acts ++ [act]) = act.sink?.or (lastSink? acts) := by
  rw [lastSink?, List.reverse_concat, List.findSome?_cons]
  cases act.sink? <;> rfl

theorem lookups_concat (acts : List (Act τ)) (act : Act τ) :
    lookups (acts ++ [act]) = lookups acts + if act.isLookup then 1 else 0 := by
  rw [lookups, List.countP_append, List.countP_singleton]
  rfl

theorem Act.handler?_eq_some_iff {operation : Operation} {act : Act τ} {handler : Handler τ} :
    act.handler? operation = some handler ↔ act = .register operation handler := by
  cases act with
  | register other handler' => simp [Act.handler?]
  | lookup _ | install _ | call _ _ => simp [Act.handler?]

theorem lastHandler?_isSome_iff {acts : List (Act τ)} {operation : Operation} :
    (lastHandler? acts operation).isSome = true ↔
      ∃ handler, .register operation handler ∈ acts := by
  rw [lastHandler?, List.findSome?_isSome_iff]
  simp only [List.mem_reverse, Option.isSome_iff_exists, Act.handler?_eq_some_iff]
  constructor
  next =>
    rintro ⟨act, member, handler, rfl⟩
    exact ⟨handler, member⟩
  next =>
    rintro ⟨handler, member⟩
    exact ⟨_, member, handler, rfl⟩

structure Session.Reached (acts : List (Act τ)) (session : Session τ) : Prop where
  handlers : ∀ operation, session.registry.handlers.get? operation = lastHandler? acts operation
  sink? : session.registry.log.sink? = lastSink? acts
  count : session.kept.length = lookups acts
  functions : ∀ kept ∈ session.kept, ∃ operation handler?, kept = function operation handler?

theorem Session.Reached.unchanged {acts : List (Act τ)} {act : Act τ} {session later : Session τ}
    (reached : session.Reached acts) (registersNone : ∀ operation, act.handler? operation = none)
    (installsNone : act.sink? = none) (table : SameTable later.registry session.registry)
    (count : later.kept.length = lookups (acts ++ [act]))
    (functions : ∀ kept ∈ later.kept, ∃ operation handler?, kept = function operation handler?) :
    later.Reached (acts ++ [act]) := by
  refine ⟨fun operation => ?_, ?_, count, functions⟩
  · rw [lastHandler?_concat, registersNone, Option.none_or, table.handlers]
    exact reached.handlers operation
  · rw [lastSink?_concat, installsNone, Option.none_or, table.sink?]
    exact reached.sink?

theorem Session.perform_reached {acts : List (Act τ)} {session : Session τ}
    (reached : session.Reached acts) (act : Act τ) :
    (session.perform act).Reached (acts ++ [act]) := by
  have count := lookups_concat acts act
  rw [← reached.count] at count
  cases act with
  | register operation handler =>
    refine ⟨fun other => ?_, ?_, count.symm, reached.functions⟩
    · rw [lastHandler?_concat, Act.handler?]
      by_cases same : operation = other
      next =>
        subst same
        simp [perform, register, Dict.get?_insert_self]
      next =>
        have apart : other ≠ operation := fun equal => same equal.symm
        simp [perform, register, Dict.get?_insert_of_ne _ _ apart, same, reached.handlers]
    · rw [lastSink?_concat]
      exact reached.sink?
  | lookup operation =>
    have table := lookup_sameTable session.registry operation.action operation.kind
    have found := lookup_function session.registry operation
    refine reached.unchanged (fun _ => rfl) rfl table (List.length_append.trans count.symm) ?_
    intro kept member
    rcases List.mem_append.mp member with old | new
    · exact reached.functions kept old
    · exact ⟨operation, _, List.mem_singleton.mp new ▸ found⟩
  | install sink =>
    refine ⟨fun other => ?_, ?_, count.symm, reached.functions⟩
    · rw [lastHandler?_concat]
      exact reached.handlers other
    · rw [lastSink?_concat]
      rfl
  | call number parameters =>
    have performed : SameTable (session.perform (.call number parameters)).registry
          session.registry ∧
        (session.perform (.call number parameters)).kept = session.kept := by
      simp only [perform]
      cases here : session.kept[number]? with
      | none => exact ⟨⟨rfl, rfl⟩, rfl⟩
      | some kept =>
        obtain ⟨operation, handler?, rfl⟩ := reached.functions kept (List.mem_of_getElem? here)
        exact ⟨function_sameTable operation handler? parameters session.registry, rfl⟩
    obtain ⟨table, kept⟩ := performed
    refine reached.unchanged (fun _ => rfl) rfl table ?_ (kept ▸ reached.functions)
    rw [kept]
    exact count.symm

theorem Session.after_reached (state : τ) (acts : List (Act τ)) :
    (after state acts).Reached acts := by
  induction acts using List.reverseRecOn with
  | nil => exact ⟨fun _ => rfl, rfl, rfl, by simp [after]⟩
  | append_singleton acts act ih =>
    rw [after_append]
    exact perform_reached ih act

theorem Session.kept_prefix (session : Session τ) (acts : List (Act τ)) :
    session.kept <+: (acts.foldl perform session).kept := by
  induction acts generalizing session with
  | nil => exact List.prefix_refl _
  | cons act later ih =>
    refine List.IsPrefix.trans ?_ (ih (session.perform act))
    cases act with
    | register _ _ | install _ => exact List.prefix_refl _
    | lookup operation => exact List.prefix_append _ _
    | call number parameters =>
      cases here : session.kept[number]? <;> simp [perform, here]

theorem Session.kept_of_lookup (state : τ) (before later : List (Act τ)) (operation : Operation) :
    (after state (before ++ .lookup operation :: later)).kept[lookups before]? =
      some (function operation (lastHandler? before operation)) := by
  have reached := after_reached state before
  have found : ((after state before).perform (.lookup operation)).kept[lookups before]? =
      some (function operation (lastHandler? before operation)) := by
    have function := lookup_function (after state before).registry operation
    simp [perform, ← reached.count, function, reached.handlers]
  rw [after_append, List.foldl_cons]
  obtain ⟨more, joined⟩ := kept_prefix ((after state before).perform (.lookup operation)) later
  rw [← joined, List.getElem?_append_left (List.getElem?_eq_some_iff.mp found).1, found]

structure Session.Faithful (acts : List (Act τ)) (session : Session τ) : Prop where
  supports : ∀ action kind, session.registry.supports action kind = true ↔
    ∃ handler, .register ⟨action, kind⟩ handler ∈ acts
  operations : ∀ operation, operation ∈ session.registry.operations ↔
    ∃ handler, .register operation handler ∈ acts
  ascending : session.registry.operations.Pairwise fun earlier later =>
    earlier.action < later.action ∨ earlier.action = later.action ∧ earlier.kind < later.kind
  -- A registration changes nothing but what is found for its operation from then on.
  separate : ∀ operation handler other, other ≠ operation →
    let later := (session.perform (.register operation handler)).registry
    later.supports other.action other.kind = session.registry.supports other.action other.kind ∧
      (other ∈ later.operations ↔ other ∈ session.registry.operations) ∧
      (later.lookup other.action other.kind).1 =
        (session.registry.lookup other.action other.kind).1
  -- A function does what its lookup has settled, and its trace goes where the sink is now.
  calls : ∀ before operation middle, acts = before ++ .lookup operation :: middle →
    ∀ parameters,
      let later := session.perform (.call (lookups before) parameters)
      match lastHandler? before operation with
      | some handler =>
        let (reply, state) := handler parameters session.registry.state
        let trace := operation.trace parameters reply.result
        later.replies = session.replies ++ [reply] ∧ later.registry.state = state ∧
          later.registry.log.written =
            session.registry.log.written ++ Log.received (lastSink? acts) trace
      | none =>
        later.replies = session.replies ++
            [⟨.error (.unsupported operation.action operation.kind), false⟩] ∧
          later.registry = session.registry

theorem mem_operations_iff {registry : Registry τ} {operation : Operation} :
    operation ∈ registry.operations ↔ (registry.handlers.get? operation).isSome = true := by
  simp only [operations, Dict.keys, List.mem_map, Option.isSome_iff_exists]
  constructor
  next =>
    rintro ⟨⟨other, handler⟩, member, rfl⟩
    exact ⟨handler, Dict.mem_entries_iff.mp member⟩
  next =>
    rintro ⟨handler, found⟩
    exact ⟨(operation, handler), Dict.mem_entries_iff.mpr found, rfl⟩

/-- Whatever is registered, looked up, installed and called in whatever order, a registry supports
and lists exactly what was registered, in order. A function that was looked up does for ever what
the handler does that was registered last before the lookup, or fails as unsupported if there was
none; a registration leaves all other operations alone; and a call is traced by the sink that is
installed when it is made. -/
theorem session_faithful (state : τ) (acts : List (Act τ)) :
    (Session.after state acts).Faithful acts := by
  have reached := Session.after_reached state acts
  have registered (operation : Operation) :
      ((Session.after state acts).registry.handlers.get? operation).isSome = true ↔
        ∃ handler, .register operation handler ∈ acts := by
    rw [reached.handlers, lastHandler?_isSome_iff]
  refine ⟨fun action kind => registered ⟨action, kind⟩, fun operation => ?_, ?_, ?_, ?_⟩
  · rw [mem_operations_iff, registered]
  · exact (Dict.ascending_keys.mp (Session.after state acts).registry.handlers.ascending).imp
      Operation.compare_eq_lt_iff.mp
  · intro operation handler other apart later
    have same : later.handlers.get? other =
        (Session.after state acts).registry.handlers.get? other :=
      Dict.get?_insert_of_ne _ _ apart
    refine ⟨congrArg Option.isSome same, ?_, ?_⟩
    · rw [mem_operations_iff, mem_operations_iff, same]
    · rw [lookup_function, lookup_function, same]
  · rintro before operation middle rfl parameters later
    have kept := Session.kept_of_lookup state before middle operation
    simp only [later, Session.perform, kept]
    cases lastHandler? before operation with
    | none => exact ⟨rfl, rfl⟩
    | some handler =>
      refine ⟨rfl, rfl, ?_⟩
      rw [← reached.sink?]
      exact Log.line_written _ _

end Registry

end Runbook
