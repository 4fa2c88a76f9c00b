import Runbook.Fixture.Verdict
import Runbook.Proofs.Backend.Registry
import Runbook.Proofs.Bindings
import Runbook.Proofs.Dict
import Runbook.Proofs.Execution.Completion
import Runbook.Proofs.Fills
import Runbook.Proofs.Script.Fill
import Mathlib.Data.List.Perm.Subperm
import Mathlib.Data.List.TakeWhile

set_option autoImplicit false

namespace Runbook

theorem Text.contains_iff {part text : List Char} : contains part text = true ↔ part <:+: text := by
  induction text with
  | nil => simp [contains]
  | cons c rest ih =>
    rw [contains, Bool.or_eq_true, ih, startsWith, List.isPrefixOf_iff_prefix, List.infix_cons_iff]

-- As maps from names to values, bindings and a table are equal; numbers are compared as arithmetic
-- does.
def Bindings.AgreesWith (bindings : Bindings) (expected : List (String × Toml)) : Prop :=
  ∀ name, Option.Rel (fun actual wanted => actual.same wanted = true) (bindings.get? name)
    ((expected.lookup name).map Toml.toValue)

namespace Fixture

def operation (entry : String) : Operation :=
  ⟨String.ofList (Text.trimChars (entry.toList.takeWhile (· != ' '))),
    String.ofList (Text.trimChars (entry.toList.dropWhile (· != ' ')).tail)⟩

def injected (entries : List String) : DryRun :=
  entries.foldl (fun registry entry =>
    registry.failOn (operation entry).action (operation entry).kind
      ("injected failure for " ++ entry)) DryRun.new

def EndsAs (report : Execution.Report DryRun) : (expected? : Option String) → Prop
  | none => report.final.phase = .completed
  | some part => report.final.phase = .aborted ∧
    ∃ error, report.error? = some error ∧ part.toList <:+: error.message.toList

end Fixture

namespace Expectations

def reportOf (expectations : Expectations) (script : Script) : Execution.Report DryRun :=
  Execution.run Registry.backend script (.start (Fixture.injected expectations.failing) none)

structure MetByRun (expectations : Expectations) (script : Script) : Prop where
  resolved : script.holes = []
  parted : ∀ entry ∈ expectations.failing, ' ' ∈ entry.toList
  ends : Fixture.EndsAs (expectations.reportOf script) expectations.error?
  bound : ∀ expected, expectations.bindings? = some expected →
    (expectations.reportOf script).final.bindings.AgreesWith expected

inductive MetBy (expectations : Expectations) (source : String) : Prop where
  | refused (wanted : expectations.parseError = true) (errors : List Script.ParseError)
      (parsed : Script.parse 0 source = .error errors)
  | unresolved (wanted : expectations.parseError = false) (script : Script)
      (parsed : Script.parse 0 source = .ok script)
      (pending : expectations.unresolved? =
        some ((script.fill (Fills.ofTable expectations.fills)).holes.map Hole.key))
  | ran (wanted : expectations.parseError = false) (script : Script)
      (parsed : Script.parse 0 source = .ok script) (whole : expectations.unresolved? = none)
      (met : expectations.MetByRun (script.fill (Fills.ofTable expectations.fills)))

end Expectations

namespace Fixture

theorem operationOf?_eq (entry : String) :
    operationOf? entry =
      if ' ' ∈ entry.toList then some ((operation entry).action, (operation entry).kind)
      else none := by
  unfold operationOf? operation
  by_cases blank : ' ' ∈ entry.toList
  next =>
    rw [if_pos blank]
    cases behind : entry.toList.dropWhile (· != ' ') with
    | nil => simpa using List.dropWhile_eq_nil_iff.mp behind ' ' blank
    | cons _ kind => rfl
  next =>
    have whole : entry.toList.dropWhile (· != ' ') = [] :=
      List.dropWhile_eq_nil_iff.2 fun c member => bne_iff_ne.mpr fun same => blank (same ▸ member)
    rw [if_neg blank, whole]

theorem backendFor_eq_ok_iff {entries : List String} {registry : DryRun} :
    backendFor entries = .ok registry ↔
      (∀ entry ∈ entries, ' ' ∈ entry.toList) ∧ registry = injected entries := by
  unfold backendFor injected
  generalize DryRun.new = start
  induction entries generalizing start with
  | nil => simp [pure, Except.pure, eq_comm]
  | cons entry rest ih =>
    rw [List.foldlM_cons, operationOf?_eq, List.forall_mem_cons, List.foldl_cons]
    by_cases blank : ' ' ∈ entry.toList
    next =>
      simp only [blank, if_true, true_and]
      exact ih _
    next => simp [blank, bind, Except.bind]

theorem handlers_failOn (registry : DryRun) (action kind message : String) (operation : Operation) :
    (registry.failOn action kind message).handlers.get? operation =
      if operation = ⟨action, kind⟩ then some (.answer (.error (.provider message)))
      else registry.handlers.get? operation := by
  unfold DryRun.failOn Registry.register
  split
  next same => rw [same, Dict.get?_insert_self]
  next other => rw [Dict.get?_insert_of_ne _ _ other]

def injection (entry : String) : Handler Counters :=
  .answer (.error (.provider ("injected failure for " ++ entry)))

theorem handlers_injected (entries : List String) (named : Operation) :
    (injected entries).handlers.get? named =
      ((entries.reverse.find? fun entry => operation entry = named).map injection).or
        (DryRun.new.handlers.get? named) := by
  unfold injected
  generalize DryRun.new = registry
  induction entries generalizing registry with
  | nil => rfl
  | cons entry rest ih =>
    rw [List.foldl_cons, ih, handlers_failOn, List.reverse_cons, List.find?_append,
      Option.map_or, Option.or_assoc]
    congr 1
    by_cases same : operation entry = named
    next =>
      subst same
      simp [injection]
    next =>
      have other : ¬ named = ⟨(operation entry).action, (operation entry).kind⟩ := Ne.symm same
      simp [same, other]

theorem call_injected {entries earlier later : List String} {entry : String}
    (split : entries = earlier ++ entry :: later)
    (last : ∀ other ∈ later, operation other ≠ operation entry) {registry : DryRun}
    (handlers : registry.handlers = (injected entries).handlers) (parameters : Parameters) :
    let called := Registry.backend.call (operation entry) parameters registry
    called.1 = ⟨.error (.provider ("injected failure for " ++ entry)), false⟩ ∧
      called.2.state = registry.state := by
  have found : entries.reverse.find? (fun other => operation other = operation entry) =
      some entry := by
    have later' : later.reverse.find? (fun other => operation other = operation entry) = none := by
      simpa using last
    rw [split, List.reverse_append, List.reverse_cons, List.append_assoc, List.find?_append, later']
    simp
  have registered := handlers_injected entries (operation entry)
  rw [found, Option.map_some, Option.some_or, ← handlers] at registered
  simp only [Backend.call, Registry.backend, Registry.lookup, registered]
  exact ⟨rfl, rfl⟩

theorem call_uninjected {entries : List String} {named : Operation}
    (unnamed : ∀ entry ∈ entries, operation entry ≠ named) {registry : DryRun}
    (handlers : registry.handlers = (injected entries).handlers) (parameters : Parameters) :
    let called := Registry.backend.call named parameters registry
    let plain := Registry.backend.call named parameters
      { registry with handlers := DryRun.new.handlers }
    called.1 = plain.1 ∧ called.2.state = plain.2.state ∧ called.2.log = plain.2.log := by
  have unfound : entries.reverse.find? (fun entry => operation entry = named) = none := by
    simpa using unnamed
  have registered := handlers_injected entries named
  rw [unfound, Option.map_none, Option.none_or, ← handlers] at registered
  simp only [Backend.call, Registry.backend, Registry.lookup, registered]
  cases DryRun.new.handlers.get? named <;> exact ⟨rfl, rfl, rfl⟩

theorem checkError_eq_ok_iff (script : Script) (registry : DryRun) {expected? : Option String} :
    let report := Execution.run Registry.backend script (.start registry none)
    checkError expected? report.error? = .ok () ↔ EndsAs report expected? := by
  intro report
  have unaborted : (Execution.start registry none).phase ≠ .aborted := by simp [Execution.start]
  have phase : report.final.phase = if report.isCompleted then .completed else .aborted :=
    Execution.run_phase (Execution.start_consistent registry none) unaborted
  cases raised : report.error? <;> cases expected? <;>
    simp [checkError, EndsAs, Text.contains_iff, phase, Execution.Report.isCompleted, raised]

theorem checkBinding_eq_ok_iff {bindings : Bindings} {name : String} {expected : Value} :
    checkBinding bindings name expected = .ok () ↔
      ∃ actual, bindings.get? name = some actual ∧ actual.same expected = true := by
  unfold checkBinding
  cases bindings.get? name <;> simp

end Fixture

namespace Expectations

open Execution in
theorem reportOf_failsAt {expectations : Expectations} {script : Script}
    {before : Execution DryRun} {index : Nat} {statement : Statement} {parameters : Parameters}
    (calls : Calls Registry.backend script
      (.start (Fixture.injected expectations.failing) none) before index statement parameters)
    {earlier later : List String} {entry : String}
    (split : expectations.failing = earlier ++ entry :: later)
    (named : Fixture.operation entry = statement.operation)
    (last : ∀ other ∈ later, Fixture.operation other ≠ Fixture.operation entry) :
    (expectations.reportOf script).FailsAt script index
      (.execution (.provider ("injected failure for " ++ entry))) := by
  have consistent : (start (Fixture.injected expectations.failing) none).Consistent script :=
    start_consistent _ _
  have ofBackend := RuntimeError.ofBackend_ofBackend (.provider ("injected failure for " ++ entry))
  refine (failsAt_iff_of_ofBackend consistent ofBackend).mpr
    ⟨before, statement, parameters, calls, ?_⟩
  have answered := (Fixture.call_injected split last calls.advances.handlers parameters).1
  rw [named] at answered
  simp [reply, Reply.fault?, answered]

end Expectations

namespace Bindings

theorem AgreesWith.mem_names_iff {bindings : Bindings} {expected : List (String × Toml)}
    (agrees : bindings.AgreesWith expected) {name : String} :
    name ∈ bindings.names ↔ name ∈ expected.map Prod.fst := by
  have here := agrees name
  rw [← not_iff_not, ← get?_eq_none_iff, ← lookup_eq_none_iff]
  cases found : bindings.get? name <;> cases wanted : expected.lookup name <;>
    simp_all

theorem agreesWith_iff {bindings : Bindings} {expected : List (String × Toml)}
    (distinct : (expected.map Prod.fst).Nodup) :
    bindings.AgreesWith expected ↔
      (∀ member ∈ expected, ∃ actual, bindings.get? member.1 = some actual ∧
        actual.same member.2.toValue = true) ∧
      bindings.size = expected.length := by
  have counts : bindings.names.length = bindings.size := List.length_map _
  have counts' : (expected.map Prod.fst).length = expected.length := List.length_map _
  constructor
  next =>
    intro agrees
    constructor
    next =>
      rintro ⟨name, wanted⟩ member
      have here := agrees name
      rw [(lookup_eq_some_iff_mem distinct).mpr member, Option.map_some] at here
      generalize bindings.get? name = found at here ⊢
      cases here with
      | some same => exact ⟨_, rfl, same⟩
    next =>
      rw [← counts, ← counts']
      exact ((List.perm_ext_iff_of_nodup bindings.distinct distinct).mpr fun name =>
        agrees.mem_names_iff).length_eq
  next =>
    rintro ⟨each, sizes⟩ name
    -- All expected names are bound, and as many names again cannot be others.
    have among : expected.map Prod.fst ⊆ bindings.names := by
      intro name member
      obtain ⟨entry, inside, rfl⟩ := List.mem_map.mp member
      obtain ⟨actual, found, -⟩ := each entry inside
      by_contra absent
      simp [get?_eq_none_iff.mpr absent] at found
    have names : (expected.map Prod.fst).Perm bindings.names :=
      (distinct.subperm among).perm_of_length_le (by omega)
    cases wanted : expected.lookup name with
    | some value =>
      have member := (lookup_eq_some_iff_mem distinct).mp wanted
      obtain ⟨actual, found, same⟩ := each _ member
      rw [found]
      exact .some same
    | none =>
      have absent : name ∉ bindings.names := fun bound =>
        lookup_eq_none_iff.mp wanted (names.mem_iff.mpr bound)
      rw [get?_eq_none_iff.mpr absent]
      exact .none

end Bindings

namespace Expectations

theorem distinct_of_table? {value : Toml} {members : List (String × Toml)}
    (done : table? value = some members) : (members.map Prod.fst).Nodup := by
  unfold table? at done
  split at done
  next raw =>
    have ordered := Toml.settleMembers?_ordered (fun _ _ _ => Toml.settle?_ordered) done
    exact Dict.distinct_keys ⟨members, ordered members (.self members)⟩
  next moment =>
    obtain rfl : [(Toml.momentKey, .text moment.toText)] = members := by simpa using done
    simp
  next => cases done

theorem distinct_of_member? {name : String} {members : List (String × Toml)}
    {expected : List (String × Toml)}
    (done : member? name table? members = some (some expected)) :
    (expected.map Prod.fst).Nodup := by
  unfold member? at done
  split at done
  next => cases done
  next value _ =>
    obtain ⟨read, isTable, same⟩ := Option.map_eq_some_iff.mp done
    obtain rfl : read = expected := by simpa using same
    exact distinct_of_table? isTable

theorem distinct_of_ofTable? {members : List (String × Toml)} {expectations : Expectations}
    (done : ofTable? members = some expectations) {expected : List (String × Toml)}
    (given : expectations.bindings? = some expected) : (expected.map Prod.fst).Nodup := by
  obtain ⟨bindings?, found, rfl⟩ : ∃ bindings?,
      member? "expect_bindings" table? members = some bindings? ∧
        bindings? = expectations.bindings? := by
    simp only [ofTable?, Option.bind_eq_bind, Option.bind_eq_some_iff] at done
    obtain ⟨_, -, _, -, _, -, _, -, _, -, _, -, bindings?, found, rest⟩ := done
    obtain rfl := Option.some.inj rest
    exact ⟨bindings?, found, rfl⟩
  exact distinct_of_member? (given ▸ found)

theorem distinct_of_read {content source : String} {expectations : Expectations}
    (read : Frontmatter.read content = .ok (expectations, source))
    {expected : List (String × Toml)} (given : expectations.bindings? = some expected) :
    (expected.map Prod.fst).Nodup := by
  unfold Frontmatter.read at read
  split at read
  next => cases read
  next block text _ =>
    split at read
    next => cases read
    next found table =>
      obtain ⟨rfl, -⟩ : found = expectations ∧ _ = source := by simpa using read
      obtain ⟨members, -, isTable⟩ := Option.bind_eq_some_iff.mp table
      exact distinct_of_ofTable? isTable given

end Expectations

namespace Fixture

theorem checkBindings_eq_ok_iff {bindings : Bindings} {expected : List (String × Toml)}
    (distinct : (expected.map Prod.fst).Nodup) :
    checkBindings (some expected) bindings = .ok () ↔ bindings.AgreesWith expected := by
  have each : (expected.forM fun member => checkBinding bindings member.1 member.2.toValue) =
      .ok () ↔ ∀ member ∈ expected, ∃ actual, bindings.get? member.1 = some actual ∧
        actual.same member.2.toValue = true := by
    rw [forM_eq_ok_iff]
    exact forall₂_congr fun _ _ => checkBinding_eq_ok_iff
  rw [Bindings.agreesWith_iff distinct, ← each, checkBindings, check_bind_eq_ok_iff]
  simp

theorem checkRun_eq_ok_iff {expectations : Expectations} {script : Script}
    (distinct : ∀ expected, expectations.bindings? = some expected →
      (expected.map Prod.fst).Nodup) (resolved : script.holes = []) :
    checkRun expectations script = .ok () ↔ expectations.MetByRun script := by
  have bound (bindings : Bindings) : checkBindings expectations.bindings? bindings = .ok () ↔
      ∀ expected, expectations.bindings? = some expected → bindings.AgreesWith expected := by
    cases given : expectations.bindings? with
    | none => simp [checkBindings]
    | some expected => simpa using checkBindings_eq_ok_iff (distinct expected given)
  rw [checkRun, bind_eq_ok_iff]
  simp only [check_bind_eq_ok_iff, backendFor_eq_ok_iff, checkError_eq_ok_iff, bound]
  constructor
  next =>
    rintro ⟨_, ⟨parted, rfl⟩, ends, agrees⟩
    exact ⟨resolved, parted, ends, agrees⟩
  next =>
    rintro ⟨-, parted, ends, agrees⟩
    exact ⟨_, ⟨parted, rfl⟩, ends, agrees⟩

theorem checkScript_eq_ok_iff {expectations : Expectations} {script : Script}
    (distinct : ∀ expected, expectations.bindings? = some expected →
      (expected.map Prod.fst).Nodup) :
    checkScript expectations script = .ok () ↔
      let filled := script.fill (Fills.ofTable expectations.fills)
      expectations.unresolved? = some (filled.holes.map Hole.key) ∨
        expectations.unresolved? = none ∧ expectations.MetByRun filled := by
  unfold checkScript
  generalize script.fill (Fills.ofTable expectations.fills) = filled
  cases expectations.unresolved? with
  | some keys => simp [eq_comm]
  | none =>
    simp only [reduceCtorEq, true_and, false_or]
    split
    next ensured =>
      exact checkRun_eq_ok_iff distinct (Script.ensureResolved_eq_ok_iff.mp ensured)
    next ensured =>
      have pending : ¬ expectations.MetByRun filled := by
        intro met
        simp [Script.ensureResolved_eq_ok_iff.mpr met.resolved] at ensured
      simpa using pending

theorem check_eq_ok_iff {expectations : Expectations} {source : String}
    (distinct : ∀ expected, expectations.bindings? = some expected →
      (expected.map Prod.fst).Nodup) :
    check expectations source = .ok () ↔ expectations.MetBy source := by
  unfold check
  constructor
  next =>
    intro passed
    split at passed
    next errors parsed wanted => exact .refused wanted errors parsed
    next => cases passed
    next => cases passed
    next script parsed wanted =>
      rcases (checkScript_eq_ok_iff distinct).mp passed with pending | ⟨whole, met⟩
      · exact .unresolved wanted script parsed pending
      · exact .ran wanted script parsed whole met
  next =>
    intro met
    cases met with
    | refused wanted errors parsed => simp only [parsed, wanted]
    | unresolved wanted script parsed pending =>
      simp only [parsed, wanted]
      exact (checkScript_eq_ok_iff distinct).mpr (.inl pending)
    | ran wanted script parsed whole met =>
      simp only [parsed, wanted]
      exact (checkScript_eq_ok_iff distinct).mpr (.inr ⟨whole, met⟩)

theorem passed_iff {expectations : Expectations} {source content : String}
    (read : Frontmatter.read content = .ok (expectations, source)) :
    (judge (.ok content)).passed = true ↔ check expectations source = .ok () := by
  simp only [judge, read, Verdict.passed]
  cases check expectations source <;> simp [failureOf?]

/-- A fixture passes exactly when its frontmatter can be read and its script is what that expects:
refused by the parser, left with the expected holes, or free of holes and run to the expected end
and bindings. -/
theorem judge_passed_iff (content : String) :
    (judge (.ok content)).passed = true ↔
      ∃ expectations source, Frontmatter.read content = .ok (expectations, source) ∧
        expectations.MetBy source := by
  cases read : Frontmatter.read content with
  | error failure => simp [judge, read, Verdict.passed]
  | ok parts =>
    obtain ⟨expectations, source⟩ := parts
    have distinct : ∀ expected, expectations.bindings? = some expected →
        (expected.map Prod.fst).Nodup :=
      fun _ given => Expectations.distinct_of_read read given
    rw [passed_iff read, check_eq_ok_iff distinct]
    simp

end Fixture

end Runbook
