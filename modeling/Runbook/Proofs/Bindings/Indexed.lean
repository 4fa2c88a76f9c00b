import Mathlib.Data.List.Nodup
import Runbook.Bindings.Indexed
import Runbook.Proofs.Bindings

set_option autoImplicit false

namespace Runbook.Bindings

def bindAll (bindings : Bindings) (binds : List (String × Value)) : Bindings :=
  binds.foldl (fun bindings bind => (bindings.bind? bind.1 bind.2).getD bindings) bindings

theorem get?_bindAll (bindings : Bindings) (binds : List (String × Value)) (name : String) :
    (bindings.bindAll binds).get? name = (bindings.get? name).or (binds.lookup name) := by
  induction binds generalizing bindings with
  | nil => simp [bindAll]
  | cons bind rest ih =>
    obtain ⟨other, value⟩ := bind
    have parts : ([(other, value)] ++ rest).lookup name =
        ([(other, value)].lookup name).or (rest.lookup name) := List.lookup_append
    rw [← List.singleton_append, parts, ← Option.or_assoc, List.singleton_append]
    cases bound : bindings.bind? other value with
    | none =>
      -- A name that is bound keeps its value, whatever is tried with it.
      have kept : (bindings.get? name).or ([(other, value)].lookup name) =
          bindings.get? name := by
        by_cases same : name = other
        next =>
          subst same
          have present := mt get?_eq_none_iff.mp (not_not.mpr (bind?_eq_none_iff.mp bound))
          obtain ⟨old, here⟩ := Option.ne_none_iff_exists'.mp present
          rw [here, Option.some_or]
        next => simp [List.lookup_cons, beq_eq_false_iff_ne.mpr same]
      rw [kept, ← ih bindings, bindAll, List.foldl_cons, bound]
      rfl
    | some more =>
      have grown : more.get? name = (bindings.get? name).or ([(other, value)].lookup name) := by
        rw [get?, entries_of_bind? bound, List.lookup_append]
        rfl
      rw [← grown, ← ih more, bindAll, List.foldl_cons, bound]
      rfl

namespace Indexed

theorem bind_refused {table : Indexed} {name : String} {value : Value} {error : RuntimeError}
    (failed : (table.bind name value).1 = .error error) :
    error = .alreadyBound name ∧ (table.bind name value).2 = table := by
  by_cases bound : table.index.contains name = true
  next =>
    rw [bind, if_pos bound] at failed ⊢
    exact ⟨(Except.error.inj failed).symm, rfl⟩
  next =>
    rw [bind, if_neg bound] at failed
    cases failed

structure Mirrors (table : Indexed) (bindings : Bindings) : Prop where
  entries : table.entries.toList = bindings.entries
  indexed : ∀ (name : String) (position : Nat), table.index[name]? = some position ↔
    ∃ value, table.entries[position]? = some (name, value)

namespace Mirrors

variable {table : Indexed} {bindings : Bindings} {name : String}

theorem empty : Indexed.empty.Mirrors ∅ where
  entries := rfl
  indexed := by simp [Indexed.empty]

theorem contains_iff (mirrors : table.Mirrors bindings) :
    table.contains name = true ↔ name ∈ bindings.names := by
  rw [contains, Std.HashMap.contains_eq_isSome_getElem?, Option.isSome_iff_exists, names,
    ← mirrors.entries, List.mem_map]
  simp only [mirrors.indexed, ← Array.getElem?_toList]
  constructor
  next =>
    rintro ⟨position, value, here⟩
    exact ⟨(name, value), List.mem_of_getElem? here, rfl⟩
  next =>
    rintro ⟨⟨_, value⟩, member, rfl⟩
    obtain ⟨position, here⟩ := List.mem_iff_getElem?.mp member
    exact ⟨position, value, here⟩

theorem get?_eq (mirrors : table.Mirrors bindings) :
    table.get? name = some (bindings.get? name) := by
  unfold Indexed.get?
  split
  next missing =>
    have unbound : name ∉ bindings.names := by
      rw [← mirrors.contains_iff, contains, Std.HashMap.contains_eq_isSome_getElem?, missing]
      simp
    rw [get?_eq_none_iff.mpr unbound]
  next position found =>
    obtain ⟨value, here⟩ := (mirrors.indexed name position).mp found
    have member : (name, value) ∈ bindings.entries := by
      rw [← mirrors.entries]
      exact List.mem_of_getElem? (Array.getElem?_toList.trans here)
    have bound : bindings.get? name = some value :=
      (lookup_eq_some_iff_mem bindings.distinct).mpr member
    rw [here, bound, Option.map_some]

theorem bind_bound (mirrors : table.Mirrors bindings) (value : Value)
    (bound : name ∈ bindings.names) :
    bindings.bind? name value = none ∧
      table.bind name value = (.error (.alreadyBound name), table) :=
  ⟨bind?_eq_none_iff.mpr bound, if_pos (mirrors.contains_iff.mpr bound)⟩

theorem bind_fresh (mirrors : table.Mirrors bindings) (value : Value)
    (fresh : name ∉ bindings.names) :
    ∃ more later, bindings.bind? name value = some more ∧
      table.bind name value = (.ok (), later) ∧ later.Mirrors more := by
  obtain ⟨more, done⟩ := Option.ne_none_iff_exists'.mp (mt bind?_eq_none_iff.mp fresh)
  have unbound : ¬ table.index.contains name = true := mt mirrors.contains_iff.mp fresh
  refine ⟨more, _, done, if_neg unbound, ?_, ?_⟩
  next => rw [Array.toList_push, mirrors.entries, entries_of_bind? done]
  next =>
    intro other position
    dsimp only
    rw [Std.HashMap.getElem?_insert, Array.getElem?_push]
    by_cases same : name = other
    next =>
      subst same
      simp only [beq_self_eq_true, if_true, Option.some.injEq]
      constructor
      next =>
        rintro rfl
        exact ⟨value, if_pos rfl⟩
      next =>
        rintro ⟨value', here⟩
        split at here
        next last => exact last.symm
        next =>
          have found := (mirrors.indexed name position).mpr ⟨value', here⟩
          rw [Std.HashMap.contains_eq_isSome_getElem?, found] at unbound
          exact absurd rfl unbound
    next =>
      simp only [beq_iff_eq, if_neg same, mirrors.indexed]
      split
      next last =>
        have none : table.entries[position]? = none := by simp [last]
        simp [none, same]
      next => rfl

theorem bindAll (mirrors : table.Mirrors bindings) (binds : List (String × Value)) :
    (table.bindAll binds).Mirrors (bindings.bindAll binds) ∧
      (bindings.bindAll binds).entries = bindings.entries ++ table.successes binds := by
  induction binds generalizing table bindings with
  | nil => exact ⟨mirrors, (List.append_nil _).symm⟩
  | cons bind rest ih =>
    obtain ⟨name, value⟩ := bind
    by_cases bound : name ∈ bindings.names
    next =>
      obtain ⟨refused, unchanged⟩ := mirrors.bind_bound value bound
      simp only [Indexed.bindAll, Bindings.bindAll, successes, List.foldl_cons, refused, unchanged,
        Option.getD_none]
      exact ih mirrors
    next =>
      obtain ⟨more, later, done, grown, mirrors'⟩ := mirrors.bind_fresh value bound
      simp only [Indexed.bindAll, Bindings.bindAll, successes, List.foldl_cons, done, grown,
        Option.getD_some]
      obtain ⟨kept, rows⟩ := ih mirrors'
      refine ⟨kept, rows.trans ?_⟩
      rw [entries_of_bind? done, List.append_assoc, List.singleton_append]

end Mirrors

structure Tabulates (table : Indexed) (binds : List (String × Value)) : Prop where
  indexed : ∀ (name : String) (position : Nat), table.index[name]? = some position ↔
    ∃ value, table.entries[position]? = some (name, value)
  distinct : (table.entries.toList.map Prod.fst).Nodup
  refuses : ∀ name value, (∃ error, (table.bind name value).1 = .error error) ↔
    name ∈ table.entries.toList.map Prod.fst
  refused : ∀ name value error, (table.bind name value).1 = .error error →
    error = .alreadyBound name ∧ (table.bind name value).2 = table
  tried : ∀ name, table.get? name = some (binds.lookup name)
  first : ∀ name, table.get? name = some ((empty.successes binds).lookup name)
  lasting : ∀ name value later, table.get? name = some (some value) →
    (table.bindAll later).get? name = some (some value)
  contains : ∀ name, table.contains name = true ↔ ∃ value, table.get? name = some (some value)
  rows : table.entries.toList = empty.successes binds
  count : table.size = (empty.successes binds).length
  mirrors : table.Mirrors ((∅ : Bindings).bindAll binds)

/-- Whatever is bound, in whatever order and however often, the index leads from every name to the
one entry that has it and from nothing else to anywhere. A bind is refused exactly if its name has
an entry, and then changes nothing; the first value that was bound to a name is its value from then
on, and the entries are the binds that succeeded, in their order. So a table answers as the bindings
do that are searched. -/
theorem bindAll_tabulates (binds : List (String × Value)) :
    (empty.bindAll binds).Tabulates binds := by
  obtain ⟨mirrors, rows⟩ := Mirrors.empty.bindAll binds
  have rows' : (empty.bindAll binds).entries.toList = empty.successes binds :=
    mirrors.entries.trans rows
  refine ⟨mirrors.indexed, ?distinct, ?refuses, fun _ _ _ => bind_refused, ?tried, ?first,
    ?lasting, ?contains, rows', ?count, mirrors⟩
  case distinct =>
    rw [mirrors.entries]
    exact Bindings.distinct _
  case refuses =>
    intro name value
    rw [mirrors.entries]
    change _ ↔ name ∈ ((∅ : Bindings).bindAll binds).names
    by_cases bound : name ∈ ((∅ : Bindings).bindAll binds).names
    next => simp [bound, (mirrors.bind_bound value bound).2]
    next =>
      obtain ⟨more, later, -, done, -⟩ := mirrors.bind_fresh value bound
      simp [bound, done]
  case tried =>
    intro name
    rw [mirrors.get?_eq, get?_bindAll]
    rfl
  case first =>
    intro name
    rw [mirrors.get?_eq, Bindings.get?, rows]
    rfl
  case lasting =>
    intro name value later found
    rw [mirrors.get?_eq, Option.some.injEq] at found
    rw [(mirrors.bindAll later).1.get?_eq, get?_bindAll, found, Option.some_or]
  case contains =>
    intro name
    rw [mirrors.contains_iff, mirrors.get?_eq, ← not_iff_not, ← get?_eq_none_iff]
    cases ((∅ : Bindings).bindAll binds).get? name <;> simp
  case count => rw [size, ← Array.length_toList, rows']

end Indexed

end Runbook.Bindings
