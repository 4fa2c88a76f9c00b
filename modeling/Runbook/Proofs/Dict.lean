import Runbook.Dict
import Mathlib.Data.List.Induction

set_option autoImplicit false

namespace Runbook.Dict

section Entries

variable {κ α β ε : Type}

theorem tryEach_cons_ok {change : κ → α → Except ε β} {key : κ} {value : α}
    {rest : List (κ × α)} {changed : List (κ × β)}
    (done : tryEach change ((key, value) :: rest) = .ok changed) :
    ∃ after others, change key value = .ok after ∧ tryEach change rest = .ok others ∧
      changed = (key, after) :: others := by
  simp only [tryEach] at done
  split at done
  next => simp at done
  next after here =>
    cases inner : tryEach change rest with
    | error failure => simp [inner, Except.map] at done
    | ok others =>
      exact ⟨after, others, here, rfl, by simpa [inner, Except.map, eq_comm] using done⟩

theorem mem_tryEach {change : κ → α → Except ε β} {list : List (κ × α)}
    {changed : List (κ × β)} (done : tryEach change list = .ok changed) {entry : κ × β}
    (member : entry ∈ changed) :
    ∃ value, (entry.1, value) ∈ list ∧ change entry.1 value = .ok entry.2 := by
  induction list generalizing changed with
  | nil =>
    obtain rfl : [] = changed := by simpa [tryEach] using done
    simp at member
  | cons head rest ih =>
    obtain ⟨after, others, here, inner, rfl⟩ := tryEach_cons_ok done
    rcases List.mem_cons.mp member with rfl | inside
    · exact ⟨head.2, List.mem_cons_self, here⟩
    · obtain ⟨value, among, changes⟩ := ih inner inside
      exact ⟨value, List.mem_cons_of_mem _ among, changes⟩

theorem find_tryEach [Ord κ] [Std.LawfulEqOrd κ] {change : κ → α → Except ε β}
    {list : List (κ × α)} {changed : List (κ × β)} (done : tryEach change list = .ok changed)
    {key : κ} {value : α} (found : find key list = some value) :
    ∃ after, find key changed = some after ∧ change key value = .ok after := by
  induction list generalizing changed with
  | nil => simp [find] at found
  | cons head rest ih =>
    obtain ⟨after, others, here, inner, rfl⟩ := tryEach_cons_ok done
    simp only [find] at found ⊢
    split at found
    next same =>
      obtain rfl : key = head.1 := Std.LawfulEqOrd.eq_of_compare same
      obtain rfl : head.2 = value := by simpa using found
      exact ⟨after, if_pos same, here⟩
    next other => simpa only [if_neg other] using ih inner found

theorem tryEach_eq_map {change : κ → α → Except ε β} {pure : α → β} {list : List (κ × α)}
    {changed : List (κ × β)} (done : tryEach change list = .ok changed)
    (agree : ∀ key value after, change key value = .ok after → after = pure value) :
    changed = list.map fun entry => (entry.1, pure entry.2) := by
  induction list generalizing changed with
  | nil => simpa [tryEach, eq_comm] using done
  | cons head rest ih =>
    obtain ⟨after, others, here, inner, rfl⟩ := tryEach_cons_ok done
    rw [List.map_cons, ← ih inner, agree _ _ _ here]

end Entries

variable {κ α β ε : Type} [Ord κ]

theorem entries_tryMap {change : κ → α → Except ε β} {dict : Dict κ α} {changed : Dict κ β}
    (done : dict.tryMap change = .ok changed) :
    tryEach change dict.entries = .ok changed.entries := by
  unfold tryMap at done
  split at done
  next => simp at done
  next list inner =>
    obtain rfl : _ = changed := by simpa using done
    exact inner

def mapKeyed (change : κ → α → β) (dict : Dict κ α) : Dict κ β where
  entries := dict.entries.map fun entry => (entry.1, change entry.1 entry.2)
  ascending := List.pairwise_map.mpr dict.ascending

@[simp] theorem keys_mapKeyed (change : κ → α → β) (dict : Dict κ α) :
    (dict.mapKeyed change).keys = dict.keys := by
  simp [mapKeyed, keys, Function.comp_def]

theorem get?_mapKeyed [Std.LawfulEqOrd κ] (change : κ → α → β) (dict : Dict κ α) (key : κ) :
    (dict.mapKeyed change).get? key = (dict.get? key).map (change key) := by
  obtain ⟨list, ascending⟩ := dict
  simp only [mapKeyed, get?]
  clear ascending
  induction list with
  | nil => rfl
  | cons head rest ih =>
    simp only [List.map_cons, find]
    split
    next same =>
      obtain rfl : key = head.1 := Std.LawfulEqOrd.eq_of_compare same
      rfl
    next => exact ih

theorem distinct_keys [Std.ReflOrd κ] (dict : Dict κ α) : dict.keys.Nodup := by
  refine (ascending_keys.mp dict.ascending).imp fun less same => ?_
  subst same
  simp [Std.ReflOrd.compare_self] at less

theorem mem_entries_iff [Std.TransOrd κ] [Std.LawfulEqOrd κ] {dict : Dict κ α} {key : κ}
    {value : α} : (key, value) ∈ dict.entries ↔ dict.get? key = some value := by
  obtain ⟨list, ascending⟩ := dict
  simp only [get?]
  induction list with
  | nil => simp [find]
  | cons head rest ih =>
    obtain ⟨below, tail⟩ := List.pairwise_cons.mp ascending
    simp only [List.mem_cons, find]
    split
    next same =>
      obtain rfl : key = head.1 := Std.LawfulEqOrd.eq_of_compare same
      have absent : (head.1, value) ∉ rest := by
        intro member
        simpa [same] using below _ member
      simp [absent, Prod.ext_iff, eq_comm]
    next other =>
      have apart : (key, value) ≠ head := by
        rintro rfl
        exact other Std.ReflOrd.compare_self
      simp [apart, ih tail]

theorem get?_filter [Std.TransOrd κ] [Std.LawfulEqOrd κ] (keep : κ → α → Bool) (dict : Dict κ α)
    (key : κ) : (dict.filter keep).get? key = (dict.get? key).filter (keep key) := by
  refine Option.ext fun value => ?_
  rw [← mem_entries_iff, filter, List.mem_filter, mem_entries_iff, Option.filter_eq_some_iff]

omit [Ord κ] in
theorem nodup_of_keys {list : List (κ × α)} (distinct : (list.map Prod.fst).Nodup) : list.Nodup :=
  (List.pairwise_map.mp distinct).imp fun apart equal => apart (congrArg Prod.fst equal)

theorem ext_get? [Std.TransOrd κ] [Std.LawfulEqOrd κ] {first second : Dict κ α}
    (same : ∀ key, first.get? key = second.get? key) : first = second := by
  have members : first.entries.Perm second.entries := by
    refine (List.perm_ext_iff_of_nodup (nodup_of_keys first.distinct_keys)
      (nodup_of_keys second.distinct_keys)).mpr fun entry => ?_
    rw [mem_entries_iff, mem_entries_iff, same]
  refine ext (members.eq_of_pairwise ?_ first.ascending second.ascending)
  intro earlier later _ _ less greater
  rw [Std.OrientedCmp.gt_of_lt less] at greater
  cases greater

section Insertion

variable [Std.TransOrd κ] [Std.LawfulEqOrd κ]

def union (first second : Dict κ α) : Dict κ α :=
  first.entries.foldr (fun entry dict => dict.insert entry.1 entry.2) second

theorem get?_union (first second : Dict κ α) (key : κ) :
    (first.union second).get? key = (first.get? key).or (second.get? key) := by
  obtain ⟨list, ascending⟩ := first
  simp only [union, get?]
  clear ascending
  induction list with
  | nil => rfl
  | cons head rest ih =>
    simp only [List.foldr_cons, find]
    split
    next same =>
      obtain rfl : key = head.1 := Std.LawfulEqOrd.eq_of_compare same
      exact get?_insert_self _ _ _
    next other =>
      have apart : key ≠ head.1 := by
        rintro rfl
        exact other Std.ReflOrd.compare_self
      exact (get?_insert_of_ne _ _ apart).trans ih

theorem ofList_concat (list : List (κ × α)) (entry : κ × α) :
    ofList (list ++ [entry]) = (ofList list).insert entry.1 entry.2 := by
  simp [ofList]

theorem get?_foldl_insert [BEq κ] [LawfulBEq κ] (list : List (κ × α)) (dict : Dict κ α) (key : κ) :
    (list.foldl (fun dict entry => dict.insert entry.1 entry.2) dict).get? key =
      (list.reverse.lookup key).or (dict.get? key) := by
  induction list using List.reverseRecOn with
  | nil => rfl
  | append_singleton list entry ih =>
    rw [List.foldl_append, List.foldl_cons, List.foldl_nil, List.reverse_append,
      List.reverse_singleton, List.singleton_append, List.lookup_cons]
    by_cases same : key = entry.1
    next => simp [same, get?_insert_self]
    next =>
      have apart : (key == entry.1) = false := by simpa using same
      simp only [get?_insert_of_ne _ _ same, ih, apart]

theorem get?_ofList_append {list more : List (κ × α)} {key : κ}
    (absent : key ∉ more.map Prod.fst) :
    (ofList (list ++ more)).get? key = (ofList list).get? key := by
  induction more using List.reverseRecOn with
  | nil => simp
  | append_singleton more entry ih =>
    obtain ⟨before, apart⟩ : key ∉ more.map Prod.fst ∧ key ≠ entry.1 := by
      simpa [not_or] using absent
    rw [← List.append_assoc, ofList_concat, get?_insert_of_ne _ _ apart, ih before]

theorem get?_ofList_eq_none_iff {list : List (κ × α)} {key : κ} :
    (ofList list).get? key = none ↔ key ∉ list.map Prod.fst := by
  induction list using List.reverseRecOn with
  | nil => simp [ofList]
  | append_singleton list entry ih =>
    rw [ofList_concat]
    by_cases same : key = entry.1
    next => simp [same, get?_insert_self]
    next => simp [get?_insert_of_ne _ _ same, ih, same]

theorem get?_ofList_iff {list : List (κ × α)} (distinct : (list.map Prod.fst).Nodup) {key : κ}
    {value : α} : (ofList list).get? key = some value ↔ (key, value) ∈ list := by
  induction list using List.reverseRecOn with
  | nil => simp [ofList]
  | append_singleton list entry ih =>
    rw [List.map_append, List.nodup_append] at distinct
    obtain ⟨before, -, apart⟩ := distinct
    have absent : entry.1 ∉ list.map Prod.fst :=
      fun member => apart _ member _ List.mem_cons_self rfl
    rw [ofList_concat]
    by_cases same : key = entry.1
    next =>
      subst same
      have elsewhere : (entry.1, value) ∉ list :=
        fun member => absent (List.mem_map.mpr ⟨_, member, rfl⟩)
      simp [get?_insert_self, elsewhere, Prod.ext_iff, eq_comm]
    next =>
      have other : (key, value) ≠ entry := fun equal => same (congrArg Prod.fst equal)
      simp [get?_insert_of_ne _ _ same, ih before, other]

theorem entries_ofList_perm {list : List (κ × α)} (distinct : (list.map Prod.fst).Nodup) :
    (ofList list).entries.Perm list := by
  refine (List.perm_ext_iff_of_nodup (nodup_of_keys (ofList list).distinct_keys)
    (nodup_of_keys distinct)).mpr fun entry => ?_
  exact mem_entries_iff.trans (get?_ofList_iff distinct)

theorem ofList_entries (dict : Dict κ α) : ofList dict.entries = dict := by
  refine ext_get? fun key => Option.ext fun value => ?_
  exact (get?_ofList_iff dict.distinct_keys).trans mem_entries_iff

theorem ofList_perm {first second : List (κ × α)} (perm : first.Perm second)
    (distinct : (first.map Prod.fst).Nodup) : ofList first = ofList second := by
  have distinct' : (second.map Prod.fst).Nodup := (perm.map Prod.fst).nodup_iff.mp distinct
  refine ext_get? fun key => Option.ext fun value => ?_
  rw [get?_ofList_iff distinct, get?_ofList_iff distinct', perm.mem_iff]

theorem mem_keys_of_get?_ofList {list : List (κ × α)} {key : κ} {value : α}
    (found : (ofList list).get? key = some value) : key ∈ list.map Prod.fst := by
  by_contra absent
  simp [get?_ofList_eq_none_iff.mpr absent] at found

end Insertion

end Runbook.Dict
