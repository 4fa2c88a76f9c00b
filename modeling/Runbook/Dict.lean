/-!
Dictionaries: finite maps whose entries stand in ascending key order. Two dictionaries are equal
exactly when their entry lists are, and every entry list is the only one with its contents.
-/

set_option autoImplicit false

namespace Runbook

structure Dict (κ : Type) [Ord κ] (α : Type) where
  entries : List (κ × α)
  ascending : entries.Pairwise (fun earlier later => compare earlier.1 later.1 = .lt)

namespace Dict

section Entries

variable {κ α : Type} [Ord κ]

def find (key : κ) : List (κ × α) → Option α
  | [] => none
  | (name, value) :: rest => if compare key name = .eq then some value else find key rest

def put (key : κ) (value : α) : List (κ × α) → List (κ × α)
  | [] => [(key, value)]
  | (name, old) :: rest =>
    match compare key name with
    | .lt => (key, value) :: (name, old) :: rest
    | .eq => (key, value) :: rest
    | .gt => (name, old) :: put key value rest

theorem mem_put {key : κ} {value : α} {list : List (κ × α)} {entry : κ × α}
    (member : entry ∈ put key value list) : entry = (key, value) ∨ entry ∈ list := by
  induction list with
  | nil => simpa [put] using member
  | cons head rest ih =>
    obtain ⟨name, old⟩ := head
    simp only [put] at member
    split at member <;> simp only [List.mem_cons] at member ⊢
    · exact member
    · rcases member with same | inside
      · exact .inl same
      · exact .inr (.inr inside)
    · rcases member with same | inside
      · exact .inr (.inl same)
      · exact (ih inside).imp id .inr

theorem ascending_put [Std.TransOrd κ] [Std.LawfulEqOrd κ] (key : κ) (value : α)
    {list : List (κ × α)}
    (ascending : list.Pairwise (fun earlier later => compare earlier.1 later.1 = .lt)) :
    (put key value list).Pairwise (fun earlier later => compare earlier.1 later.1 = .lt) := by
  induction list with
  | nil => simp [put]
  | cons head rest ih =>
    obtain ⟨name, old⟩ := head
    obtain ⟨below, tail⟩ := List.pairwise_cons.mp ascending
    simp only [put]
    split
    next less =>
      refine List.pairwise_cons.mpr ⟨?_, ascending⟩
      intro entry member
      rcases List.mem_cons.mp member with same | inside
      · simpa [same] using less
      · exact Std.TransCmp.lt_trans less (below entry inside)
    next same =>
      have equal : key = name := Std.LawfulEqOrd.eq_of_compare same
      exact List.pairwise_cons.mpr ⟨fun entry member => equal ▸ below entry member, tail⟩
    next greater =>
      refine List.pairwise_cons.mpr ⟨?_, ih tail⟩
      intro entry member
      rcases mem_put member with same | inside
      · subst same
        exact Std.OrientedCmp.gt_iff_lt.mp greater
      · exact below entry inside

theorem mem_of_find {key : κ} {value : α} {list : List (κ × α)}
    (found : find key list = some value) : ∃ name, (name, value) ∈ list := by
  induction list with
  | nil => cases found
  | cons head rest ih =>
    rw [find] at found
    split at found
    · exact ⟨head.1, Option.some.inj found ▸ List.mem_cons_self⟩
    · obtain ⟨name, member⟩ := ih found
      exact ⟨name, List.mem_cons_of_mem _ member⟩

def walk {α β σ : Type} (step : σ → α → β × σ) : σ → List (κ × α) → List (κ × β) × σ
  | state, [] => ([], state)
  | state, (key, value) :: rest =>
    let changed := step state value
    let others := walk step changed.2 rest
    ((key, changed.1) :: others.1, others.2)

omit [Ord κ] in
theorem keys_walk {β σ : Type} (step : σ → α → β × σ) (state : σ) (list : List (κ × α)) :
    (walk step state list).1.map Prod.fst = list.map Prod.fst := by
  induction list generalizing state with
  | nil => rfl
  | cons head rest ih => simp [walk, ih]

def tryEach {α β ε : Type} (change : κ → α → Except ε β) :
    List (κ × α) → Except ε (List (κ × β))
  | [] => .ok []
  | (key, value) :: rest =>
    match change key value with
    | .error failure => .error failure
    | .ok changed => (tryEach change rest).map ((key, changed) :: ·)

omit [Ord κ] in
theorem keys_tryEach {β ε : Type} {change : κ → α → Except ε β} {list : List (κ × α)}
    {changed : List (κ × β)} (done : tryEach change list = .ok changed) :
    changed.map Prod.fst = list.map Prod.fst := by
  induction list generalizing changed with
  | nil => simp_all [tryEach]
  | cons head rest ih =>
    simp only [tryEach] at done
    split at done
    · simp at done
    · cases inner : tryEach change rest with
      | error failure => simp [inner, Except.map] at done
      | ok others =>
        simp only [inner, Except.map, Except.ok.injEq] at done
        simp [← done, ih inner]

omit [Ord κ] in
theorem tryEach_error_iff {β ε : Type} {change : κ → α → Except ε β} {fault? : κ → α → Option ε}
    (agree : ∀ key value failure, change key value = .error failure ↔
      fault? key value = some failure) {list : List (κ × α)} {failure : ε} :
    tryEach change list = .error failure ↔
      list.findSome? (fun entry => fault? entry.1 entry.2) = some failure := by
  induction list with
  | nil => simp [tryEach]
  | cons head rest ih =>
    have here := agree head.1 head.2
    simp only [tryEach, List.findSome?_cons]
    cases result : change head.1 head.2 with
    | error first =>
      rw [(here first).mp result]
      simp
    | ok changed =>
      have passed : fault? head.1 head.2 = none := by
        refine Option.eq_none_iff_forall_ne_some.mpr fun found same => ?_
        simp [(here found).mpr same] at result
      rw [passed, ← ih]
      cases tryEach change rest <;> simp [Except.map]

end Entries

variable {κ α β : Type} [Ord κ]

theorem ext {first second : Dict κ α} (same : first.entries = second.entries) :
    first = second := by
  cases first; cases second; cases same; rfl

instance [DecidableEq κ] [DecidableEq α] : DecidableEq (Dict κ α) := fun first second =>
  if same : first.entries = second.entries then isTrue (ext same)
  else isFalse (fun equal => same (congrArg entries equal))

def empty : Dict κ α := ⟨[], .nil⟩

instance : EmptyCollection (Dict κ α) := ⟨empty⟩

instance : Inhabited (Dict κ α) := ⟨empty⟩

@[simp] theorem entries_empty : (∅ : Dict κ α).entries = [] := rfl

def get? (dict : Dict κ α) (key : κ) : Option α := find key dict.entries

def contains (dict : Dict κ α) (key : κ) : Bool := (dict.get? key).isSome

def keys (dict : Dict κ α) : List κ := dict.entries.map Prod.fst

def values (dict : Dict κ α) : List α := dict.entries.map Prod.snd

def isEmpty (dict : Dict κ α) : Bool := dict.entries.isEmpty

def size (dict : Dict κ α) : Nat := dict.entries.length

def insert [Std.TransOrd κ] [Std.LawfulEqOrd κ] (dict : Dict κ α) (key : κ) (value : α) :
    Dict κ α :=
  ⟨put key value dict.entries, ascending_put key value dict.ascending⟩

def ofList [Std.TransOrd κ] [Std.LawfulEqOrd κ] (list : List (κ × α)) : Dict κ α :=
  list.foldl (fun dict entry => dict.insert entry.1 entry.2) ∅

def map (change : α → β) (dict : Dict κ α) : Dict κ β where
  entries := dict.entries.map fun entry => (entry.1, change entry.2)
  ascending := List.pairwise_map.mpr dict.ascending

theorem ascending_keys {list : List (κ × α)} :
    list.Pairwise (fun earlier later => compare earlier.1 later.1 = .lt) ↔
      (list.map Prod.fst).Pairwise (fun earlier later => compare earlier later = .lt) := by
  rw [List.pairwise_map]

def mapState {σ : Type} (step : σ → α → β × σ) (state : σ) (dict : Dict κ α) : Dict κ β × σ :=
  let walked := walk step state dict.entries
  have ascending := ascending_keys.mpr
    (keys_walk step state dict.entries ▸ ascending_keys.mp dict.ascending)
  (⟨walked.1, ascending⟩, walked.2)

def tryMap {ε : Type} (change : κ → α → Except ε β) (dict : Dict κ α) : Except ε (Dict κ β) :=
  match done : tryEach change dict.entries with
  | .error failure => .error failure
  | .ok list => .ok ⟨list, ascending_keys.mpr (keys_tryEach done ▸ ascending_keys.mp dict.ascending)⟩

theorem tryMap_eq_error_iff {ε : Type} {change : κ → α → Except ε β} {dict : Dict κ α}
    {failure : ε} :
    dict.tryMap change = .error failure ↔ tryEach change dict.entries = .error failure := by
  unfold tryMap
  split <;> simp_all

def filter (keep : κ → α → Bool) (dict : Dict κ α) : Dict κ α where
  entries := dict.entries.filter fun entry => keep entry.1 entry.2
  ascending := dict.ascending.filter _

@[simp] theorem get?_empty (key : κ) : (∅ : Dict κ α).get? key = none := rfl

theorem get?_insert_self [Std.TransOrd κ] [Std.LawfulEqOrd κ] (dict : Dict κ α) (key : κ)
    (value : α) : (dict.insert key value).get? key = some value := by
  obtain ⟨list, _⟩ := dict
  simp only [insert, get?]
  induction list with
  | nil => simp [put, find]
  | cons head rest ih =>
    obtain ⟨name, old⟩ := head
    rename_i ascending
    simp only [put]
    split
    · simp [find]
    · simp [find]
    · next greater => simpa [find, greater] using ih (List.pairwise_cons.mp ascending).2

theorem get?_insert_of_ne [Std.TransOrd κ] [Std.LawfulEqOrd κ] (dict : Dict κ α) {key other : κ}
    (value : α) (distinct : other ≠ key) : (dict.insert key value).get? other = dict.get? other := by
  have differs : compare other key ≠ .eq := fun same => distinct (Std.LawfulEqOrd.eq_of_compare same)
  obtain ⟨list, _⟩ := dict
  simp only [insert, get?]
  induction list with
  | nil => simp [put, find, differs]
  | cons head rest ih =>
    obtain ⟨name, old⟩ := head
    rename_i ascending
    simp only [put]
    split
    · simp [find, differs]
    · next same =>
      have equal : key = name := Std.LawfulEqOrd.eq_of_compare same
      simp [find, ← equal, differs]
    · simp only [find]
      rw [ih (List.pairwise_cons.mp ascending).2]

end Dict

end Runbook
