import Runbook.Bindings

set_option autoImplicit false

namespace Runbook

theorem lookup_eq_some_iff_mem {α : Type} {entries : List (String × α)}
    (distinct : (entries.map Prod.fst).Nodup) {name : String} {value : α} :
    entries.lookup name = some value ↔ (name, value) ∈ entries := by
  rw [List.lookup_eq_some_iff]
  constructor
  next =>
    rintro ⟨before, after, rfl, -⟩
    simp
  next =>
    intro member
    obtain ⟨before, after, rfl⟩ := List.append_of_mem member
    refine ⟨before, after, rfl, fun entry inside => ?_⟩
    rw [List.map_append, List.nodup_append] at distinct
    exact bne_iff_ne.mpr (distinct.2.2 _ (List.mem_map_of_mem inside) _ List.mem_cons_self).symm

theorem lookup_eq_none_iff {α : Type} {entries : List (String × α)} {name : String} :
    entries.lookup name = none ↔ name ∉ entries.map Prod.fst := by
  rw [List.lookup_eq_none_iff, List.mem_map]
  grind

namespace Bindings

theorem contains_iff {bindings : Bindings} {name : String} :
    bindings.contains name = true ↔ name ∈ bindings.names := by
  simp [contains]

theorem bind?_eq_none_iff {bindings : Bindings} {name : String} {value : Value} :
    bindings.bind? name value = none ↔ name ∈ bindings.names := by
  by_cases bound : name ∈ bindings.names <;> simp [bind?, bound]

theorem entries_of_bind? {bindings more : Bindings} {name : String} {value : Value}
    (done : bindings.bind? name value = some more) :
    more.entries = bindings.entries ++ [(name, value)] := by
  by_cases bound : name ∈ bindings.names
  next => simp [bind?, bound] at done
  next =>
    simp only [bind?, bound, dif_neg, not_false_eq_true, Option.some.injEq] at done
    rw [← done]

theorem get?_eq_none_iff {bindings : Bindings} {name : String} :
    bindings.get? name = none ↔ name ∉ bindings.names :=
  lookup_eq_none_iff

end Bindings

end Runbook
