import Runbook.Value

set_option autoImplicit false

namespace Runbook

structure Bindings where
  entries : List (String × Value)
  distinct : (entries.map Prod.fst).Nodup

namespace Bindings

def empty : Bindings := ⟨[], by simp⟩

instance : EmptyCollection Bindings := ⟨empty⟩

instance : Inhabited Bindings := ⟨empty⟩

def names (bindings : Bindings) : List String := bindings.entries.map Prod.fst

def get? (bindings : Bindings) (name : String) : Option Value := bindings.entries.lookup name

def contains (bindings : Bindings) (name : String) : Bool := bindings.names.contains name

def size (bindings : Bindings) : Nat := bindings.entries.length

theorem distinct_append {entries : List (String × Value)} {name : String} (value : Value)
    (distinct : (entries.map Prod.fst).Nodup) (fresh : name ∉ entries.map Prod.fst) :
    ((entries ++ [(name, value)]).map Prod.fst).Nodup := by
  simp only [List.map_append, List.map_cons, List.map_nil]
  refine List.nodup_append.mpr ⟨distinct, by simp, ?_⟩
  intro earlier member last single same
  exact fresh (List.mem_singleton.mp single ▸ same ▸ member)

def bind? (bindings : Bindings) (name : String) (value : Value) : Option Bindings :=
  if fresh : name ∈ bindings.names then none
  else some ⟨bindings.entries ++ [(name, value)], distinct_append value bindings.distinct fresh⟩

end Bindings

end Runbook
