import Mathlib.Init
import Runbook.Bindings
import Runbook.Run.Error

set_option autoImplicit false

namespace Runbook.Bindings

structure Indexed where
  entries : Array (String × Value)
  index : Std.HashMap String Nat

namespace Indexed

def empty : Indexed := ⟨#[], ∅⟩

def bind (table : Indexed) (name : String) (value : Value) :
    Except RuntimeError Unit × Indexed :=
  if table.index.contains name then (.error (.alreadyBound name), table)
  else (.ok (), ⟨table.entries.push (name, value), table.index.insert name table.entries.size⟩)

def get? (table : Indexed) (name : String) : Option (Option Value) :=
  match table.index[name]? with
  | none => some none
  | some position => table.entries[position]?.map fun entry => some entry.2

def contains (table : Indexed) (name : String) : Bool := table.index.contains name

def size (table : Indexed) : Nat := table.entries.size

def bindAll (table : Indexed) (binds : List (String × Value)) : Indexed :=
  binds.foldl (fun table bind => (table.bind bind.1 bind.2).2) table

def successes : Indexed → List (String × Value) → List (String × Value)
  | _, [] => []
  | table, (name, value) :: rest =>
    match table.bind name value with
    | (.ok (), later) => (name, value) :: later.successes rest
    | (.error _, later) => later.successes rest

end Indexed

end Runbook.Bindings
