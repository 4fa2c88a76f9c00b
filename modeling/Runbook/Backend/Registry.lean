import Runbook.Backend.Basic
import Runbook.Backend.Log

set_option autoImplicit false

namespace Runbook

structure Operation where
  action : String
  kind : String
deriving DecidableEq

namespace Operation

instance : Ord Operation := ⟨compareLex (compareOn action) (compareOn kind)⟩

instance : Std.TransOrd Operation :=
  inferInstanceAs (Std.TransCmp (compareLex (compareOn action) (compareOn kind)))

instance : Std.LawfulEqOrd Operation where
  eq_of_compare := by
    rintro ⟨action, kind⟩ ⟨action', kind'⟩ same
    have both : compare action action' = .eq ∧ compare kind kind' = .eq := by
      simpa [compare, compareLex, compareOn] using same
    exact congr (congrArg Operation.mk (Std.LawfulEqOrd.eq_of_compare both.1))
      (Std.LawfulEqOrd.eq_of_compare both.2)

def toText (operation : Operation) : String := operation.action ++ " " ++ operation.kind

def trace (operation : Operation) (parameters : Parameters) (result : Except BackendError Value) :
    String :=
  operation.toText ++ " " ++ parameters.toText ++
    match result with
    | .ok value => " -> " ++ value.toText
    | .error failure => " failed: " ++ failure.message

def unsupportedTrace (operation : Operation) : String := operation.toText ++ ": unsupported"

end Operation

structure Registry (τ : Type) where
  handlers : Dict Operation (Handler τ)
  log : Log
  state : τ

namespace Registry

variable {τ : Type}

def empty (state : τ) : Registry τ := ⟨∅, .empty, state⟩

def register (registry : Registry τ) (action kind : String) (handler : Handler τ) : Registry τ :=
  { registry with handlers := registry.handlers.insert ⟨action, kind⟩ handler }

def supports (registry : Registry τ) (action kind : String) : Bool :=
  registry.handlers.contains ⟨action, kind⟩

def operations (registry : Registry τ) : List Operation := registry.handlers.keys

def install (registry : Registry τ) (sink : Sink) : Registry τ :=
  { registry with log := registry.log.install sink }

def traced (operation : Operation) (handler : Handler τ) : Handler (Registry τ) :=
  fun parameters registry =>
    -- The sink is the one installed now, not the one at the time of the lookup.
    let (reply, state) := handler parameters registry.state
    (reply,
      { registry with
        log := registry.log.line (operation.trace parameters reply.result)
        state := state })

def lookup (action kind : String) (registry : Registry τ) : Handler (Registry τ) × Registry τ :=
  let operation : Operation := ⟨action, kind⟩
  match registry.handlers.get? operation with
  | some handler => (traced operation handler, registry)
  | none =>
    (.unsupported action kind,
      { registry with log := registry.log.line operation.unsupportedTrace })

def backend : Backend (Registry τ) := ⟨lookup⟩

end Registry

end Runbook
