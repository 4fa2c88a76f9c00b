import Runbook.Dict
import Runbook.Value
import Runbook.Text.Class

set_option autoImplicit false

namespace Runbook

abbrev Parameters := Dict String Value

inductive BackendError where
  | unsupported (action kind : String)
  | missingParameter (name : String)
  | invalidParameter (name reason : String)
  | invalidResult (reason : String)
  | provider (reason : String)
deriving DecidableEq

def noFunctionMessage (action kind : String) : String :=
  "no driver function for '" ++ action ++ " " ++ kind ++ "'"

def BackendError.message : BackendError → String
  | .unsupported action kind => noFunctionMessage action kind
  | .missingParameter name => "missing required parameter '" ++ name ++ "'"
  | .invalidParameter name reason => "invalid parameter '" ++ name ++ "': " ++ reason
  | .invalidResult reason => "invalid result: " ++ reason
  | .provider reason => reason

structure Reply where
  result : Except BackendError Value
  cancels : Bool

abbrev Handler (σ : Type) := Parameters → σ → Reply × σ

structure Backend (σ : Type) where
  lookup : (action kind : String) → σ → Handler σ × σ

namespace Handler

variable {σ : Type}

def answer (result : Except BackendError Value) : Handler σ := fun _ state => (⟨result, false⟩, state)

def unsupported (action kind : String) : Handler σ := answer (.error (.unsupported action kind))

end Handler

namespace Parameters

def require (parameters : Parameters) (name : String) : Except BackendError Value :=
  match parameters.get? name with
  | some value => .ok value
  | none => .error (.missingParameter name)

def toText (parameters : Parameters) : String :=
  Text.join " " (parameters.entries.map fun entry => entry.1 ++ "=" ++ entry.2.toText)

end Parameters

end Runbook
