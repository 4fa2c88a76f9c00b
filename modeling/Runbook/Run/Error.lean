import Runbook.Backend.Basic
import Runbook.Script.Statement

set_option autoImplicit false

namespace Runbook

inductive RuntimeError where
  | unknownReference (name : String)
  | dispatchNotFound (action kind : String)
  | execution (failure : BackendError)
  | unresolvedHole (parameter key : String)
  | alreadyBound (name : String)
  | cancelled
deriving DecidableEq

namespace RuntimeError

/-- A backend that has no function for an operation has not been run at all. -/
def ofBackend : BackendError → RuntimeError
  | .unsupported action kind => .dispatchNotFound action kind
  | failure => .execution failure

def message : RuntimeError → String
  | .unknownReference name =>
    "unknown reference: $" ++ name ++ " is not bound by an earlier statement"
  | .dispatchNotFound action kind => noFunctionMessage action kind
  | .execution failure => "execution failed: " ++ failure.message
  | .unresolvedHole parameter key =>
    "unresolved hole: parameter '" ++ parameter ++ "' still waits for \x7b" ++ key ++ "\x7d"
  | .alreadyBound name => "identifier '" ++ name ++ "' is already bound"
  | .cancelled => "run cancelled"

def root? : RuntimeError → Option BackendError
  | .execution failure => some failure
  | _ => none

end RuntimeError

structure Place where
  index : Nat
  action : String
  kind : String
  name? : Option String
deriving DecidableEq

namespace Place

def of (index : Nat) (statement : Statement) : Place :=
  ⟨index, statement.call.action, statement.call.kind, statement.name?⟩

def toText (place : Place) : String :=
  "statement " ++ toString (place.index + 1) ++ " (" ++
    (match place.name? with
      | some name => name ++ " = "
      | none => "") ++
    place.action ++ " " ++ place.kind ++ ")"

end Place

structure RunError where
  cause : RuntimeError
  place? : Option Place
  span? : Option Span
  file : Nat
deriving DecidableEq

def RunError.message (error : RunError) : String :=
  match error.place? with
  | some place => place.toText ++ ": " ++ error.cause.message
  | none => error.cause.message

end Runbook
