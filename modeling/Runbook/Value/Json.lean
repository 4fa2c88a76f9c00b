import Runbook.Json.Read
import Runbook.Number.Stepwise
import Runbook.Value

set_option autoImplicit false

namespace Runbook.Value

def toJson : Value → Json
  | .text content => .text content
  | .number n => .number n
  | .flag on => .bool on
  | .reference name => .text name

def ofJson? : Json → Option Value
  | .text content => some (.text content)
  | .number n => some (.number n)
  | .bool on => some (.flag on)
  | _ => none

inductive JsonError where
  | malformed
  | otherShape
deriving DecidableEq

/-- Reads a JSON text as a value. The shape of the value is looked at before what follows it. -/
def readJsonBy (numeral? : List Char → Option Number) (text : String) : Except JsonError Value :=
  match Json.read [] (.value false) (Json.tokens numeral? text.toList) with
  | none => .error .malformed
  | some (json, rest) =>
    match ofJson? json with
    | none => .error .otherShape
    | some value => if rest.isEmpty then .ok value else .error .malformed

def readJson (text : String) : Except JsonError Value := readJsonBy Number.ofLeading? text

end Runbook.Value
