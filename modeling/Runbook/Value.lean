import Runbook.Number.Layout
import Runbook.Number.Numeral

set_option autoImplicit false

namespace Runbook

inductive Value where
  | text (content : String)
  | number (n : Number)
  | flag (on : Bool)
  | reference (name : String)
deriving DecidableEq

namespace Value

/-- The most digits that a whole number may have for every such number to be represented. -/
def exactDigits : Nat := 15

def numberOfLiteral? (chars : List Char) : Option Number :=
  match Numeral.ofChars? chars with
  | none => none
  | some numeral =>
    if numeral.isWhole && exactDigits < numeral.whole.length then none
    else Number.ofCanonical? chars

def ofChars (chars : List Char) : Value :=
  match chars with
  | '$' :: name =>
    if Text.isName name then .reference (String.ofList name) else .text (String.ofList chars)
  | _ =>
    match numberOfLiteral? chars with
    | some n => .number n
    | none =>
      if chars = "true".toList then .flag true
      else if chars = "false".toList then .flag false
      else .text (String.ofList chars)

def ofLiteral (literal : String) : Value := ofChars literal.toList

def ofInt (whole : Int) : Value := .number (Number.ofInt whole)

def number? : Value → Option Number
  | .number n => some n
  | _ => none

def isText : Value → Bool
  | .text _ => true
  | _ => false

def isReference : Value → Bool
  | .reference _ => true
  | _ => false

def toText : Value → String
  | .text content => content
  | .number n => n.toText
  | .flag on => if on then "true" else "false"
  | .reference name => "$" ++ name

instance : ToString Value := ⟨toText⟩

instance : Inhabited Value := ⟨.text ""⟩

def same : Value → Value → Bool
  | .text first, .text second => first == second
  | .number first, .number second => first.same second
  | .flag first, .flag second => first == second
  | .reference first, .reference second => first == second
  | _, _ => false

end Value

end Runbook
