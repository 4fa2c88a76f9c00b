import Runbook.Text.Class

set_option autoImplicit false

namespace Runbook

structure Span where
  start : Nat
  stop : Nat
deriving DecidableEq

namespace Script

inductive Role where
  | action
  | kind
deriving DecidableEq

def Role.phrase : Role → String
  | .action => "an action"
  | .kind => "a resource kind"

inductive Cause where
  | unterminatedText
  | badCode
  | unknownEscape (c : Char)
  | unterminatedHole
  | emptyHole
  | strayBrace
  | badName
  | misplaced (role : Role)
  | missing (role : Role)
  | parameterExpected
  | valueMissing (parameter : String)
  | strayEquals
  | repeated (parameter : String)
deriving DecidableEq

def Cause.message : Cause → String
  | .unterminatedText => "unterminated string literal"
  | .badCode => "invalid unicode escape, expected '\\u\x7bhex\x7d'"
  | .unknownEscape c => "unknown escape sequence '\\" ++ String.ofList [c] ++ "'"
  | .unterminatedHole => "unterminated hole"
  | .emptyHole => "hole has an empty question key"
  | .strayBrace => "unexpected '\x7d'"
  | .badName => "invalid identifier on the left of '='"
  | .misplaced role | .missing role => "expected " ++ role.phrase
  | .parameterExpected => "expected a parameter name"
  | .valueMissing parameter => "parameter '" ++ parameter ++ "' has no value"
  | .strayEquals => "unexpected '='"
  | .repeated parameter => "parameter '" ++ parameter ++ "' given more than once"

def Cause.notes : Cause → List String
  | .unterminatedHole => ["holes are written as \x7bquestion.key\x7d"]
  | .badName => ["identifiers start with a letter or '_'"]
  | .missing _ => ["statements are written as: [name =] action entity key=value ..."]
  | _ => []

structure Fault where
  cause : Cause
  span : Span
deriving DecidableEq

end Script

end Runbook
