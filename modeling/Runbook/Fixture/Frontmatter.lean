import Runbook.Toml.Settled

set_option autoImplicit false

namespace Runbook

structure Expectations where
  description? : Option String
  failing : List String
  error? : Option String
  parseError : Bool
  unresolved? : Option (List String)
  fills : List (String × Toml)
  bindings? : Option (List (String × Toml))

inductive FrontmatterError where
  | notOpened
  | notClosed
  | badToml
deriving DecidableEq

def FrontmatterError.message : FrontmatterError → String
  | .notOpened => "missing opening --- frontmatter delimiter"
  | .notClosed => "missing closing --- frontmatter delimiter"
  | .badToml => "TOML parse error"

namespace Frontmatter

def dashes : List Char := ['-', '-', '-']

def dropLineEnd : List Char → List Char
  | '\n' :: rest => rest
  | '\r' :: '\n' :: rest => rest
  | chars => chars

def cutAtDashes : List Char → Option (List Char × List Char)
  | [] => none
  | '\n' :: '-' :: '-' :: '-' :: rest => some ([], rest)
  | c :: rest => (cutAtDashes rest).map fun (before, after) => (c :: before, after)

def isMark (c : Char) : Bool := c == '\ufeff'

def split (chars : List Char) : Except FrontmatterError (List Char × List Char) :=
  match chars.dropWhile isMark with
  | '-' :: '-' :: '-' :: opened =>
    match cutAtDashes (dropLineEnd opened) with
    | none => .error .notClosed
    -- Dashes may be followed by more text on their line, which is then part of the script.
    | some (block, rest) => .ok (Text.dropEnd (· == '\r') block, dropLineEnd rest)
  | _ => .error .notOpened

end Frontmatter

namespace Expectations

def text? : Toml → Option String
  | .text content => some content
  | _ => none

def flag? : Toml → Option Bool
  | .flag on => some on
  | _ => none

def texts? : Toml → Option (List String)
  | .array items => items.mapM text?
  | _ => none

def table? : Toml → Option (List (String × Toml))
  | .table members => Toml.settleMembers? members
  | .dateTime moment => some [(Toml.momentKey, .text moment.toText)]
  | _ => none

def member? {α : Type} (name : String) (read : Toml → Option α) (members : List (String × Toml)) :
    Option (Option α) :=
  match members.lookup name with
  | none => some none
  | some value => (read value).map some

def ofTable? (members : List (String × Toml)) : Option Expectations := do
  let description? ← member? "description" text? members
  let failing? ← member? "fail" texts? members
  let error? ← member? "expect_error" text? members
  let parseError? ← member? "expect_parse_error" flag? members
  let unresolved? ← member? "expect_unresolved" texts? members
  let fills? ← member? "fills" table? members
  let bindings? ← member? "expect_bindings" table? members
  return {
    description? := description?
    failing := failing?.getD []
    error? := error?
    parseError := parseError?.getD false
    unresolved? := unresolved?
    fills := fills?.getD []
    bindings? := bindings? }

end Expectations

def Frontmatter.read (content : String) : Except FrontmatterError (Expectations × String) :=
  match Frontmatter.split content.toList with
  | .error failure => .error failure
  | .ok (block, source) =>
    match (Toml.ofChars? block).bind Expectations.ofTable? with
    | none => .error .badToml
    | some expectations => .ok (expectations, String.ofList source)

end Runbook
