import Runbook.Backend.DryRun
import Runbook.Fills
import Runbook.Fixture.Frontmatter
import Runbook.Run.Execution
import Runbook.Script.Parse
import Runbook.Text.Escape

set_option autoImplicit false

namespace Runbook

inductive Failure where
  | unreadable (reason : String)
  | frontmatter (error : FrontmatterError)
  | parsed
  | notParsed (messages : List String)
  | otherHoles (expected actual : List String)
  | unresolved (holes : List Hole)
  | badFailEntry (entry : String)
  | otherError (expected actual : String)
  | succeeded (expected : String)
  | aborted (actual : String)
  | otherBinding (name : String) (expected actual : Value)
  | notBound (name : String)
  | otherCount (expected : Nat) (names : List String)

namespace Failure

def inspectList (texts : List String) : String :=
  "[" ++ Text.join ", " (texts.map Text.inspect) ++ "]"

def quoted (text : String) : String := "\"" ++ text ++ "\""

def message : Failure → String
  | .unreadable reason => "cannot read file: " ++ reason
  | .frontmatter error => "frontmatter error: " ++ error.message
  | .parsed => "expected parse error, but parsing succeeded"
  | .notParsed messages => "unexpected parse error: " ++ Text.join "; " messages
  | .otherHoles expected actual =>
    "unresolved holes mismatch\n  expected: " ++ inspectList expected ++ "\n  actual:   " ++
      inspectList actual
  | .unresolved holes => Script.unresolvedMessage holes
  | .badFailEntry entry => "bad fail entry '" ++ entry ++ "': expected \"action entity\""
  | .otherError expected actual =>
    "expected error containing " ++ quoted expected ++ ", got: " ++ actual
  | .succeeded expected =>
    "expected error containing " ++ quoted expected ++ ", but execution succeeded"
  | .aborted actual => "unexpected runtime error: " ++ actual
  | .otherBinding name expected actual =>
    "binding '" ++ name ++ "' mismatch\n  expected: " ++ expected.toText ++ "\n  actual:   " ++
      actual.toText
  | .notBound name => "binding '" ++ name ++ "' was never set"
  | .otherCount expected names =>
    "expected " ++ toString expected ++ " binding(s), got " ++ toString names.length ++ ": " ++
      Text.join ", " names

end Failure

namespace Fixture

def operationOf? (entry : String) : Option (String × String) :=
  match entry.toList.dropWhile (· != ' ') with
  | [] => none
  | _ :: kind =>
    some (String.ofList (Text.trimChars (entry.toList.takeWhile (· != ' '))),
      String.ofList (Text.trimChars kind))

def backendFor (entries : List String) : Except Failure DryRun :=
  entries.foldlM (fun registry entry =>
    match operationOf? entry with
    | none => .error (.badFailEntry entry)
    | some (action, kind) =>
      .ok (DryRun.failOn registry action kind ("injected failure for " ++ entry))) DryRun.new

def checkError (expected? : Option String) (error? : Option RunError) : Except Failure Unit :=
  match expected?, error? with
  | none, none => .ok ()
  | none, some error => .error (.aborted error.message)
  | some expected, none => .error (.succeeded expected)
  | some expected, some error =>
    if Text.contains expected.toList error.message.toList then .ok ()
    else .error (.otherError expected error.message)

def checkBinding (bindings : Bindings) (name : String) (expected : Value) : Except Failure Unit :=
  match bindings.get? name with
  | none => .error (.notBound name)
  | some actual =>
    if actual.same expected then .ok () else .error (.otherBinding name expected actual)

def checkBindings (expected? : Option (List (String × Toml))) (bindings : Bindings) :
    Except Failure Unit :=
  match expected? with
  | none => .ok ()
  | some expected => do
    -- The first difference in name order is reported, and only then the count.
    expected.forM fun member => checkBinding bindings member.1 member.2.toValue
    if bindings.size = expected.length then .ok ()
    else .error (.otherCount expected.length bindings.names)

def checkRun (expectations : Expectations) (script : Script) : Except Failure Unit := do
  let registry ← backendFor expectations.failing
  let report := Execution.run Registry.backend script (.start registry none)
  checkError expectations.error? report.error?
  checkBindings expectations.bindings? report.final.bindings

def checkScript (expectations : Expectations) (parsed : Script) : Except Failure Unit :=
  let script := parsed.fill (Fills.ofTable expectations.fills)
  let keys := script.holes.map Hole.key
  match expectations.unresolved? with
  | some expected => if keys = expected then .ok () else .error (.otherHoles expected keys)
  | none =>
    match script.ensureResolved with
    | .ok () => checkRun expectations script
    | .error holes => .error (.unresolved holes)

def check (expectations : Expectations) (source : String) : Except Failure Unit :=
  match Script.parse 0 source, expectations.parseError with
  | .error _, true => .ok ()
  | .ok _, true => .error .parsed
  | .error errors, false => .error (.notParsed (errors.map fun error => error.fault.cause.message))
  | .ok script, false => checkScript expectations script

end Fixture

structure Verdict where
  description? : Option String
  failure? : Option Failure

def Verdict.passed (verdict : Verdict) : Bool := verdict.failure?.isNone

def Fixture.failureOf? : Except Failure Unit → Option Failure
  | .ok () => none
  | .error failure => some failure

def Fixture.judge (content : Except String String) : Verdict :=
  match content with
  | .error reason => ⟨none, some (.unreadable reason)⟩
  | .ok content =>
    match Frontmatter.read content with
    | .error error => ⟨none, some (.frontmatter error)⟩
    | .ok (expectations, source) =>
      ⟨expectations.description?, failureOf? (check expectations source)⟩

end Runbook
