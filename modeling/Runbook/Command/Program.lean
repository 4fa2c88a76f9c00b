import Runbook.Command.Arguments
import Runbook.Console.Instance
import Runbook.Fixture.Suite
import Runbook.Run.Report
import Runbook.Script.Dump
import Runbook.Script.Snippet
import Runbook.Text.Margin

set_option autoImplicit false

namespace Runbook.Command

structure Output where
  status : Nat
  out : String
  err : String
deriving DecidableEq

namespace Output

def success (out err : String) : Output := ⟨0, out, err⟩

def failure (out err : String) : Output := ⟨1, out, err⟩

def refusal (err : String) : Output := ⟨2, "", err⟩

end Output

structure Loaded where
  name : String
  source : String
  script : Script

def errorLine (message : String) : String := "error: " ++ message ++ "\n"

def parseSnippet (error : Script.ParseError) : Snippet :=
  ⟨error.fault.cause.message, error.fault.span, error.fault.cause.notes⟩

def parseSource (name source : String) : Except Output Loaded :=
  match Script.parse 0 source with
  | .ok script => .ok ⟨name, source, script⟩
  | .error errors =>
    .error (.failure "" (String.join (errors.map fun error =>
      (parseSnippet error).render name source)))

def loadScript (disk : Disk) (path : String) : Except Output Loaded :=
  match (disk path).readText with
  | .error reason => .error (.failure "" (errorLine ("cannot read '" ++ path ++ "': " ++ reason)))
  | .ok source => parseSource path source

def loadFills (disk : Disk) (path : String) : Except Output Fills :=
  match (disk path).readText with
  | .error reason => .error (.failure "" (errorLine ("cannot read '" ++ path ++ "': " ++ reason)))
  | .ok text =>
    match Toml.settledOfChars? text.toList with
    | none => .error (.failure "" (errorLine ("invalid values file '" ++ path ++ "'")))
    | some members => .ok (Fills.ofTable members)

def loadFills? (disk : Disk) : (path? : Option String) → Except Output Fills
  | none => .ok ∅
  | some path => loadFills disk path

/-- Later settings win over earlier ones and over the fills given. -/
def applySettings : Fills → List String → Except Output Fills
  | fills, [] => .ok fills
  | fills, raw :: rest =>
    match Fills.settingOf? raw with
    | none => .error (.refusal (errorLine (Fills.badSettingMessage raw)))
    | some (key, value) => applySettings (fills.insert key value) rest

def traceMark : String := "[dry-run] "

def tracePage : String := "trace"

def execute (quiet : Bool) (script : Script) : Execution.Report DryRun :=
  let registry := if quiet then DryRun.new else DryRun.new.install (.page tracePage)
  Execution.run Registry.backend script (.start registry none)

def traceText (registry : DryRun) : String :=
  let chunks := registry.log.written.map fun record => record.2.toList
  String.ofList (Text.markChunks traceMark.toList (· == '\n') true chunks)

def runErrorText (error : RunError) (name source : String) : String :=
  match error.span? with
  | some span => (Snippet.mk error.message span []).render name source
  | none => "runtime error: " ++ error.message ++ "\n"

def finish (shown : String) (json : Bool) (loaded : Loaded) (report : Execution.Report DryRun) :
    Output :=
  let out := shown ++ traceText report.final.state ++ report.final.bindings.report json
  match report.error? with
  | none => .success out ""
  | some error =>
    .failure out
      (runErrorText error loaded.name loaded.source ++ Executed.report report.final.executed)

def unresolvedText (holes : List Hole) : String :=
  errorLine (Script.unresolvedMessage holes) ++
    String.join (holes.map fun hole =>
      "  " ++ question hole.key ++ "?  (--set " ++ hole.key ++ "=...)\n")

def complete (interactive : Bool) (input : List UInt8) (script : Script) :
    Except Output (Script × String) :=
  if interactive && !script.holes.isEmpty then
    let (completed, inquiry) := script.inquire Console.ask (.start input)
    let shown := String.ofList inquiry.source.screen
    match inquiry.result with
    | .error failure => .error (.failure shown (errorLine failure.message))
    | .ok _ => .ok (completed, shown)
  else .ok (script, "")

structure Ready where
  loaded : Loaded
  script : Script
  shown : String

/-- All that comes before the first statement runs. Every failure of it ends the program. -/
def prepare (disk : Disk) (input : List UInt8) (arguments : RunArguments) :
    Except Output Ready := do
  let loaded ← loadScript disk arguments.file
  let given ← loadFills? disk arguments.values?
  -- Settings are read only after both files, so the errors of the files come first.
  let fills ← applySettings given arguments.settings
  let (script, shown) ← complete arguments.interactive input (loaded.script.fill fills)
  match script.ensureResolved with
  | .ok () => return ⟨loaded, script, shown⟩
  | .error holes => throw (.failure shown (unresolvedText holes))

def runCommand (disk : Disk) (input : List UInt8) (arguments : RunArguments) :
    Except Output Output := do
  let ready ← prepare disk input arguments
  return finish ready.shown arguments.json ready.loaded (execute arguments.quiet ready.script)

def checkCommand (disk : Disk) (file : String) : Except Output Output := do
  let _ ← loadScript disk file
  return .success "" ("ok: " ++ file ++ " parsed successfully\n")

def astCommand (disk : Disk) (file : String) (dump : Bool) : Except Output Output := do
  let loaded ← loadScript disk file
  return .success
    (if dump then loaded.script.dump.render 0 ++ "\n" else loaded.script.toText) ""

def holesCommand (disk : Disk) (file : String) (values? : Option String) :
    Except Output Output := do
  let loaded ← loadScript disk file
  let fills ← loadFills? disk values?
  return .success
    (String.join ((loaded.script.fill fills).holes.map fun hole =>
      hole.toText ++ "  (" ++ question hole.key ++ "?)\n")) ""

def createCommand (input : List UInt8) : Except Output Output := do
  let (built, console) := (Console.start input).buildInstance
  let shown := String.ofList console.screen
  match built with
  | .error failure => throw (.failure shown (errorLine failure.message))
  | .ok none => return .success shown ""
  | .ok (some source) =>
    match parseSource "<create instance>" source with
    | .error output => throw { output with out := shown ++ output.out }
    | .ok loaded => return finish shown false loaded (execute false loaded.script)

def testCommand (disk : Disk) (arguments : TestArguments) : Output :=
  let suite := Suite.load disk arguments.path
  if arguments.listing then
    if suite.isEmpty then .success "" (Suite.noneFound arguments.path)
    else .success suite.listing ""
  else
    let kept := suite.retain arguments.categories
    if kept.isEmpty then .failure "" (Suite.noneFound arguments.path)
    else
      let report := kept.run
      let text := String.join (report.pieces.map Suite.Piece.plain)
      if report.passed then .success "" text else .failure "" text

def either : Except Output Output → Output
  | .ok output => output
  | .error output => output

def perform (disk : Disk) (input : List UInt8) : Request → Output
  | .run arguments => either (runCommand disk input arguments)
  | .check file => either (checkCommand disk file)
  | .ast file dump => either (astCommand disk file dump)
  | .holes file values? => either (holesCommand disk file values?)
  | .createInstance => either (createCommand input)
  | .test arguments => testCommand disk arguments

def usage : String := "usage: scen [run | check | ast | holes | create | test] ...\n"

def respond (disk : Disk) (input : List UInt8) (arguments : List String) : Output :=
  match Request.ofArguments arguments with
  | .ok request => perform disk input request
  | .error .usage => .refusal usage
  | .error .help => .success usage ""
  | .error .version => .success "scen 0.1.0\n" ""

end Runbook.Command
