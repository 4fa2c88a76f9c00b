import Runbook.Proofs.Command.Preparation
import Runbook.Proofs.Execution.Completion
import Runbook.Proofs.Execution.Watched
import Runbook.Proofs.Run.Report
import Runbook.Proofs.Text.Margin
import Runbook.Proofs.Value.Sources

set_option autoImplicit false

namespace Runbook.Command

variable {σ : Type} {disk : Disk} {input : List UInt8} {arguments : RunArguments}

def fresh (quiet : Bool) : DryRun :=
  if quiet then DryRun.new else DryRun.new.install (.page tracePage)

def runAgainst (backend : Backend σ) (view : σ → DryRun) (state : σ) (disk : Disk)
    (input : List UInt8) (arguments : RunArguments) : Output × σ :=
  match prepare disk input arguments with
  | .error output => (output, state)
  | .ok ready =>
    let report := Execution.run backend ready.script (.start state none)
    (finish ready.shown arguments.json ready.loaded (report.mapState view), report.final.state)

theorem runAgainst_of_refines {backend : Backend σ} {view : σ → DryRun}
    (refines : backend.Refines Registry.backend view) {state : σ}
    (initially : view state = fresh arguments.quiet) :
    (runAgainst backend view state disk input arguments).1 =
      perform disk input (.run arguments) := by
  simp only [runAgainst, perform, runCommand]
  cases prepare disk input arguments with
  | error output => rfl
  | ok ready =>
    have seen := Execution.run_of_refines refines ready.script (.start state none)
    have started : (Execution.start state none).mapState view =
        .start (fresh arguments.quiet) none := by
      rw [← initially]
      rfl
    rw [started] at seen
    dsimp only
    rw [← seen]
    rfl

structure Scripted (disk : Disk) (path source : String) (script : Script) : Prop where
  read : (disk path).readText = .ok source
  parsed : Script.parse 0 source = .ok script

theorem loadScript_of_scripted {disk : Disk} {path source : String} {script : Script}
    (scripted : Scripted disk path source script) :
    loadScript disk path = .ok ⟨path, source, script⟩ :=
  loadScript_eq_ok_iff.mpr ⟨rfl, scripted.read, scripted.parsed⟩

theorem scripted_of_loadScript {disk : Disk} {path : String} {loaded : Loaded}
    (done : loadScript disk path = .ok loaded) :
    Scripted disk path loaded.source loaded.script :=
  ⟨(loadScript_eq_ok_iff.mp done).2.1, (loadScript_eq_ok_iff.mp done).2.2⟩

inductive Obstructed (disk : Disk) (input : List UInt8) (arguments : RunArguments) : Prop where
  | unread (reason : String) (failed : (disk arguments.file).readText = .error reason)
  | unparsed (source : String) (errors : List Script.ParseError)
      (read : (disk arguments.file).readText = .ok source)
      (failed : Script.parse 0 source = .error errors)
  | unreadValues (path reason : String) (chosen : arguments.values? = some path)
      (failed : (disk path).readText = .error reason)
  | unsettled (path text : String) (chosen : arguments.values? = some path)
      (read : (disk path).readText = .ok text)
      (failed : Toml.settledOfChars? text.toList = none)
  | malformed (raw : String) (member : raw ∈ arguments.settings) (malformed : Fills.Malformed raw)
  | unanswered (source : String) (script : Script) (given : Fills) (index : Nat) (key : String)
      (scripted : Scripted disk arguments.file source script)
      (valued : Valued disk arguments.values? given)
      (interactive : arguments.interactive = true)
      (place : (openKeys arguments.settings given script)[index]? = some key)
      (unread : ∀ line, (Console.lines input)[index]? = some line →
        ∀ text, Text.decode? line = some text → Text.trim text = "")
  | unresolved (source : String) (script : Script) (given : Fills) (hole : Hole)
      (scripted : Scripted disk arguments.file source script)
      (valued : Valued disk arguments.values? given)
      (silent : arguments.interactive = false) (member : hole ∈ script.holes)
      (unset : ∀ raw ∈ arguments.settings, ∀ value,
        Fills.settingOf? raw ≠ some (hole.key, value))
      (unknown : given.get? hole.key = none)

theorem obstructed_of_unloaded {output : Output}
    (failed : loadScript disk arguments.file = .error output) :
    Obstructed disk input arguments := by
  cases read : (disk arguments.file).readText with
  | error reason => exact .unread reason read
  | ok source =>
    cases parsed : Script.parse 0 source with
    | error errors => exact .unparsed source errors read parsed
    | ok script =>
      rw [loadScript_of_scripted ⟨read, parsed⟩] at failed
      cases failed

theorem obstructed_of_unvalued {output : Output}
    (failed : loadFills? disk arguments.values? = .error output) :
    Obstructed disk input arguments := by
  cases values : arguments.values? with
  | none =>
    rw [values] at failed
    cases failed
  | some path =>
    cases read : (disk path).readText with
    | error reason => exact .unreadValues path reason values read
    | ok text =>
      cases settled : Toml.settledOfChars? text.toList with
      | none => exact .unsettled path text values read settled
      | some members =>
        rw [values, loadFills?_eq_ok_iff.mpr (.table path text members read settled)] at failed
        cases failed

theorem obstructed_of_error {output : Output}
    (failed : prepare disk input arguments = .error output) : Obstructed disk input arguments := by
  have outcome := prepare_prepared disk input arguments
  rw [failed] at outcome
  cases outcome with
  | unloaded err unloaded => exact obstructed_of_unloaded unloaded
  | unvalued err unvalued => exact obstructed_of_unvalued unvalued
  | malformed err raw member malformed =>
    exact .malformed raw member (Fills.settingOf?_eq_none_iff.mp malformed)
  | unanswered loaded given asked unasked key err script values interactive keys unread =>
    exact .unanswered loaded.source loaded.script given asked.length key
      (scripted_of_loadScript script) (loadFills?_eq_ok_iff.mp values) interactive (by simp [keys])
      (Console.bind_reading?_eq_none_iff.mp unread)
  | unresolved loaded given err script values silent left =>
    obtain ⟨hole, member, unset, unknown⟩ := openKeys_ne_nil_iff.mp left
    exact .unresolved loaded.source loaded.script given hole (scripted_of_loadScript script)
      (loadFills?_eq_ok_iff.mp values) silent member unset unknown

section Loaded

variable {loaded : Loaded} {given : Fills} (script : loadScript disk arguments.file = .ok loaded)
  (values : loadFills? disk arguments.values? = .ok given)

include script in
theorem script_eq_of_scripted {source : String} {other : Script}
    (scripted : Scripted disk arguments.file source other) : loaded.script = other := by
  have same := script.symm.trans (loadScript_of_scripted scripted)
  rw [Except.ok.inj same]

include values in
theorem given_eq_of_valued {other : Fills} (valued : Valued disk arguments.values? other) :
    given = other :=
  Except.ok.inj (values.symm.trans (loadFills?_eq_ok_iff.mpr valued))

end Loaded

theorem unobstructed_of_ok {ready : Ready} (prepared : prepare disk input arguments = .ok ready) :
    ¬ Obstructed disk input arguments := by
  have outcome := prepare_prepared disk input arguments
  rw [prepared] at outcome
  cases outcome with
  | ready loaded given answers script values wellFormed keys read asked =>
    intro obstructed
    have scripted := scripted_of_loadScript script
    have valued := loadFills?_eq_ok_iff.mp values
    cases obstructed with
    | unread reason failed => simp [scripted.read] at failed
    | unparsed source errors here failed =>
      obtain rfl := Except.ok.inj (here.symm.trans scripted.read)
      simp [scripted.parsed] at failed
    | unreadValues path reason chosen failed =>
      rw [chosen] at valued
      cases valued with
      | table _ text members here settled => simp [here] at failed
    | unsettled path text chosen here failed =>
      rw [chosen] at valued
      cases valued with
      | table _ other members here' settled =>
        obtain rfl := Except.ok.inj (here.symm.trans here')
        simp [settled] at failed
    | malformed raw member malformed =>
      exact wellFormed raw member (Fills.settingOf?_eq_none_iff.mpr malformed)
    | unanswered source other given' index key scripted' valued' interactive place unread =>
      obtain rfl := script_eq_of_scripted script scripted'
      obtain rfl := given_eq_of_valued values valued'
      rw [← keys, List.getElem?_map, Option.map_eq_some_iff] at place
      obtain ⟨answer, here, -⟩ := place
      have answered := read index answer here
      rw [Console.bind_reading?_eq_none_iff.mpr unread] at answered
      cases answered
    | unresolved source other given' hole scripted' valued' silent member unset unknown =>
      obtain rfl := script_eq_of_scripted script scripted'
      obtain rfl := given_eq_of_valued values valued'
      have left := openKeys_ne_nil_iff.mpr ⟨hole, member, unset, unknown⟩
      rw [← keys, asked silent] at left
      exact left rfl

structure Output.Refused (disk : Disk) (arguments : RunArguments) (output : Output) : Prop where
  status : output.status ≠ 0
  out : output.out = "" ∨ ∃ source script given asked,
    Scripted disk arguments.file source script ∧ Valued disk arguments.values? given ∧
      asked <+: openKeys arguments.settings given script ∧ output.out = Console.prompts asked

theorem refused_of_error {output : Output} (failed : prepare disk input arguments = .error output) :
    output.Refused disk arguments := by
  have outcome := prepare_prepared disk input arguments
  rw [failed] at outcome
  cases outcome with
  | unloaded err _ => exact ⟨by simp [Output.failure], .inl rfl⟩
  | unvalued err _ => exact ⟨by simp [Output.failure], .inl rfl⟩
  | malformed err _ _ _ => exact ⟨by simp [Output.refusal], .inl rfl⟩
  | unanswered loaded given asked unasked key err script values interactive keys unread =>
    refine ⟨by simp [Output.failure], .inr ⟨loaded.source, loaded.script, given, asked ++ [key],
      scripted_of_loadScript script, loadFills?_eq_ok_iff.mp values, ?_, rfl⟩⟩
    exact ⟨unasked, by simp [keys]⟩
  | unresolved loaded given err _ _ _ _ => exact ⟨by simp [Output.failure], .inl rfl⟩

def Traces (registry : DryRun) (trace : String) : Prop :=
  trace.toList =
    (Text.lines (registry.log.written.flatMap fun record => record.2.toList)).flatMap
      ("[dry-run] ".toList ++ ·)

theorem traceText_traces (registry : DryRun) : Traces registry (traceText registry) := by
  rw [Traces, traceText, String.toList_ofList, Text.markChunks_eq_marked, ← List.flatMap_def]
  rfl

structure Output.Tells (ready : Ready) (json : Bool) (report : Execution.Report DryRun)
    (output : Output) : Prop where
  status : output.status = 0 ↔ ready.script.Covered report.final.executed
  completed : report.error? = none → output.err = ""
  aborted : ∀ error, report.error? = some error → output.status = 1 ∧
    ∃ listing, Executed.Listed report.final.executed listing ∧
      output.err = runErrorText error ready.loaded.name ready.loaded.source ++ listing
  recorded : ready.script.Recorded report.final.executed
  out : ∃ trace listing, Traces report.final.state trace ∧
    report.final.bindings.Listed json listing ∧ output.out = ready.shown ++ trace ++ listing
  bound : report.final.bindings.entries = report.final.executed.filterMap Executed.binding?

theorem finish_tells (ready : Ready) (json : Bool) {report : Execution.Report DryRun}
    (consistent : report.final.Consistent ready.script)
    (ended : report.final.phase = if report.isCompleted then .completed else .aborted) :
    (finish ready.shown json ready.loaded report).Tells ready json report := by
  have counted := consistent.counted
  have covered := Execution.covered_iff_of_consistent consistent
  cases error : report.error? with
  | none =>
    have completed : report.final.phase = .completed := by
      simpa [Execution.Report.isCompleted, error] using ended
    rw [completed] at counted
    have all : report.final.executed.length = ready.script.statements.length := counted
    refine ⟨?_, ?_, by simp [error], consistent.recorded, ⟨_, _, traceText_traces _,
      Bindings.report_listed _ json, ?_⟩, consistent.bound⟩ <;>
      simp [finish, error, Output.success, covered, all]
  | some cause =>
    have aborted : report.final.phase = .aborted := by
      simpa [Execution.Report.isCompleted, error] using ended
    rw [aborted] at counted
    have left : report.final.executed.length < ready.script.statements.length := counted
    refine ⟨?_, by simp [error], ?_, consistent.recorded, ⟨_, _, traceText_traces _,
      Bindings.report_listed _ json, ?_⟩, consistent.bound⟩ <;>
      simp [finish, error, Output.failure, covered, Nat.ne_of_lt left, Executed.report_listed]

theorem run_tells (backend : Backend σ) (view : σ → DryRun) (state : σ) (ready : Ready)
    (json : Bool) :
    let report := (Execution.run backend ready.script (.start state none)).mapState view
    (finish ready.shown json ready.loaded report).Tells ready json report := by
  intro report
  have initially : (Execution.start state none).Consistent ready.script :=
    Execution.start_consistent state none
  have unaborted : (Execution.start state none).phase ≠ .aborted := by simp [Execution.start]
  have ended : (Execution.run backend ready.script (.start state none)).final.phase = _ :=
    Execution.run_phase initially unaborted
  obtain ⟨recorded, counted, bound, distinct⟩ :
      (Execution.run backend ready.script (.start state none)).final.Consistent ready.script :=
    Execution.run_consistent initially
  exact finish_tells ready json ⟨recorded, counted, bound, distinct⟩ ended

structure Ready.Made (disk : Disk) (input : List UInt8) (arguments : RunArguments) (given : Fills)
    (ready : Ready) : Prop extends ready.Faithful disk input arguments given where
  prepared : prepare disk input arguments = .ok ready
  name : ready.loaded.name = arguments.file
  valued : Valued disk arguments.values? given
  shown : ready.shown =
    Console.prompts (openKeys arguments.settings given ready.loaded.script)

theorem made_of_ok {ready : Ready} (prepared : prepare disk input arguments = .ok ready) :
    ∃ given, ready.Made disk input arguments given := by
  have outcome := prepare_prepared disk input arguments
  rw [prepared] at outcome
  cases outcome with
  | ready loaded given answers script values wellFormed keys read asked =>
    exact ⟨given, faithful_of_answers script values keys read asked prepared, prepared,
      (loadScript_eq_ok_iff.mp script).1, loadFills?_eq_ok_iff.mp values, by rw [keys]⟩

/-- If anything is in the way of a script, the backend is neither asked nor changed, the screen
shows nothing but questions, and the status is not zero. If nothing is, the script of the file, with
its holes filled, is run once from its start, and the status is zero exactly if every statement of it
has been executed. After an abort, each statement that was executed is listed once and in order, and
however the run ends, so is each binding that it made. -/
theorem run_allOrNothing (disk : Disk) (input : List UInt8) (arguments : RunArguments) :
    let untouched : Watched DryRun := ⟨[], fresh arguments.quiet⟩
    let ran := runAgainst Registry.backend.watched Watched.inner untouched disk input arguments
    ran.1 = perform disk input (.run arguments) ∧
    (Obstructed disk input arguments → ran.2 = untouched ∧ ran.1.Refused disk arguments) ∧
    (¬ Obstructed disk input arguments →
      ∃ ready given, ready.Made disk input arguments given ∧
        let report := Execution.run Registry.backend.watched ready.script (.start untouched none)
        ran.2 = report.final.state ∧
          ran.1.Tells ready arguments.json (report.mapState Watched.inner)) := by
  intro untouched ran
  refine ⟨runAgainst_of_refines (Backend.watched_refines _) rfl, ?_, ?_⟩
  next =>
    intro obstructed
    cases outcome : prepare disk input arguments with
    | ok ready => exact absurd obstructed (unobstructed_of_ok outcome)
    | error output =>
      have stopped : ran = (output, untouched) := by simp only [ran, runAgainst, outcome]
      rw [stopped]
      exact ⟨rfl, refused_of_error outcome⟩
  next =>
    intro clear
    cases outcome : prepare disk input arguments with
    | error output => exact absurd (obstructed_of_error outcome) clear
    | ok ready =>
      obtain ⟨given, made⟩ := made_of_ok outcome
      refine ⟨ready, given, made, ?_⟩
      intro report
      have passed : ran = (finish ready.shown arguments.json ready.loaded
          (report.mapState Watched.inner), report.final.state) := by
        simp only [ran, runAgainst, outcome]
        rfl
      rw [passed]
      exact ⟨rfl, run_tells _ Watched.inner untouched ready arguments.json⟩

def haltingDisk : Disk
  | "net.scen" => .file "net = create vpc cidr=\x7bcidr\x7d\ndelete vpc".toUTF8.toList
  | _ => .nothing .missing

def halting (settings : List String) : RunArguments :=
  ⟨"net.scen", none, settings, false, true, false⟩

theorem run_allOrNothing_halting :
    let untouched : Watched DryRun := ⟨[], fresh true⟩
    let ran (settings : List String) := runAgainst Registry.backend.watched Watched.inner untouched
      haltingDisk [] (halting settings)
    (Obstructed haltingDisk [] (halting ["cidr"]) ∧ (ran ["cidr"]).2 = untouched ∧
      (ran ["cidr"]).1.Refused haltingDisk (halting ["cidr"])) ∧
    (¬ Obstructed haltingDisk [] (halting ["cidr=10"]) ∧
      ∃ ready given, ready.Made haltingDisk [] (halting ["cidr=10"]) given ∧
        let report := Execution.run Registry.backend.watched ready.script (.start untouched none)
        (ran ["cidr=10"]).2 = report.final.state ∧
          (ran ["cidr=10"]).1.Tells ready false (report.mapState Watched.inner)) ∧
    (ran ["cidr=10"]).1 = ⟨1, "net = vpc-1\n",
      "error: statement 2 (delete vpc): execution failed: missing required parameter 'id'\n" ++
      "  ┌─ net.scen:2:1\n  │\n2 │ delete vpc\n  │ ^^^^^^^^^^\n\n" ++
      "already executed (not rolled back):\n  1. net = create vpc -> vpc-1\n"⟩ := by
  intro untouched ran
  obtain ⟨-, refused, -⟩ := run_allOrNothing haltingDisk [] (halting ["cidr"])
  obtain ⟨performed, -, completed⟩ := run_allOrNothing haltingDisk [] (halting ["cidr=10"])
  have obstructed : Obstructed haltingDisk [] (halting ["cidr"]) :=
    .malformed "cidr" List.mem_cons_self (.unparted (by decide))
  have resolved : (prepare haltingDisk [] (halting ["cidr=10"])).toOption.isSome = true := by
    decide +kernel
  obtain ⟨ready, prepared⟩ := Option.isSome_iff_exists.mp resolved
  have clear := unobstructed_of_ok (toOption_eq_some_iff.mp prepared)
  exact ⟨⟨obstructed, refused obstructed⟩, ⟨clear, completed clear⟩,
    performed.trans (by decide +kernel)⟩

end Runbook.Command
