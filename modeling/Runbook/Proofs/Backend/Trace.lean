import Runbook.Backend.DryRun
import Runbook.Proofs.Backend.Registry
import Runbook.Proofs.Backend.Session

set_option autoImplicit false

namespace Runbook

variable {τ : Type}

namespace Registry

def note (handler? : Option (Handler τ)) (operation : Operation) (parameters : Parameters)
    (state : τ) : String :=
  match handler? with
  | some handler => operation.trace parameters (handler parameters state).1.result
  | none => operation.unsupportedTrace

inductive Recorded (handler? : Option (Handler τ)) (operation : Operation) (parameters : Parameters)
    (state : τ) : String → Prop where
  | answered (handler : Handler τ) (value : Value) (registered : handler? = some handler)
      (answer : (handler parameters state).1.result = .ok value) :
      Recorded handler? operation parameters state
        (operation.action ++ " " ++ operation.kind ++ " " ++
          Text.join " " (parameters.entries.map fun entry => entry.1 ++ "=" ++ entry.2.toText) ++
          " -> " ++ value.toText)
  | failed (handler : Handler τ) (failure : BackendError) (registered : handler? = some handler)
      (answer : (handler parameters state).1.result = .error failure) :
      Recorded handler? operation parameters state
        (operation.action ++ " " ++ operation.kind ++ " " ++
          Text.join " " (parameters.entries.map fun entry => entry.1 ++ "=" ++ entry.2.toText) ++
          " failed: " ++ failure.message)
  | unsupported (unregistered : handler? = none) :
      Recorded handler? operation parameters state
        (operation.action ++ " " ++ operation.kind ++ ": unsupported")

theorem note_recorded (handler? : Option (Handler τ)) (operation : Operation)
    (parameters : Parameters) (state : τ) :
    Recorded handler? operation parameters state (note handler? operation parameters state) := by
  cases handler? with
  | none => exact .unsupported rfl
  | some handler =>
    unfold note Operation.trace
    dsimp only
    split
    next value answer =>
      rw [← String.append_assoc]
      exact .answered handler value rfl answer
    next failure answer =>
      rw [← String.append_assoc]
      exact .failed handler failure rfl answer

theorem log_call (registry : Registry τ) (operation : Operation) (parameters : Parameters) :
    (backend.call operation parameters registry).2.log =
      registry.log.line
        (note (registry.handlers.get? operation) operation parameters registry.state) := by
  simp only [Backend.call, backend, lookup, note]
  cases registry.handlers.get? operation <;> rfl

theorem note_of_answer {registry : Registry τ} {operation : Operation} {parameters : Parameters}
    {value : Value}
    (answered : (backend.call operation parameters registry).1.result = .ok value) :
    note (registry.handlers.get? operation) operation parameters registry.state =
      operation.trace parameters (.ok value) := by
  cases registered : registry.handlers.get? operation with
  | none => simp [call_unregistered registered] at answered
  | some handler =>
    rw [call_registered registered] at answered
    rw [note, answered]

end Registry

namespace Execution

variable {script : Script} {first before later : Execution (Registry τ)}

def NotedAt (script : Script) (first : Execution (Registry τ)) (index : Nat) (note : String) :
    Prop :=
  ∃ before statement parameters,
    Calls Registry.backend script first before index statement parameters ∧
      note = Registry.note (first.state.handlers.get? statement.operation) statement.operation
        parameters before.state.state

theorem Calls.unique {before' : Execution (Registry τ)} {index : Nat}
    {statement statement' : Statement} {parameters parameters' : Parameters}
    (consistent : first.Consistent script)
    (calls : Calls Registry.backend script first before index statement parameters)
    (calls' : Calls Registry.backend script first before' index statement' parameters') :
    before = before' ∧ statement = statement' ∧ parameters = parameters' := by
  have length := (calls.advances.consistent consistent).next_eq calls.next
  have length' := (calls'.advances.consistent consistent).next_eq calls'.next
  obtain rfl : before = before' := by
    rcases calls.advances.linear calls'.advances with onwards | onwards <;>
      rcases onwards.eq_or_longer with same | longer
    · exact same
    · omega
    · exact same.symm
    · omega
  obtain rfl : statement = statement' := Option.some.inj (calls.here.symm.trans calls'.here)
  exact ⟨rfl, rfl, Except.ok.inj (calls.prepared.symm.trans calls'.prepared)⟩

theorem Calls.of_advances {index : Nat} {statement : Statement} {parameters : Parameters}
    (advances : Advances Registry.backend script first before)
    (calls : Calls Registry.backend script before before index statement parameters) :
    Calls Registry.backend script first before index statement parameters :=
  ⟨⟨advances, calls.next, calls.here⟩, calls.allowed, calls.prepared⟩

theorem NotedAt.unique {index : Nat} {note note' : String} (consistent : first.Consistent script)
    (noted : NotedAt script first index note) (noted' : NotedAt script first index note') :
    note = note' := by
  obtain ⟨before, statement, parameters, calls, rfl⟩ := noted
  obtain ⟨before', statement', parameters', calls', rfl⟩ := noted'
  obtain ⟨rfl, rfl, rfl⟩ := calls.unique consistent calls'
  rfl

inductive Noting (script : Script) (before : Execution (Registry τ)) :
    Except RunError Bool × Execution (Registry τ) → Prop where
  | silent (answer : Except RunError Bool) (later : Execution (Registry τ))
      (uncalled : ∀ index statement parameters,
        ¬ Calls Registry.backend script before before index statement parameters)
      (answered : answer ≠ .ok true)
      (own : ∀ error, answer = .error error → ¬ error.cause.OfBackend)
      (log : later.state.log = before.state.log) (executed : later.executed = before.executed) :
      Noting script before (answer, later)
  | failed (error : RunError) (later : Execution (Registry τ)) (index : Nat)
      (statement : Statement) (parameters : Parameters)
      (calls : Calls Registry.backend script before before index statement parameters)
      (ofBackend : error.cause.OfBackend)
      (log : later.state.log = before.state.log.line
        (Registry.note (before.state.handlers.get? statement.operation) statement.operation
          parameters before.state.state))
      (executed : later.executed = before.executed) :
      Noting script before (.error error, later)
  | ran (later : Execution (Registry τ)) (index : Nat) (statement : Statement)
      (parameters : Parameters) (value : Value)
      (calls : Calls Registry.backend script before before index statement parameters)
      (concrete : value.isReference = false)
      (note : Registry.note (before.state.handlers.get? statement.operation) statement.operation
        parameters before.state.state = statement.operation.trace parameters (.ok value))
      (log : later.state.log =
        before.state.log.line (statement.operation.trace parameters (.ok value)))
      (executed : later.executed = before.executed ++ [statement.record index value]) :
      Noting script before (.ok true, later)

theorem Noting.executed_eq {answer : Except RunError Bool}
    (noting : Noting script before (answer, later)) (stopped : answer ≠ .ok true) :
    later.executed = before.executed := by
  cases noting with
  | silent _ _ uncalled answered own log executed => exact executed
  | failed error _ index statement parameters calls ofBackend log executed => exact executed
  | ran => exact absurd rfl stopped

theorem step_noting (script : Script) (before : Execution (Registry τ)) :
    Noting script before (before.step Registry.backend script) := by
  have stepped := step_stepped Registry.backend script before
  generalize before.step Registry.backend script = result at stepped
  cases stepped with
  | ended finished =>
    refine .silent _ _ (fun index statement parameters calls => ?_) (by simp) (by simp) rfl rfl
    simpa [finished] using calls.next
  | exhausted index next beyond =>
    refine .silent _ _ (fun other statement parameters calls => ?_) (by simp) (by simp) rfl rfl
    obtain rfl : index = other := by simpa [next] using calls.next
    simpa [beyond] using calls.here
  | cancelled index statement next here stopped =>
    refine .silent _ _ (fun other statement parameters calls => ?_) (by simp) ?_ rfl rfl
    · exact calls.allowed stopped
    · rintro error same
      obtain rfl := Except.error.inj same
      exact id
  | failed index statement attempt cause next here allowed attempted outcome =>
    subst attempted
    cases prepared : statement.prepare before.bindings with
    | error refusal =>
      have attempt : statement.attempt Registry.backend index before.bindings before.state =
          ⟨.error refusal, before.state, false⟩ := by
        simp only [Statement.attempt, prepared]
      obtain rfl : refusal = cause := by simpa [attempt] using outcome
      refine .silent _ _ (fun other statement' parameters calls => ?_) (by simp) ?_ ?_ rfl
      · obtain rfl : index = other := by simpa [next] using calls.next
        obtain rfl : statement = statement' := by simpa [here] using calls.here
        simpa [prepared] using calls.prepared
      · rintro error same
        obtain rfl := Except.error.inj same
        exact Statement.not_ofBackend_of_prepare prepared
      · rw [attempt]
    | ok parameters =>
      have attempt := Statement.attempt_of_prepared Registry.backend index before.state prepared
      refine .failed _ _ index statement parameters ⟨⟨.refl, next, here⟩, allowed, prepared⟩ ?_ ?_ rfl
      · rw [attempt] at outcome
        exact Statement.conclude_error prepared outcome
      · rw [attempt]
        exact Registry.log_call before.state statement.operation parameters
  | ran index statement attempt record bindings next here allowed attempted outcome =>
    subst attempted
    obtain ⟨parameters, -, prepared, -⟩ := Statement.attempt_ok outcome
    have attempt := Statement.attempt_of_prepared Registry.backend index before.state prepared
    rw [attempt] at outcome
    obtain ⟨value, answered, concrete, rfl, -⟩ := Statement.conclude_ok outcome
    have note := Registry.note_of_answer answered
    refine .ran _ index statement parameters value ⟨⟨.refl, next, here⟩, allowed, prepared⟩
      concrete note ?_ rfl
    rw [attempt, ← note]
    exact Registry.log_call before.state statement.operation parameters

structure Transcript (script : Script) (page : String) (first later : Execution (Registry τ))
    (notes : List String) : Prop where
  installed : later.state.log.sink? = some (.page page)
  written : later.state.log.written =
    first.state.log.written ++ notes.map fun note => (page, note ++ "\n")
  counted : notes.length = later.executed.length
  noted : ∀ index note, notes[index]? = some note → NotedAt script first index note
  concrete : ∀ record ∈ later.executed, record.result.isReference = false
  answered : ∀ (index : Nat) (record : Executed), later.executed[index]? = some record →
    ∃ parameters, notes[index]? =
      some (Operation.trace ⟨record.action, record.kind⟩ parameters (.ok record.result))

theorem Transcript.written_line {page : String} {notes : List String} {log : Log} {note : String}
    (transcript : Transcript script page first later notes)
    (line : log = later.state.log.line note) :
    log.sink? = some (.page page) ∧ log.written =
      first.state.log.written ++ (notes ++ [note]).map fun note => (page, note ++ "\n") := by
  subst line
  refine ⟨(Log.line_sink? _ _).trans transcript.installed, ?_⟩
  rw [Log.line_written, transcript.installed, transcript.written]
  simp [Log.received]

theorem exists_transcript {page : String} {registry : Registry τ} {cancelled? : Option Bool}
    (installed : registry.log.sink? = some (.page page))
    (advances : Advances Registry.backend script (start registry cancelled?) later) :
    ∃ notes, Transcript script page (start registry cancelled?) later notes := by
  have consistent : (start registry cancelled?).Consistent script := start_consistent _ _
  induction advances with
  | refl =>
    exact ⟨[], installed, by simp, rfl, by simp, by simp [start], by simp [start]⟩
  | @tail middle later front last ih =>
    obtain ⟨notes, transcript⟩ := ih
    have noting := step_noting script middle
    rw [last] at noting
    cases noting with
    | silent _ _ uncalled answered own log executed => exact absurd rfl answered
    | ran _ index statement parameters value calls concrete note log executed =>
      have line := transcript.written_line log
      obtain rfl := (Advances.consistent front consistent).next_eq calls.next
      refine ⟨notes ++ [statement.operation.trace parameters (.ok value)], line.1, line.2, ?_, ?_,
        ?_, ?_⟩
      · simp [executed, transcript.counted]
      · refine forall_getElem?_concat.mpr ⟨transcript.noted, ?_⟩
        rw [transcript.counted]
        refine ⟨middle, statement, parameters, calls.of_advances front, ?_⟩
        rw [← Advances.handlers front, note]
      · rw [executed]
        intro record member
        rcases List.mem_append.mp member with old | new
        · exact transcript.concrete record old
        · obtain rfl := List.mem_singleton.mp new
          exact concrete
      · rw [executed]
        refine forall_getElem?_concat.mpr ⟨fun index record found => ?_, parameters, ?_⟩
        · obtain ⟨parameters, here⟩ := transcript.answered index record found
          exact ⟨parameters, List.getElem?_append_left (List.getElem?_eq_some_iff.mp here).1 ▸ here⟩
        · rw [← transcript.counted, List.getElem?_concat_length]
          rfl

theorem Calls.advances_to {index : Nat} {statement : Statement} {parameters : Parameters}
    (calls : Calls Registry.backend script first before index statement parameters)
    (advances : Advances Registry.backend script first later)
    (stopped : (later.step Registry.backend script).1 ≠ .ok true) :
    Advances Registry.backend script before later := by
  rcases calls.advances.linear advances with onwards | back
  · exact onwards
  · cases back using Relation.ReflTransGen.head_induction_on with
    | refl => exact .refl
    | head step rest => exact absurd (congrArg Prod.fst step) stopped

section Stopped

variable {page : String} {registry : Registry τ} {cancelled? : Option Bool} {notes : List String}
  (installed : registry.log.sink? = some (.page page))
  (advances : Advances Registry.backend script (start registry cancelled?) later)
  (stopped : (later.step Registry.backend script).1 ≠ .ok true)

include installed advances stopped

theorem passes_of_calls {index : Nat} {statement : Statement} {parameters : Parameters}
    (calls : Calls Registry.backend script (start registry cancelled?) before index statement
      parameters) :
    statement.Passes (later.executed.take index) parameters := by
  have consistent := calls.advances.consistent (start_consistent registry cancelled?)
  obtain ⟨notes, transcript⟩ := exists_transcript installed calls.advances
  have earlier := Advances.executed_prefix (calls.advances_to advances stopped)
  rw [consistent.next_eq calls.next, ← List.prefix_iff_eq_take.mp earlier]
  exact Statement.passes_of_prepare (consistent.declared transcript.concrete) consistent.bound
    calls.prepared

omit installed in
theorem noted_or_calls
    (transcript : Transcript script page (start registry cancelled?) later notes)
    {index : Nat} {note : String} (noted : NotedAt script (start registry cancelled?) index note) :
    notes[index]? = some note ∨
      ∃ statement parameters, Calls Registry.backend script later later index statement parameters ∧
        note = Registry.note (later.state.handlers.get? statement.operation) statement.operation
          parameters later.state.state := by
  have consistent : (start registry cancelled?).Consistent script := start_consistent _ _
  obtain ⟨before, statement, parameters, calls, rfl⟩ := noted
  have length := (calls.advances.consistent consistent).next_eq calls.next
  rcases (calls.advances_to advances stopped).eq_or_longer with rfl | longer
  · rw [← advances.handlers]
    exact .inr ⟨statement, parameters,
      ⟨⟨.refl, calls.next, calls.here⟩, calls.allowed, calls.prepared⟩, rfl⟩
  · have inside : index < notes.length := by
      rw [transcript.counted]
      omega
    have here := List.getElem?_eq_getElem inside
    have same := (transcript.noted index _ here).unique consistent
      ⟨before, statement, parameters, calls, rfl⟩
    exact .inl (same ▸ here)

end Stopped

structure Report.Traced (script : Script) (page : String) (first : Execution (Registry τ))
    (report : Report (Registry τ)) (notes : List String) : Prop where
  written : report.final.state.log.written =
    first.state.log.written ++ notes.map fun note => (page, note ++ "\n")
  noted : ∀ index note, notes[index]? = some note ↔ NotedAt script first index note
  recorded : ∀ before index statement parameters,
    Calls Registry.backend script first before index statement parameters →
      ∃ note, notes[index]? = some note ∧
        Registry.Recorded (first.state.handlers.get? statement.operation) statement.operation
          parameters before.state.state note
  passed : ∀ before index statement parameters,
    Calls Registry.backend script first before index statement parameters →
      statement.Passes (report.final.executed.take index) parameters
  answered : ∀ (index : Nat) (record : Executed), report.final.executed[index]? = some record →
    ∃ parameters, notes[index]? =
      some (Operation.trace ⟨record.action, record.kind⟩ parameters (.ok record.result))
  -- Only a statement that was called and then failed is noted without a record.
  counted : notes.length = report.final.executed.length ∧
      (∀ error, report.error? = some error → ¬ error.cause.OfBackend) ∨
    notes.length = report.final.executed.length + 1 ∧
      ∃ error, report.error? = some error ∧ error.cause.OfBackend

theorem recorded_of_noted {notes : List String}
    (noted : ∀ index note, notes[index]? = some note ↔ NotedAt script first index note)
    (before : Execution (Registry τ)) (index : Nat) (statement : Statement)
    (parameters : Parameters)
    (calls : Calls Registry.backend script first before index statement parameters) :
    ∃ note, notes[index]? = some note ∧
      Registry.Recorded (first.state.handlers.get? statement.operation) statement.operation
        parameters before.state.state note :=
  ⟨_, (noted index _).mpr ⟨before, statement, parameters, calls, rfl⟩,
    Registry.note_recorded _ _ _ _⟩

theorem exists_traced {page : String} {registry : Registry τ} {cancelled? : Option Bool}
    {report : Report (Registry τ)} {answer : Except RunError Bool}
    (installed : registry.log.sink? = some (.page page))
    (advances : Advances Registry.backend script (start registry cancelled?) later)
    (step : later.step Registry.backend script = (answer, report.final))
    (stopped : answer ≠ .ok true)
    (reported : ∀ error, report.error? = some error ↔ answer = .error error) :
    ∃ notes, report.Traced script page (start registry cancelled?) notes := by
  have halted : (later.step Registry.backend script).1 ≠ .ok true := by rwa [step]
  obtain ⟨notes, transcript⟩ := exists_transcript installed advances
  have noting := step_noting script later
  rw [step] at noting
  have executed := noting.executed_eq stopped
  have passed : ∀ before index statement parameters,
      Calls Registry.backend script (start registry cancelled?) before index statement parameters →
        statement.Passes (report.final.executed.take index) parameters := by
    intro before index statement parameters calls
    rw [executed]
    exact passes_of_calls installed advances halted calls
  generalize final : report.final = last at noting
  cases noting with
  | silent _ _ uncalled answered own log =>
    have noted : ∀ index note, notes[index]? = some note ↔
        NotedAt script (start registry cancelled?) index note := by
      refine fun index note => ⟨transcript.noted index note, fun noted => ?_⟩
      rcases noted_or_calls advances halted transcript noted with here | ⟨_, _, calls, -⟩
      · exact here
      · exact absurd calls (uncalled _ _ _)
    refine ⟨notes, ?_, noted, recorded_of_noted noted, passed, ?_, ?_⟩
    · rw [final, log, transcript.written]
    · rw [executed]
      exact transcript.answered
    · rw [executed]
      exact .inl ⟨transcript.counted, fun error raised => own error ((reported error).mp raised)⟩
  | failed error _ index statement parameters calls ofBackend log =>
    have consistent := advances.consistent (start_consistent registry cancelled?)
    have place : notes.length = index := by
      rw [transcript.counted, consistent.next_eq calls.next]
    obtain ⟨-, written⟩ := transcript.written_line log
    have noted : ∀ other note, (notes ++ [Registry.note
        (later.state.handlers.get? statement.operation) statement.operation parameters
          later.state.state])[other]? = some note ↔
        NotedAt script (start registry cancelled?) other note := by
      refine fun other note => ⟨?_, fun noted => ?_⟩
      · refine forall_getElem?_concat.mpr ⟨transcript.noted, ?_⟩ other note
        rw [place, advances.handlers]
        exact ⟨later, statement, parameters, calls.of_advances advances, rfl⟩
      · rcases noted_or_calls advances halted transcript noted with here | ⟨_, _, calls', rfl⟩
        · exact List.getElem?_append_left (List.getElem?_eq_some_iff.mp here).1 ▸ here
        · obtain rfl : index = other := Option.some.inj (calls.next.symm.trans calls'.next)
          obtain ⟨-, rfl, rfl⟩ := calls.unique consistent calls'
          rw [← place, List.getElem?_concat_length]
    refine ⟨_, final ▸ written, noted, recorded_of_noted noted, passed, ?_, ?_⟩
    · rw [executed]
      intro index record found
      obtain ⟨parameters, here⟩ := transcript.answered index record found
      exact ⟨parameters, List.getElem?_append_left (List.getElem?_eq_some_iff.mp here).1 ▸ here⟩
    · rw [executed, List.length_append, transcript.counted]
      exact .inr ⟨rfl, error, (reported error).mpr rfl, ofBackend⟩
  | ran => exact absurd rfl stopped

/-- Whatever script is run against a registry with a working sink, the sink gets one line for each
statement that is called and nothing else, in the order of the statements. The line tells the
operation, the parameters with every reference replaced, and the answer of the handler, if need be
an answer that the run then refuses, or that the operation has no handler. -/
theorem run_traced (script : Script) {registry : Registry τ} {page : String}
    (installed : registry.log.sink? = some (.page page)) (cancelled? : Option Bool) :
    let first := start registry cancelled?
    ∃ notes, (run Registry.backend script first).Traced script page first notes := by
  intro first
  have consistent : first.Consistent script := start_consistent registry cancelled?
  obtain ⟨last, advances, ended⟩ := run_ends Registry.backend consistent
  generalize run Registry.backend script first = report at ended
  cases ended with
  | nothingLeft final step => exact exists_traced installed advances step (by simp) (by simp)
  | failed error final step =>
    exact exists_traced installed advances step (by simp) (by simp)

def networks : DryRun :=
  ((Registry.empty ∅).register "create" "vpc" (DryRun.create "vpc")
    |>.register "delete" "vpc" DryRun.answerId).install (.page "trace")

def fleeting : Script :=
  ⟨[⟨some "net", ⟨"create", "vpc", .ofList [("cidr", .given (.text "10.0.0.0/16"))]⟩, ⟨0, 34⟩⟩,
    ⟨none, ⟨"delete", "vpc", .ofList [("id", .given (.reference "net"))]⟩, ⟨35, 53⟩⟩,
    ⟨none, ⟨"create", "rocket", ∅⟩, ⟨54, 67⟩⟩], 0⟩

theorem run_traced_fleeting :
    let report := run Registry.backend fleeting (start networks none)
    networks.log.sink? = some (.page "trace") ∧
      (∃ notes, report.Traced fleeting "trace" (start networks none) notes) ∧
      report.final.state.log.written.map Prod.snd =
        ["create vpc cidr=10.0.0.0/16 -> vpc-1\n", "delete vpc id=vpc-1 -> vpc-1\n",
          "create rocket: unsupported\n"] := by
  intro report
  exact ⟨rfl, run_traced fleeting rfl none, by decide +kernel⟩

end Execution

end Runbook
