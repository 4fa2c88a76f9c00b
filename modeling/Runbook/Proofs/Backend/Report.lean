import Mathlib.Data.List.Forall2
import Runbook.Proofs.Backend.DryRun
import Runbook.Proofs.Script.Writable
import Runbook.Proofs.Text.Lines
import Runbook.Run.Report
import Runbook.Script.Template

set_option autoImplicit false

namespace Runbook

namespace Text

def Itemises (items : List String) (chars : List Char) : Prop :=
  List.Forall₂ (fun item line => item.toList <+: line) items (lines chars)

theorem itemises_flatMap_iff {α : Type} {item : α → String} {write : α → List Char} {list : List α}
    (begins : ∀ element ∈ list, (item element).toList <+: write element) :
    Itemises (list.map item) (list.flatMap fun element => write element ++ ['\n']) ↔
      ∀ element ∈ list, '\n' ∉ write element := by
  refine ⟨fun itemised => ?_, fun unbroken => ?_⟩
  next =>
    rw [← length_lines_flatMap_iff, ← itemised.length_eq, List.length_map]
  next =>
    rw [Itemises, lines_flatMap unbroken, List.forall₂_map_left_iff, List.forall₂_map_right_iff,
      List.forall₂_same]
    exact fun element member => (begins element member).trans (List.prefix_append _ _)

theorem itemises_cons_iff {heading : String} {items : List String} {chars : List Char}
    (unbroken : '\n' ∉ heading.toList) :
    Itemises ((heading ++ "\n") :: items) ((heading ++ "\n").toList ++ chars) ↔
      Itemises items chars := by
  have inside : ∀ c ∈ heading.toList, (c == '\n') = false := by
    intro c member
    exact beq_eq_false_iff_ne.mpr fun same => unbroken (same ▸ member)
  have cut : lines ((heading ++ "\n").toList ++ chars) =
      (heading ++ "\n").toList :: lines chars := by
    have ended : (heading ++ "\n").toList = heading.toList ++ ['\n'] := String.toList_append
    rw [ended, List.append_assoc]
    exact cutAfter_append inside rfl
  rw [Itemises, cut, List.forall₂_cons]
  exact and_iff_right (List.prefix_refl _)

end Text

theorem Script.newline_not_mem_of_isWord {word : List Char} (isWord' : isWord word = true) :
    '\n' ∉ word :=
  fun newline => absurd (isWordPart_of_mem isWord' newline) (by decide)

theorem Value.isText_of_newline {value : Value} (concrete : value.isReference = false)
    (newline : '\n' ∈ value.toText.toList) : ∃ content, value = .text content := by
  cases value with
  | text content => exact ⟨content, rfl⟩
  | number n => exact absurd newline (Script.newline_not_mem_of_isWord n.isWord_toText)
  | flag on => cases on <;> exact absurd newline (by decide)
  | reference name => simp [Value.isReference] at concrete

structure Executed.Unbroken (record : Executed) : Prop where
  action : '\n' ∉ record.action.toList
  kind : '\n' ∉ record.kind.toList
  name : ∀ name, record.name? = some name → '\n' ∉ name.toList

theorem Statement.Writable.unbroken {statement : Statement} (writable : statement.Writable)
    (index : Nat) (result : Value) : (statement.record index result).Unbroken where
  action := Script.newline_not_mem_of_isWord writable.call.action.word
  kind := Script.newline_not_mem_of_isWord writable.call.kind.word
  name name named :=
    Script.newline_not_mem_of_isWord (Text.isWord_of_isName (writable.name name named))

theorem Script.Recorded.unbroken {script : Script} {fills : Fills} {executed : List Executed}
    (writable : ∀ statement ∈ script.statements, statement.Writable)
    (recorded : (script.fill fills).Recorded executed) :
    ∀ record ∈ executed, record.Unbroken := by
  intro record member
  obtain ⟨index, here⟩ := List.mem_iff_getElem?.mp member
  obtain ⟨filled, place, -, action, kind, name⟩ := recorded index record here
  obtain ⟨statement, among, rfl⟩ := List.mem_map.mp (List.mem_of_getElem? place)
  have same : record = statement.record record.index record.result := by
    cases record
    simp_all [Statement.record, Statement.changeArguments]
  exact same ▸ (writable statement among).unbroken record.index record.result

namespace Executed

def item (index : Nat) : String := "  " ++ toString (index + 1) ++ ". "

def front (record : Executed) : List Char :=
  (item record.index).toList ++
    ((match record.name? with
      | some name => name.toList ++ [' ', '=', ' ']
      | none => []) ++
    record.action.toList ++ ' ' :: record.kind.toList ++ [' ', '-', '>', ' '])

theorem toList_item (index : Nat) :
    (item index).toList = [' ', ' '] ++ Nat.toDigits 10 (index + 1) ++ ['.', ' '] := by
  simp [item, Nat.toString_eq_repr, Nat.toList_repr]

theorem toLine_eq (record : Executed) :
    record.toLine = (record.front ++ record.result.toText.toList) ++ ['\n'] := by
  cases named : record.name? <;> simp [toLine, front, toList_item, named]

theorem Unbroken.front {record : Executed} (unbroken : record.Unbroken) :
    '\n' ∉ record.front := by
  have digits : '\n' ∉ Nat.toDigits 10 (record.index + 1) := fun member =>
    absurd (Nat.isDigit_of_mem_toDigits (by decide) (by decide) member) (by decide)
  have name : '\n' ∉ (match record.name? with
      | some name => name.toList ++ [' ', '=', ' ']
      | none => []) := by
    cases named : record.name? with
    | none => exact List.not_mem_nil
    | some name => simp [unbroken.name name named]
  simp [Executed.front, toList_item, digits, name, unbroken.action, unbroken.kind]

theorem itemises_lines_iff {executed : List Executed}
    (unbroken : ∀ record ∈ executed, record.Unbroken) :
    Text.Itemises (executed.map fun record => item record.index) (executed.flatMap toLine) ↔
      ∀ record ∈ executed, '\n' ∉ record.result.toText.toList := by
  have begins : ∀ record ∈ executed,
      (item record.index).toList <+: record.front ++ record.result.toText.toList := by
    intro record _
    rw [front, List.append_assoc]
    exact List.prefix_append _ _
  rw [funext toLine_eq, Text.itemises_flatMap_iff begins]
  refine forall₂_congr fun record member => ?_
  simp [(unbroken record member).front]

def heading : String := "already executed (not rolled back):"

theorem report_itemises_iff {script : Script} {executed : List Executed}
    (recorded : script.Recorded executed) (unbroken : ∀ record ∈ executed, record.Unbroken)
    (nonempty : executed ≠ []) :
    Text.Itemises ((heading ++ "\n") :: (List.range executed.length).map item)
        (report executed).toList ↔
      ∀ record ∈ executed, '\n' ∉ record.result.toText.toList := by
  have positions : (List.range executed.length).map item =
      executed.map fun record => item record.index := by
    refine List.ext_getElem (by simp) fun index inside inside' => ?_
    rw [List.length_map] at inside'
    obtain ⟨-, -, place, -⟩ := recorded index _ (List.getElem?_eq_getElem inside')
    simp [place]
  have text : (report executed).toList = (heading ++ "\n").toList ++ executed.flatMap toLine := by
    cases executed with
    | nil => exact absurd rfl nonempty
    | cons first rest => simp [report, heading]
  rw [text, Text.itemises_cons_iff (by decide), positions, itemises_lines_iff unbroken]

end Executed

theorem Bindings.report_itemises_iff {bindings : Bindings} {executed : List Executed}
    (bound : bindings.entries = executed.filterMap Executed.binding?)
    (unbroken : ∀ record ∈ executed, record.Unbroken) :
    Text.Itemises (bindings.names.map (· ++ " = ")) (bindings.report false).toList ↔
      ∀ entry ∈ bindings.entries, '\n' ∉ entry.2.toText.toList := by
  have text : (bindings.report false).toList = bindings.entries.flatMap fun entry =>
      ((entry.1 ++ " = ").toList ++ entry.2.toText.toList) ++ ['\n'] := by
    simp [report, toLines]
  rw [text, names, List.map_map, Function.comp_def,
    Text.itemises_flatMap_iff fun _ _ => List.prefix_append _ _]
  refine forall₂_congr fun entry member => ?_
  rw [bound] at member
  obtain ⟨record, inside, binds⟩ := List.mem_filterMap.mp member
  obtain ⟨name, named, rfl⟩ : ∃ name, record.name? = some name ∧ (name, record.result) = entry := by
    simpa [Executed.binding?] using binds
  simp [(unbroken record inside).name name named]

namespace DryRun

open Execution

section Results

variable {script : Script} {past : List Executed} {execution : Execution DryRun}

theorem newline_not_mem_identifier {kind : String} (unbroken : '\n' ∉ kind.toList)
    (number : Nat) : '\n' ∉ (identifier kind number).toList := by
  have digits : '\n' ∉ Nat.toDigits 10 number := fun member =>
    absurd (Nat.isDigit_of_mem_toDigits (by decide) (by decide) member) (by decide)
  simp [identifier, unbroken, Nat.toString_eq_repr, Nat.toList_repr, digits]

theorem Tallied.passed_of_newline (tallied : Tallied script past execution)
    (unbroken : ∀ record ∈ execution.executed, record.Unbroken) (index : Nat) {record : Executed}
    (here : execution.executed[index]? = some record)
    (newline : '\n' ∈ record.result.toText.toList) :
    ∃ content, record.result = .text content ∧ ∃ statement ∈ script.statements,
      statement.call.arguments.get? "id" = some (.given (.text content)) := by
  induction index using Nat.strongRecOn generalizing record with
  | ind index ih =>
    have member := List.mem_of_getElem? here
    by_cases creates : record.action = "create"
    next =>
      obtain ⟨number, result⟩ :=
        tallied.numbered.result_of_create (List.mem_append_right past member) creates
      rw [result] at newline
      exact absurd newline (newline_not_mem_identifier (unbroken record member).kind number)
    next =>
      obtain ⟨statement, argument, place, passes, passed⟩ :=
        tallied.echoes index record here creates
      obtain ⟨content, result⟩ := Value.isText_of_newline (tallied.concrete record member) newline
      generalize record.result = value at passed newline result
      cases passed with
      | same value concrete =>
        exact ⟨content, result, statement, List.mem_of_getElem? place, result ▸ passes⟩
      | result name earlier declared =>
        have among : earlier ∈ execution.executed.take index :=
          List.mem_of_mem_filter (declared ▸ List.mem_singleton_self earlier)
        obtain ⟨position, before⟩ := List.mem_iff_getElem?.mp among
        obtain ⟨less, same⟩ := List.getElem?_eq_some_iff.mp before
        rw [List.getElem_take] at same
        rw [List.length_take] at less
        exact ih position (by omega) (List.getElem?_eq_some_iff.mpr ⟨by omega, same⟩) newline

end Results

structure Reported (script : Script) (execution : Execution DryRun) : Prop where
  bindings : Text.Itemises (execution.bindings.names.map (· ++ " = "))
      (execution.bindings.report false).toList ↔
    ∀ entry ∈ execution.bindings.entries, '\n' ∉ entry.2.toText.toList
  executed : execution.executed ≠ [] →
    (Text.Itemises
        ((Executed.heading ++ "\n") :: (List.range execution.executed.length).map Executed.item)
        (Executed.report execution.executed).toList ↔
      ∀ record ∈ execution.executed, '\n' ∉ record.result.toText.toList)
  passed : ∀ record ∈ execution.executed, '\n' ∈ record.result.toText.toList →
    ∃ content, record.result = .text content ∧ ∃ statement ∈ script.statements,
      statement.call.arguments.get? "id" = some (.given (.text content))

theorem Tallied.reported {script : Script} {fills : Fills} {past : List Executed}
    {execution : Execution DryRun} (tallied : Tallied (script.fill fills) past execution)
    (writable : ∀ statement ∈ script.statements, statement.Writable) :
    Reported (script.fill fills) execution := by
  have recorded := tallied.consistent.recorded
  have unbroken := recorded.unbroken writable
  refine ⟨Bindings.report_itemises_iff tallied.consistent.bound unbroken,
    Executed.report_itemises_iff recorded unbroken, fun record member newline => ?_⟩
  obtain ⟨index, here⟩ := List.mem_iff_getElem?.mp member
  exact tallied.passed_of_newline unbroken index here newline

/-- However a parsed script is filled, stepped, cancelled and run against a dry run, which may have
been used before: the plain reports have one line for each binding and for each record, which
begins as it should, exactly if no value in them holds a newline; and a value holds one only if a
statement has passed the very text as its identifier. -/
theorem run_reported {file : Nat} {source : String} {script : Script}
    (parsed : Script.parse file source = .ok script) (fills : Fills) (acts : List Act)
    (cancelled? : Option Bool) (actions : List Action) :
    let filled := script.fill fills
    let begun := performs Registry.backend filled
      (start (Session.after acts).registry cancelled?) actions
    Reported filled (run Registry.backend filled begun).final := by
  have kept := Session.after_kept acts
  have started := start_tallied kept.stocked kept.numbered (script.fill fills) cancelled?
  have tallied := run_tallied (performs_tallied started actions)
  exact tallied.reported (Script.parse_writable parsed)

def namesakeSource : String := "x = delete vpc id=\"vpc-1\\nadmin = root\""

def namesake : Script :=
  ⟨[⟨some "x", ⟨"delete", "vpc", .ofList [("id", .given (.text "vpc-1\nadmin = root"))]⟩, ⟨0, 39⟩⟩],
    0⟩

theorem parse_namesake : Script.parse 0 namesakeSource = .ok namesake := by decide +kernel

theorem run_reported_namesake :
    Script.parse 0 namesakeSource = .ok namesake ∧
      Reported (namesake.fill ∅)
        (run Registry.backend (namesake.fill ∅) (start (Session.after []).registry none)).final :=
  ⟨parse_namesake, run_reported parse_namesake ∅ [] none []⟩

theorem executed_namesake :
    (run Registry.backend (namesake.fill ∅) (start new none)).final.executed =
      [⟨0, "delete", "vpc", some "x", .text "vpc-1\nadmin = root"⟩] := by
  decide +kernel

theorem namesake_reported :
    let final := (run Registry.backend (namesake.fill ∅) (start new none)).final
    Script.parse 0 namesakeSource = .ok namesake ∧
      final.bindings.names = ["x"] ∧
      final.bindings.report false = "x = vpc-1\nadmin = root\n" ∧
      ¬ Text.Itemises (final.bindings.names.map (· ++ " = "))
        (final.bindings.report false).toList ∧
      final.executed.length = 1 ∧
      Executed.report final.executed =
        "already executed (not rolled back):\n  1. x = delete vpc -> vpc-1\nadmin = root\n" ∧
      ¬ Text.Itemises
        ((Executed.heading ++ "\n") :: (List.range final.executed.length).map Executed.item)
        (Executed.report final.executed).toList := by
  have executed := executed_namesake
  have consistent : (run Registry.backend (namesake.fill ∅) (start new none)).final.Consistent
      (namesake.fill ∅) := run_consistent (start_consistent new none)
  generalize (run Registry.backend (namesake.fill ∅) (start new none)).final = final
    at executed consistent ⊢
  have entries : final.bindings.entries = [("x", .text "vpc-1\nadmin = root")] := by
    rw [consistent.bound, executed]
    rfl
  have names : final.bindings.names = ["x"] := by rw [Bindings.names, entries]; rfl
  have bindings : final.bindings.report false = "x = vpc-1\nadmin = root\n" := by
    rw [Bindings.report, Bindings.toLines, entries]
    rfl
  have records : Executed.report final.executed =
      "already executed (not rolled back):\n  1. x = delete vpc -> vpc-1\nadmin = root\n" := by
    rw [executed]
    rfl
  have count : final.executed.length = 1 := by rw [executed]; rfl
  refine ⟨parse_namesake, names, bindings, ?_, count, records, ?_⟩
  next =>
    rw [names, bindings]
    exact fun itemised => absurd itemised.length_eq (by decide)
  next =>
    rw [count, records]
    exact fun itemised => absurd itemised.length_eq (by decide)

end DryRun

end Runbook
