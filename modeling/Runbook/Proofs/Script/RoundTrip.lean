import Runbook.Script.Template
import Runbook.Proofs.Script.Writable

set_option autoImplicit false

namespace Runbook

def Argument.reread : Argument → Argument
  | .given (.number n) => .given (.ofLiteral n.toText)
  | other => other

structure Statement.RereadAs (first second : Statement) : Prop where
  name : second.name? = first.name?
  action : second.call.action = first.call.action
  kind : second.call.kind = first.call.kind
  arguments : second.call.arguments = first.call.arguments.map Argument.reread

namespace Script

theorem ofChars_of_isText {chars : List Char} (isText : (Value.ofChars chars).isText = true) :
    Value.ofChars chars = .text (String.ofList chars) := by
  revert isText
  unfold Value.ofChars
  split
  next name =>
    split
    next => intro isText; cases isText
    next => intro; rfl
  next =>
    split
    next => intro isText; cases isText
    next =>
      split
      next => intro isText; cases isText
      next =>
        split
        next => intro isText; cases isText
        next => intro; rfl

theorem ofLiteral_of_bare {content : String} (bare : Argument.needsQuotes content.toList = false) :
    Value.ofLiteral content = .text content := by
  simp only [Argument.needsQuotes, Bool.or_eq_false_iff, Bool.not_eq_false'] at bare
  rw [Value.ofLiteral, ofChars_of_isText bare.2, String.ofList_toList]

theorem ofLiteral_reference {name : String} (isName : Text.isName name.toList = true) :
    Value.ofLiteral (Value.reference name).toText = .reference name := by
  have chars : (Value.reference name).toText.toList = '$' :: name.toList := String.toList_append
  rw [Value.ofLiteral, chars, Value.ofChars, if_pos isName, String.ofList_toList]

end Script

open Script

namespace Argument

def operand : Argument → Operand
  | .given (.text content) =>
    if needsQuotes content.toList then .quoted content else .word content
  | .given value => .word value.toText
  | .hole key => .hole key

theorem token_operand (argument : Argument) : argument.operand.token = argument.token := by
  cases argument with
  | hole key => rfl
  | given value =>
    cases value with
    | text content =>
      simp only [operand, token]
      split <;> rfl
    | number n => rfl
    | flag on => rfl
    | reference name => rfl

theorem argument_operand {argument : Argument} (writable : argument.Writable) :
    argument.operand.argument = argument.reread := by
  cases argument with
  | hole key => rfl
  | given value =>
    cases value with
    | text content =>
      simp only [operand]
      split
      next => rfl
      next bare =>
        simp only [Operand.argument, ofLiteral_of_bare (by simpa using bare)]
        rfl
    | number n => rfl
    | flag on => cases on <;> rfl
    | reference name =>
      simp only [operand, Operand.argument, ofLiteral_reference writable]
      rfl

end Argument

namespace Statement

def sentence (statement : Statement) : Sentence :=
  ⟨statement.name?, statement.call.action, statement.call.kind,
    statement.call.arguments.entries.map fun entry => ⟨entry.1, true, entry.2.operand⟩⟩

theorem tokens_sentence (statement : Statement) : statement.sentence.tokens = statement.tokens := by
  have settings : statement.sentence.settings.flatMap Setting.tokens =
      statement.call.arguments.entries.flatMap Call.entryTokens := by
    simp only [sentence, List.flatMap_map, Setting.tokens, Argument.token_operand, if_true]
    rfl
  rw [Sentence.tokens, Sentence.callTokens, settings]
  rfl

theorem entries_sentence {statement : Statement} (writable : statement.Writable) :
    statement.sentence.settings.map Setting.entry =
      (statement.call.arguments.map Argument.reread).entries := by
  simp only [sentence, List.map_map, Dict.map]
  refine List.map_congr_left fun entry member => ?_
  obtain ⟨keyword, argument⟩ := writable.call.arguments entry member
  simp [Setting.entry, Setting.parameter, keyword.lowered, Argument.argument_operand argument]

theorem derives_sentence {statement : Statement} (writable : statement.Writable) :
    statement.sentence.Derives statement.tokens := by
  refine ⟨(tokens_sentence statement).symm, writable.name, ?_⟩
  rw [← Setting.map_fst_entry, entries_sentence writable]
  exact Dict.distinct_keys _

end Statement

namespace Script

theorem statementOf?_of_tokens {statement : Statement} (writable : statement.Writable)
    {lexemes : List Lexeme} (same : lexemes.map (·.token) = statement.tokens) :
    ∃ reread, statementOf? lexemes = .ok (some reread) ∧ statement.RereadAs reread := by
  have derives := Statement.derives_sentence writable
  obtain ⟨reread, read, denotes, -⟩ := statementOf?_of_derives (same ▸ derives)
  obtain ⟨name, call⟩ := (Sentence.denotes_iff derives.distinct).mp denotes
  refine ⟨reread, read, name, ?_, ?_, ?_⟩
  · rw [call]
    exact writable.call.action.lowered
  · rw [call]
    exact writable.call.kind.lowered
  · rw [call, Sentence.call, Statement.entries_sentence writable]
    exact Dict.ofList_entries _

theorem readLine_of_writable {statement : Statement} (writable : statement.Writable)
    (position : Nat) :
    ∃ reread, readLine position (statement.toChars ++ ['\n']) = .ok (some reread) ∧
      statement.RereadAs reread := by
  have renders := Statement.renders writable
  obtain ⟨front, last, shape, ink⟩ := renders.ink
  have line : withoutLineEnds (statement.toChars ++ ['\n']) = statement.toChars := by
    rw [withoutLineEnds, Text.dropEnd_eq_rdropWhile, List.rdropWhile_concat_pos _ _ _ (by decide),
      shape, List.rdropWhile_concat_neg]
    rintro isEnd
    simp_all [Text.isBlank]
  obtain ⟨lexemes, scanned, same⟩ := renders.line position
  obtain ⟨reread, read, rereadAs⟩ := statementOf?_of_tokens writable same
  refine ⟨reread, ?_, rereadAs⟩
  rw [readLine, line, scanned]
  exact read

theorem readLines_of_writable {statements : List Statement}
    (writable : ∀ statement ∈ statements, statement.Writable) (position : Nat) :
    ∃ rereads, readLines position (statements.map fun statement => statement.toChars ++ ['\n']) =
        rereads.map (fun reread => .ok (some reread)) ∧
      List.Forall₂ Statement.RereadAs statements rereads := by
  induction statements generalizing position with
  | nil => exact ⟨[], rfl, .nil⟩
  | cons statement rest ih =>
    obtain ⟨here, later⟩ := List.forall_mem_cons.mp writable
    obtain ⟨first, read, rereadAs⟩ := readLine_of_writable here position
    obtain ⟨others, reads, rereadsAs⟩ :=
      ih later (position + Text.utf8Length (statement.toChars ++ ['\n']))
    exact ⟨first :: others, by rw [List.map_cons, readLines, read, reads, List.map_cons],
      .cons rereadAs rereadsAs⟩

theorem parse_toText {script : Script}
    (writable : ∀ statement ∈ script.statements, statement.Writable) (file : Nat) :
    ∃ reread, parse file script.toText = .ok reread ∧
      List.Forall₂ Statement.RereadAs script.statements reread.statements := by
  obtain ⟨rereads, reads, rereadAs⟩ := readLines_of_writable writable 0
  have unbroken : ∀ statement ∈ script.statements, '\n' ∉ statement.toChars :=
    fun statement member => (Statement.renders (writable statement member)).unbroken
  have faultless : (rereads.map fun reread => Except.ok (some reread)).filterMap faultOf? = [] := by
    simp [List.filterMap_map, Function.comp_def, faultOf?]
  have accepted :
      (rereads.map fun reread => Except.ok (some reread)).filterMap acceptedOf? = rereads := by
    simp [List.filterMap_map, Function.comp_def, acceptedOf?]
  refine ⟨⟨rereads, file⟩, ?_, rereadAs⟩
  rw [parse, toText, String.toList_ofList, parseChars, toChars, Text.lines_flatMap unbroken, reads]
  simp only [faultless, accepted]

theorem fill_writable {fills : Fills}
    (named : ∀ key name, fills.get? key = some (.reference name) → Text.isName name.toList = true)
    {script : Script} (writable : ∀ statement ∈ script.statements, statement.Writable) :
    ∀ statement ∈ (script.fill fills).statements, statement.Writable := by
  intro filled member
  obtain ⟨statement, among, rfl⟩ := List.mem_map.mp member
  obtain ⟨name, action, kind, arguments⟩ := writable statement among
  refine ⟨name, action, kind, fun entry inside => ?_⟩
  obtain ⟨⟨parameter, argument⟩, before, rfl⟩ := List.mem_map.mp inside
  refine ⟨(arguments _ before).1, ?_⟩
  have old := (arguments _ before).2
  cases argument with
  | given value => exact old
  | hole key =>
    simp only [Argument.fill]
    cases found : fills.get? key with
    | none => exact old
    | some value =>
      cases value with
      | reference name => exact named key name found
      | _ => trivial

/-- A script that was read, with any of its holes filled, is read back from its text. -/
theorem parse_toText_fill {file again : Nat} {source : String} {script : Script} {fills : Fills}
    (parsed : parse file source = .ok script)
    (named : ∀ key name, fills.get? key = some (.reference name) →
      Text.isName name.toList = true) :
    ∃ reread, parse again (script.fill fills).toText = .ok reread ∧
      List.Forall₂ Statement.RereadAs (script.fill fills).statements reread.statements :=
  parse_toText (fill_writable named (parse_writable parsed)) again

def labelled : Script where
  statements := [
    ⟨some "net", ⟨"create", "vpc", .ofList [
      ("limit", .hole "net.limit"), ("note", .given (.text "a \"b\" #\x07")),
      ("size", .given (.ofLiteral "2")), ("via", .hole "net.via")]⟩, ⟨0, 79⟩⟩,
    ⟨none, ⟨"attach", "subnet", .ofList [
      ("on", .hole "peer"), ("to", .given (.reference "net"))]⟩, ⟨80, 111⟩⟩]
  file := 0

def labels : Fills where
  entries := [("net.limit", .number (.infinite false)),
    ("net.via", .text "line\x0d\n# = \" \x7b \x7d $x"), ("peer", .reference "net")]
  ascending := by decide +kernel

def labelledSource : String :=
  "net = CREATE Vpc Size=2 limit \x7b net.limit \x7d NOTE=\"a \\\"b\\\" #\\u\x7b7\x7d\" " ++
    "via=\x7bnet.via\x7d\nattach subnet to=$net on=\x7bpeer\x7d"

theorem parse_toText_fill_labelled :
    parse 0 labelledSource = .ok labelled ∧
      (∀ key name, labels.get? key = some (.reference name) → Text.isName name.toList = true) ∧
      ∃ reread, parse 0 (labelled.fill labels).toText = .ok reread ∧
        List.Forall₂ Statement.RereadAs (labelled.fill labels).statements reread.statements := by
  have parsed : parse 0 labelledSource = .ok labelled := by decide +kernel
  have named : ∀ key name, labels.get? key = some (.reference name) →
      Text.isName name.toList = true := by
    intro key name found
    obtain ⟨key', member⟩ := Dict.mem_of_find found
    obtain ⟨-, rfl⟩ : key' = "peer" ∧ name = "net" := by simpa [labels] using member
    decide
  exact ⟨parsed, named, parse_toText_fill parsed named⟩

end Script

end Runbook
