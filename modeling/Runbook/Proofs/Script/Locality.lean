import Runbook.Proofs.Script.Offset
import Runbook.Proofs.Text.Lines

set_option autoImplicit false

namespace Runbook.Script

def ParseError.shift (offset : Nat) (error : ParseError) : ParseError :=
  { error with fault := error.fault.shift offset }

def joined (file offset : Nat) :
    Except (List ParseError) Script → Except (List ParseError) Script →
      Except (List ParseError) Script
  | .ok first, .ok second =>
    .ok ⟨first.statements ++ second.statements.map (Statement.shift offset), file⟩
  | .ok _, .error errors => .error (errors.map (ParseError.shift offset))
  | .error errors, .ok _ => .error errors
  | .error first, .error second => .error (first ++ second.map (ParseError.shift offset))

inductive Contribution where
  | accepted (statement : Statement)
  | rejected (error : ParseError)
  | nothing
deriving DecidableEq

namespace Contribution

def statement? : Contribution → Option Statement
  | .accepted statement => some statement
  | .rejected _ | .nothing => none

def error? : Contribution → Option ParseError
  | .rejected error => some error
  | .accepted _ | .nothing => none

def shift (offset : Nat) : Contribution → Contribution
  | .accepted statement => .accepted (statement.shift offset)
  | .rejected error => .rejected (error.shift offset)
  | .nothing => .nothing

theorem statement?_shift (offset : Nat) (contribution : Contribution) :
    (contribution.shift offset).statement? = contribution.statement?.map (Statement.shift offset) := by
  cases contribution <;> rfl

theorem error?_shift (offset : Nat) (contribution : Contribution) :
    (contribution.shift offset).error? = contribution.error?.map (ParseError.shift offset) := by
  cases contribution <;> rfl

def of (file : Nat) : Except Fault (Option Statement) → Contribution
  | .error fault => .rejected ⟨fault, file⟩
  | .ok (some statement) => .accepted statement
  | .ok none => .nothing

theorem of_shiftResult (file offset : Nat) (reading : Except Fault (Option Statement)) :
    of file (shiftResult offset (Option.map (Statement.shift offset)) reading) =
      (of file reading).shift offset := by
  rcases reading with fault | _ | statement <;> rfl

end Contribution

def gather (file : Nat) (contributions : List Contribution) : Except (List ParseError) Script :=
  match contributions.filterMap Contribution.error? with
  | [] => .ok ⟨contributions.filterMap Contribution.statement?, file⟩
  | errors => .error errors

theorem gather_append (file offset : Nat) (first second : List Contribution) :
    gather file (first ++ second.map (Contribution.shift offset)) =
      joined file offset (gather file first) (gather file second) := by
  have statements : (second.map (Contribution.shift offset)).filterMap Contribution.statement? =
      (second.filterMap Contribution.statement?).map (Statement.shift offset) := by
    simp only [List.filterMap_map, List.map_filterMap, Function.comp_def,
      Contribution.statement?_shift]
  have errors : (second.map (Contribution.shift offset)).filterMap Contribution.error? =
      (second.filterMap Contribution.error?).map (ParseError.shift offset) := by
    simp only [List.filterMap_map, List.map_filterMap, Function.comp_def, Contribution.error?_shift]
  simp only [gather, List.filterMap_append, statements, errors]
  cases first.filterMap Contribution.error? <;> cases second.filterMap Contribution.error? <;>
    simp [joined]

@[simp] theorem gather_accepted (file : Nat) (statement : Statement) :
    gather file [.accepted statement] = .ok ⟨[statement], file⟩ := rfl

@[simp] theorem gather_rejected (file : Nat) (error : ParseError) :
    gather file [.rejected error] = .error [error] := rfl

@[simp] theorem gather_nothing (file : Nat) : gather file [.nothing] = .ok ⟨[], file⟩ := rfl

theorem gather_accepted_iff {file : Nat} {contribution : Contribution} {statement : Statement} :
    gather file [contribution] = .ok ⟨[statement], file⟩ ↔ contribution = .accepted statement := by
  cases contribution <;> simp

theorem gather_rejected_iff {file : Nat} {contribution : Contribution} {error : ParseError} :
    gather file [contribution] = .error [error] ↔ contribution = .rejected error := by
  cases contribution <;> simp

def contributions (file : Nat) (source : List Char) : List Contribution :=
  (readLines 0 (Text.lines source)).map (Contribution.of file)

theorem parseChars_eq_gather (file : Nat) (source : List Char) :
    parseChars file source = gather file (contributions file source) := by
  have error (reading : Except Fault (Option Statement)) :
      (Contribution.of file reading).error? = (faultOf? reading).map (⟨·, file⟩) := by
    rcases reading with fault | _ | statement <;> rfl
  have statement (reading : Except Fault (Option Statement)) :
      (Contribution.of file reading).statement? = acceptedOf? reading := by
    rcases reading with fault | _ | statement <;> rfl
  simp only [parseChars, gather, contributions, List.filterMap_map, Function.comp_def, error,
    statement, ← List.map_filterMap]
  cases (readLines 0 (Text.lines source)).filterMap faultOf? <;> rfl

theorem parseChars_of_line (file : Nat) {line : List Char} (single : Text.lines line = [line]) :
    parseChars file line = gather file [.of file (readLine 0 line)] := by
  rw [parseChars_eq_gather, contributions, single]
  rfl

theorem contributions_append (file : Nat) {first second : List Char}
    (between : Text.lines (first ++ second) = Text.lines first ++ Text.lines second) :
    contributions file (first ++ second) =
      contributions file first ++
        (contributions file second).map (Contribution.shift (Text.utf8Length first)) := by
  have further := readLines_shift (Text.utf8Length first) 0 (Text.lines second)
  simp only [contributions, between, readLines_append, List.map_append, List.map_map]
  rw [Text.lines, Text.flatten_cutAfter, Nat.zero_add, ← Nat.add_zero (Text.utf8Length first),
    further]
  simp only [List.map_map, Function.comp_def, Contribution.of_shiftResult, Nat.add_zero]

theorem readLine_none_iff {position : Nat} {line : List Char} :
    readLine position line = .ok none ↔ scan position (withoutLineEnds line) = .ok [] := by
  constructor
  next =>
    intro done
    obtain ⟨lexemes, scanned, nothing⟩ := bind_eq_ok_iff.mp done
    rw [scanned, statementOf?_none_iff.mp nothing]
  next =>
    intro scanned
    rw [readLine, scanned]
    rfl

inductive Contributes (file offset : Nat) (line : List Char) : Contribution → Prop
  | accepted {statement : Statement} : parseChars file line = .ok ⟨[statement], file⟩ →
      Contributes file offset line (.accepted (statement.shift offset))
  | rejected {error : ParseError} : parseChars file line = .error [error] →
      Contributes file offset line (.rejected (error.shift offset))
  | nothing : scan 0 (withoutLineEnds line) = .ok [] → Contributes file offset line .nothing

theorem contributes_iff {file offset : Nat} {line : List Char} {contribution : Contribution}
    (single : Text.lines line = [line]) :
    Contributes file offset line contribution ↔
      contribution = (Contribution.of file (readLine 0 line)).shift offset := by
  have alone := parseChars_of_line file single
  constructor
  next =>
    intro contributes
    cases contributes with
    | accepted done =>
      rw [gather_accepted_iff.mp (alone.symm.trans done)]
      rfl
    | rejected failed =>
      rw [gather_rejected_iff.mp (alone.symm.trans failed)]
      rfl
    | nothing scanned =>
      rw [readLine_none_iff.mpr scanned]
      rfl
  next =>
    rintro rfl
    rcases reading : readLine 0 line with fault | _ | statement
    · exact .rejected (alone.trans (gather_rejected_iff.mpr (by rw [reading]; rfl)))
    · exact .nothing (readLine_none_iff.mp reading)
    · exact .accepted (alone.trans (gather_accepted_iff.mpr (by rw [reading]; rfl)))

theorem parse_append (file : Nat) {first second : String}
    (between : first = "" ∨ ∃ body, first = body ++ "\n") :
    parse file (first ++ second) =
      joined file first.utf8ByteSize (parse file first) (parse file second) := by
  have cut : Text.lines (first.toList ++ second.toList) =
      Text.lines first.toList ++ Text.lines second.toList := by
    rcases between with rfl | ⟨body, rfl⟩
    · rfl
    · rw [String.toList_append]
      exact Text.lines_append
  simp only [parse, String.toList_append, parseChars_eq_gather, contributions_append file cut,
    gather_append, Text.utf8Length_toList]

theorem getElem?_contributions {file index : Nat} {source line : List Char}
    (here : (Text.lines source)[index]? = some line) (contribution : Contribution) :
    (contributions file source)[index]? = some contribution ↔
      Contributes file (Text.utf8Length ((Text.lines source).take index).flatten) line
        contribution := by
  have single : Text.lines line = [line] := Text.cutAfter_of_mem (List.mem_of_getElem? here)
  rw [contributes_iff single, ← Contribution.of_shiftResult, ← readLine_shift, contributions,
    List.getElem?_map, getElem?_readLines here, Nat.zero_add, Nat.add_zero, Option.map_some,
    Option.some.injEq]
  exact eq_comm

/-- Parsing goes line by line. A text that is empty or ends with a newline is parsed without regard
to the text behind it, where only places change. Every line contributes one statement, one error
or, if it has no token, nothing, and what the lines contribute is all that a text gives. -/
theorem parse_line_by_line :
    (∀ (file : Nat) (first second : String), (first = "" ∨ ∃ body, first = body ++ "\n") →
      parse file (first ++ second) =
        joined file first.utf8ByteSize (parse file first) (parse file second)) ∧
    ∀ (file : Nat) (source : String),
      (Text.lines source.toList).flatten = source.toList ∧
      ∃ contributions : List Contribution,
        contributions.length = (Text.lines source.toList).length ∧
        (∀ index line, (Text.lines source.toList)[index]? = some line → ∀ contribution,
          contributions[index]? = some contribution ↔
            Contributes file (Text.utf8Length ((Text.lines source.toList).take index).flatten) line
              contribution) ∧
        parse file source = gather file contributions := by
  constructor
  next =>
    intro file first second between
    exact parse_append file between
  next =>
    intro file source
    refine ⟨Text.flatten_cutAfter _ _, contributions file source.toList, ?_, ?_, ?_⟩
    · rw [contributions, List.length_map, length_readLines]
    · intro index line here contribution
      exact getElem?_contributions here contribution
    · exact parseChars_eq_gather file source.toList

theorem parse_line_by_line_faults :
    "é=\r\n".utf8ByteSize = 5 ∧
    parse 3 ("é=\r\n" ++ "a b\n =") = joined 3 5 (parse 3 "é=\r\n") (parse 3 "a b\n =") ∧
    parse 3 ("é=\r\n" ++ "a b\n =") =
      .error [⟨⟨.badName, ⟨0, 2⟩⟩, 3⟩, ⟨⟨.misplaced .action, ⟨10, 11⟩⟩, 3⟩] := by
  refine ⟨by decide, parse_line_by_line.1 3 _ _ (.inr ⟨"é=\r", rfl⟩), ?_⟩
  decide +kernel

end Runbook.Script
