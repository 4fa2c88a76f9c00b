import Runbook.Script.Statement
import Runbook.Script.Token
import Runbook.Text.Casing

set_option autoImplicit false

namespace Runbook

namespace Script

def readWord (role : Role) (stop : Nat) : List Lexeme → Except Fault (String × List Lexeme)
  | ⟨.word text, _⟩ :: rest => .ok (text, rest)
  | lexeme :: _ => .error ⟨.misplaced role, lexeme.span⟩
  | [] => .error ⟨.missing role, ⟨stop, stop⟩⟩

def argumentOf (lexeme : Lexeme) : Except Fault Argument :=
  match lexeme.token with
  | .word text => .ok (.given (.ofLiteral text))
  | .quoted text => .ok (.given (.text text))
  | .hole key => .ok (.hole key)
  | .equals => .error ⟨.strayEquals, lexeme.span⟩

def addArgument (arguments : Dict String Argument) (parameter : String) (name value : Lexeme) :
    Except Fault (Dict String Argument) :=
  match argumentOf value with
  | .error fault => .error fault
  | .ok argument =>
    if arguments.contains parameter then
      .error ⟨.repeated parameter, ⟨name.span.start, value.span.stop⟩⟩
    else .ok (arguments.insert parameter argument)

def readArguments (arguments : Dict String Argument) :
    List Lexeme → Except Fault (Dict String Argument)
  | [] => .ok arguments
  | name :: rest =>
    match name.token with
    | .word text =>
      let parameter := Text.lowercase text
      match rest with
      -- The fault is put on the name, not on the end of the line.
      | [] | [⟨.equals, _⟩] => .error ⟨.valueMissing parameter, name.span⟩
      | ⟨.equals, _⟩ :: value :: others =>
        match addArgument arguments parameter name value with
        | .error fault => .error fault
        | .ok more => readArguments more others
      | value :: others =>
        match addArgument arguments parameter name value with
        | .error fault => .error fault
        | .ok more => readArguments more others
    | _ => .error ⟨.parameterExpected, name.span⟩

def readCall (stop : Nat) (lexemes : List Lexeme) : Except Fault Call := do
  let (action, afterAction) ← readWord .action stop lexemes
  let (kind, afterKind) ← readWord .kind stop afterAction
  let arguments ← readArguments ∅ afterKind
  return ⟨Text.lowercase action, Text.lowercase kind, arguments⟩

def spanOf (first : Lexeme) (rest : List Lexeme) : Span :=
  ⟨first.span.start, ((first :: rest).getLast (by simp)).span.stop⟩

def readName (lexeme : Lexeme) : Except Fault String :=
  match lexeme.token with
  | .word text => if Text.isName text.toList then .ok text else .error ⟨.badName, lexeme.span⟩
  | _ => .error ⟨.badName, lexeme.span⟩

def statementOf? : List Lexeme → Except Fault (Option Statement)
  | [] => .ok none
  | first :: rest =>
    let span := spanOf first rest
    match rest with
    -- An equals sign in second place makes a declaration, whatever stands before it.
    | ⟨.equals, _⟩ :: body => do
      let name ← readName first
      let call ← readCall span.stop body
      return some ⟨some name, call, span⟩
    | _ => do
      let call ← readCall span.stop (first :: rest)
      return some ⟨none, call, span⟩

def withoutLineEnds (line : List Char) : List Char :=
  Text.dropEnd (fun c => c == '\n' || c == '\r') line

def readLine (position : Nat) (line : List Char) : Except Fault (Option Statement) := do
  statementOf? (← scan position (withoutLineEnds line))

def readLines (position : Nat) : List (List Char) → List (Except Fault (Option Statement))
  | [] => []
  | line :: rest => readLine position line :: readLines (position + Text.utf8Length line) rest

structure ParseError where
  fault : Fault
  file : Nat
deriving DecidableEq

def faultOf? : Except Fault (Option Statement) → Option Fault
  | .error fault => some fault
  | .ok _ => none

def acceptedOf? : Except Fault (Option Statement) → Option Statement
  | .ok statement? => statement?
  | .error _ => none

def parseChars (file : Nat) (source : List Char) : Except (List ParseError) Script :=
  let readings := readLines 0 (Text.lines source)
  match readings.filterMap faultOf? with
  | [] => .ok ⟨readings.filterMap acceptedOf?, file⟩
  | faults => .error (faults.map (⟨·, file⟩))

def parse (file : Nat) (source : String) : Except (List ParseError) Script :=
  parseChars file source.toList

end Script

end Runbook
