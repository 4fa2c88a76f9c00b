import Runbook.Dict
import Runbook.Value
import Runbook.Script.Quoted

set_option autoImplicit false

namespace Runbook

inductive Argument where
  | given (value : Value)
  | hole (key : String)
deriving DecidableEq

structure Call where
  action : String
  kind : String
  arguments : Dict String Argument
deriving DecidableEq

structure Statement where
  name? : Option String
  call : Call
  span : Span
deriving DecidableEq

structure Script where
  statements : List Statement
  file : Nat
deriving DecidableEq

namespace Argument

def isHole : Argument → Bool
  | .hole _ => true
  | .given _ => false

def value? : Argument → Option Value
  | .given value => some value
  | .hole _ => none

def key? : Argument → Option String
  | .hole key => some key
  | .given _ => none

def same : Argument → Argument → Bool
  | .given first, .given second => first.same second
  | .hole first, .hole second => first == second
  | _, _ => false

def needsQuotes (chars : List Char) : Bool :=
  chars.isEmpty ||
    chars.any (fun c =>
      Text.isSpace c || Text.isControl c || c == '"' || c == '\x7b' || c == '\x7d' || c == '=' ||
        c == '#') ||
    chars.head? == some '$' || !(Value.ofChars chars).isText

def toChars : Argument → List Char
  | .given (.text content) =>
    if needsQuotes content.toList then Script.Quoted.write content.toList else content.toList
  | .given value => value.toText.toList
  | .hole key => '\x7b' :: (key.toList ++ ['\x7d'])

end Argument

namespace Call

def holes (call : Call) : List (String × String) :=
  call.arguments.entries.filterMap fun entry => entry.2.key?.map (entry.1, ·)

def values (call : Call) : List (String × Value) :=
  call.arguments.entries.filterMap fun entry => entry.2.value?.map (entry.1, ·)

def isResolved (call : Call) : Bool := call.arguments.values.all (!·.isHole)

def set (call : Call) (parameter : String) (argument : Argument) : Call :=
  { call with arguments := call.arguments.insert parameter argument }

def same (first second : Call) : Bool :=
  first.action == second.action && first.kind == second.kind &&
    first.arguments.keys == second.arguments.keys &&
    (first.arguments.values.zip second.arguments.values).all fun pair => pair.1.same pair.2

def toChars (call : Call) : List Char :=
  call.action.toList ++ ' ' :: call.kind.toList ++
    call.arguments.entries.flatMap fun entry =>
      ' ' :: entry.1.toList ++ '=' :: entry.2.toChars

end Call

namespace Statement

def same (first second : Statement) : Bool :=
  first.name? == second.name? && first.call.same second.call

def toChars (statement : Statement) : List Char :=
  match statement.name? with
  | none => statement.call.toChars
  | some name => name.toList ++ [' ', '=', ' '] ++ statement.call.toChars

def toText (statement : Statement) : String := String.ofList statement.toChars

end Statement

namespace Script

def empty : Script := ⟨[], 0⟩

instance : Inhabited Script := ⟨empty⟩

def same (first second : Script) : Bool :=
  first.statements.length == second.statements.length &&
    (first.statements.zip second.statements).all fun pair => pair.1.same pair.2

def toChars (script : Script) : List Char :=
  script.statements.flatMap fun statement => statement.toChars ++ ['\n']

def toText (script : Script) : String := String.ofList script.toChars

end Script

end Runbook
