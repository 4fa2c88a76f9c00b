import Runbook.Script.Statement
import Runbook.Text.Escape

set_option autoImplicit false

namespace Runbook

inductive Dump where
  | leaf (text : String)
  | record (name : String) (fields : List (String × Dump))
  | wrapped (name : String) (inner : Dump)
  | list (items : List Dump)
  | dict (entries : List (String × Dump))

namespace Dump

def indent (level : Nat) : String := String.ofList (List.replicate (4 * level) ' ')

mutual

def render (level : Nat) : Dump → String
  | .leaf text => text
  | .record name fields =>
    name ++ " \x7b\n" ++ renderFields (level + 1) fields ++ indent level ++ "\x7d"
  | .wrapped name inner =>
    name ++ "(\n" ++ indent (level + 1) ++ render (level + 1) inner ++ ",\n" ++ indent level ++ ")"
  | .list [] => "[]"
  | .list items => "[\n" ++ renderItems (level + 1) items ++ indent level ++ "]"
  | .dict [] => "\x7b\x7d"
  | .dict entries => "\x7b\n" ++ renderEntries (level + 1) entries ++ indent level ++ "\x7d"

def renderFields (level : Nat) : List (String × Dump) → String
  | [] => ""
  | (name, value) :: rest =>
    indent level ++ name ++ ": " ++ render level value ++ ",\n" ++ renderFields level rest

def renderItems (level : Nat) : List Dump → String
  | [] => ""
  | item :: rest => indent level ++ render level item ++ ",\n" ++ renderItems level rest

def renderEntries (level : Nat) : List (String × Dump) → String
  | [] => ""
  | (key, value) :: rest =>
    indent level ++ Text.inspect key ++ ": " ++ render level value ++ ",\n" ++
      renderEntries level rest

end

def text (content : String) : Dump := .leaf (Text.inspect content)

end Dump

def Value.dump : Value → Dump
  | .text content => .wrapped "String" (.text content)
  | .number n => .wrapped "Number" (.leaf (Number.dumpLayout.write n))
  | .flag on => .wrapped "Boolean" (.leaf (if on then "true" else "false"))
  | .reference name => .wrapped "Reference" (.text name)

def Argument.dump : Argument → Dump
  | .given value => .wrapped "Resolved" value.dump
  | .hole key => .wrapped "Pending" (.text key)

def Span.dump (span : Span) : Dump :=
  .leaf (toString span.start ++ ".." ++ toString span.stop)

def Call.dump (call : Call) : Dump :=
  .record "Expression" [
    ("action", .text call.action),
    ("entity", .text call.kind),
    ("params", .dict (call.arguments.entries.map fun entry => (entry.1, entry.2.dump)))]

def Statement.dump (statement : Statement) : Dump :=
  match statement.name? with
  | none =>
    .record "Expression" [("expr", statement.call.dump), ("span", statement.span.dump)]
  | some name =>
    .record "Declaration"
      [("ident", .text name), ("expr", statement.call.dump), ("span", statement.span.dump)]

def Script.dump (script : Script) : Dump :=
  .record "Script" [
    ("statements", .list (script.statements.map Statement.dump)),
    ("source_id", .leaf (toString script.file))]

end Runbook
