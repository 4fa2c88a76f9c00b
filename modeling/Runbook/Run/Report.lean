import Runbook.Run.Execution
import Runbook.Value.Json

set_option autoImplicit false

namespace Runbook

namespace Bindings

def toJson (bindings : Bindings) : Json :=
  .object (bindings.entries.map fun entry => (entry.1, entry.2.toJson))

def toLines (bindings : Bindings) : List Char :=
  bindings.entries.flatMap fun entry =>
    entry.1.toList ++ [' ', '=', ' '] ++ entry.2.toText.toList ++ ['\n']

def report (json : Bool) (bindings : Bindings) : String :=
  String.ofList (if json then bindings.toJson.pretty ++ ['\n'] else bindings.toLines)

end Bindings

namespace Executed

def toJson (executed : Executed) : Json :=
  .object [
    ("index", .count executed.index),
    ("action", .text executed.action),
    ("entity", .text executed.kind),
    ("ident", match executed.name? with
      | some name => .text name
      | none => .null),
    ("result", executed.result.toJson)]

def toLine (executed : Executed) : List Char :=
  [' ', ' '] ++ Nat.toDigits 10 (executed.index + 1) ++ ['.', ' '] ++
    (match executed.name? with
      | some name => name.toList ++ [' ', '=', ' ']
      | none => []) ++
    executed.action.toList ++ ' ' :: executed.kind.toList ++ [' ', '-', '>', ' '] ++
    executed.result.toText.toList ++ ['\n']

def report : List Executed → String
  | [] => "nothing was executed\n"
  | executed =>
    "already executed (not rolled back):\n" ++ String.ofList (executed.flatMap toLine)

end Executed

end Runbook
