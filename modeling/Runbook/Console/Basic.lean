import Runbook.Script.Template
import Runbook.Text.Utf8

set_option autoImplicit false

namespace Runbook

structure Console where
  input : List UInt8
  screen : List Char
  flushes : Nat
  /-- The flush, counted from one, that fails, and why it does. -/
  fault? : Option (Nat × String)

namespace Console

def start (input : List UInt8) : Console := ⟨input, [], 0, none⟩

def newline : UInt8 := 10

def display (text : String) (console : Console) : Console :=
  { console with screen := console.screen ++ text.toList }

def flush (console : Console) : Option String × Console :=
  let flushes := console.flushes + 1
  let failure? := (console.fault?.filter (·.1 == flushes)).map Prod.snd
  (failure?, { console with flushes := flushes })

def splitLine (input : List UInt8) : List UInt8 × List UInt8 :=
  let line := input.takeWhile (· != newline)
  match input.dropWhile (· != newline) with
  | [] => (line, [])
  | last :: rest => (line ++ [last], rest)

def answer (question : String) (console : Console) : Except InputError String × Console :=
  match (console.display (question ++ "? ")).flush with
  | (some failure, console) => (.error (.unreadable question failure), console)
  | (none, console) =>
    -- An empty line is an answer; only the end of the input is none.
    if console.input.isEmpty then (.error (.noAnswer question), console)
    else
      let (line, rest) := splitLine console.input
      let console := { console with input := rest }
      match Text.decode? line with
      | none => (.error (.unreadable question Text.notUtf8), console)
      | some text => (.ok (Text.trim text), console)

def ask : Asker Console := fun question console =>
  match console.answer question with
  | (.error failure, console) => (.error failure, console)
  | (.ok "", console) => (.error (.unusable question "empty answer"), console)
  | (.ok text, console) => (.ok (.ofLiteral text), console)

end Console

end Runbook
