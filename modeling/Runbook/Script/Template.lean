import Runbook.Script.Statement
import Runbook.Text.Casing

set_option autoImplicit false

namespace Runbook

abbrev Fills := Dict String Value

structure Hole where
  statement : Nat
  parameter : String
  key : String
deriving DecidableEq

def Hole.toText (hole : Hole) : String :=
  "statement " ++ toString (hole.statement + 1) ++ ": " ++ hole.parameter ++ "=\x7b" ++ hole.key ++
    "\x7d"

def question (key : String) : String :=
  String.ofList (Text.capitalize
    (key.toList.map fun c => if c == '.' || c == '-' then ' ' else c))

inductive InputError where
  | noAnswer (question : String)
  | unusable (question reason : String)
  | unreadable (question reason : String)
deriving DecidableEq

def InputError.message : InputError → String
  | .noAnswer question => "no answer given for '" ++ question ++ "'"
  | .unusable question reason => "unusable answer for '" ++ question ++ "': " ++ reason
  | .unreadable question reason => "cannot read answer for '" ++ question ++ "': " ++ reason

abbrev Asker (σ : Type) := String → σ → Except InputError Value × σ

namespace Argument

def fill (fills : Fills) : Argument → Argument
  | .given value => .given value
  | .hole key =>
    match fills.get? key with
    | some value => .given value
    | none => .hole key

end Argument

namespace Statement

def holesAt (position : Nat) (statement : Statement) : List Hole :=
  statement.call.holes.map fun hole => ⟨position, hole.1, hole.2⟩

def changeArguments (statement : Statement)
    (change : Dict String Argument → Dict String Argument) : Statement :=
  { statement with
    call := { statement.call with arguments := change statement.call.arguments } }

end Statement

namespace Script

def holesFrom (position : Nat) : List Statement → List Hole
  | [] => []
  | statement :: rest => statement.holesAt position ++ holesFrom (position + 1) rest

def holes (script : Script) : List Hole := holesFrom 0 script.statements

def fill (fills : Fills) (script : Script) : Script :=
  { script with statements := script.statements.map (·.changeArguments (·.map (·.fill fills))) }

def fillCount (fills : Fills) (script : Script) : Nat :=
  script.holes.countP fun hole => fills.contains hole.key

def ensureResolved (script : Script) : Except (List Hole) Unit :=
  if script.holes.isEmpty then .ok () else .error script.holes

def unresolvedMessage (holes : List Hole) : String :=
  toString holes.length ++ " unresolved hole(s): " ++ Text.join ", " (holes.map Hole.toText)

end Script

structure Inquiry (σ : Type) where
  answers : Fills
  filled : Nat
  failure? : Option InputError
  source : σ

namespace Inquiry

variable {σ : Type}

def answer (ask : Asker σ) (inquiry : Inquiry σ) : Argument → Argument × Inquiry σ
  | .given value => (.given value, inquiry)
  | .hole key =>
    if inquiry.failure?.isSome then (.hole key, inquiry)
    else
      -- Keys, not questions, are asked for once: two keys may put the same question.
      match inquiry.answers.get? key with
      | some value => (.given value, { inquiry with filled := inquiry.filled + 1 })
      | none =>
        match ask (question key) inquiry.source with
        | (.ok value, source) =>
          (.given value, ⟨inquiry.answers.insert key value, inquiry.filled + 1, none, source⟩)
        | (.error failure, source) =>
          (.hole key, { inquiry with failure? := some failure, source := source })

def answerStatement (ask : Asker σ) (inquiry : Inquiry σ) (statement : Statement) :
    Statement × Inquiry σ :=
  let answered := statement.call.arguments.mapState (answer ask) inquiry
  (statement.changeArguments fun _ => answered.1, answered.2)

def answerStatements (ask : Asker σ) : Inquiry σ → List Statement → List Statement × Inquiry σ
  | inquiry, [] => ([], inquiry)
  | inquiry, statement :: rest =>
    let answered := answerStatement ask inquiry statement
    let others := answerStatements ask answered.2 rest
    (answered.1 :: others.1, others.2)

def result (inquiry : Inquiry σ) : Except InputError Nat :=
  match inquiry.failure? with
  | some failure => .error failure
  | none => .ok inquiry.filled

end Inquiry

/-- Fills the holes of a script by asking. After a failure nothing more is asked or filled, and
what was filled before it stays filled. -/
def Script.inquire {σ : Type} (ask : Asker σ) (source : σ) (script : Script) : Script × Inquiry σ :=
  let answered := Inquiry.answerStatements ask ⟨∅, 0, none, source⟩ script.statements
  ({ script with statements := answered.1 }, answered.2)

end Runbook
