import Runbook.Console.Basic
import Runbook.Number.Decimal

set_option autoImplicit false

namespace Runbook

namespace Console

structure InstanceType where
  name : String
  remark : String

def instanceTypes : List InstanceType :=
  [⟨"t2.nano", ":   vCPU=1, CPU/hour=3, Mem GiB=0.5, EBS only"⟩,
    ⟨"t2.micro", ":  vCPU=1, CPU/hour=6, Mem GiB=1, EBS only"⟩,
    ⟨"t2.small", ":  vCPU=1, CPU/hour=12, Mem GiB=2, EBS only"⟩,
    ⟨"t2.medium", ": vCPU=2, CPU/hour=24, Mem GiB=4, EBS only"⟩,
    ⟨"t2.large", ":  vCPU=2, CPU/hour=36, Mem GiB=8, EBS only"⟩,
    ⟨"t2.xlarge", ": vCPU=4, CPU/hour=54, Mem GiB=16, EBS only"⟩,
    ⟨"t2.2xlarge", ": vCPU=8, CPU/hour=81, Mem GiB=32, EBS only"⟩]

def wholeNumber? (width : Nat) (text : String) : Option Nat :=
  let digits := match text.toList with
    | '+' :: digits => digits
    | digits => digits
  if digits.isEmpty || !digits.all Text.isDigit then none
  else (some (Decimal.natOfDigits digits)).filter (· < Nat.pow 2 width)

def countQuestion : String := "Number of instances"

def typeQuestion : String := "Type of instance"

def menuLines : (number : Nat) → List InstanceType → String
  | _, [] => ""
  | number, type :: rest =>
    toString number ++ ". " ++ type.name ++ type.remark ++ "\n" ++ menuLines (number + 1) rest

def menu : String := "\n" ++ menuLines 1 instanceTypes

def countOf (text : String) : Except InputError Nat :=
  match wholeNumber? 32 text with
  | none => .error (.unusable countQuestion ("'" ++ text ++ "' is not a positive number"))
  | some 0 => .error (.unusable countQuestion "at least one instance is required")
  | some count => .ok count

def typeOf (text : String) : Except InputError InstanceType :=
  let chosen? := match wholeNumber? 64 text with
    | some (place + 1) => instanceTypes[place]?
    | _ => none
  match chosen? with
  | some type => .ok type
  | none =>
    .error (.unusable typeQuestion
      ("choose a number between 1 and " ++ toString instanceTypes.length))

def instanceScript (count : Nat) (type : InstanceType) : String :=
  "create instance count=" ++ toString count ++ " type=" ++ type.name

def buildInstance (console : Console) : Except InputError (Option String) × Console :=
  match console.answer countQuestion with
  | (.error failure, console) => (.error failure, console)
  | (.ok counted, console) =>
    match countOf counted with
    | .error failure => (.error failure, console)
    | .ok count =>
      -- The newline belongs to the question, also where an error quotes it.
      match (console.display menu).answer ("\n" ++ typeQuestion) with
      | (.error failure, console) => (.error failure, console)
      | (.ok chosen, console) =>
        match typeOf chosen with
        | .error failure => (.error failure, console)
        | .ok type =>
          let script := instanceScript count type
          match (console.display ("\nDone\n\n" ++ script ++ "\n\n")).answer "About to run (y/n)" with
          | (.error failure, console) => (.error failure, console)
          | (.ok confirmed, console) =>
            (.ok (if confirmed = "y" then some script else none), console)

end Console

end Runbook
