import Runbook.Text.Class
import Runbook.Text.CaseData

set_option autoImplicit false

namespace Runbook.Text

def CaseRun.covers (run : CaseRun) (c : Char) : Bool :=
  run.first ≤ c.toNat && c.toNat ≤ run.last && (c.toNat - run.first) % run.step == 0

def CaseRun.apply (run : CaseRun) (c : Char) : Char :=
  Char.ofNat (run.target + (c.toNat - run.first))

def mapRuns (runs : List CaseRun) (c : Char) : Char :=
  match runs.find? (·.covers c) with
  | some run => run.apply c
  | none => c

def lowerChar (c : Char) : List Char :=
  if c = 'İ' then ['i', '\u0307'] else [mapRuns lowerRuns c]

def upperChar (c : Char) : List Char :=
  match upperExpansions.lookup c.toNat with
  | some expansion => expansion.map Char.ofNat
  | none => [mapRuns upperRuns c]

def isCased (c : Char) : Bool := within casedRanges c

def isCaseIgnorable (c : Char) : Bool := within ignorableRanges c

def leadsWithCased (chars : List Char) : Bool :=
  match chars.dropWhile isCaseIgnorable with
  | [] => false
  | c :: _ => isCased c

def lowerAfter (before : List Char) : List Char → List Char
  | [] => []
  | c :: rest =>
    let lowered :=
      -- A final sigma has a letter before it and none behind, marks between them left aside.
      if c = 'Σ' then [if leadsWithCased before && !leadsWithCased rest then 'ς' else 'σ']
      else lowerChar c
    lowered ++ lowerAfter (c :: before) rest

def lowerChars (chars : List Char) : List Char := lowerAfter [] chars

def lowercase (text : String) : String := String.ofList (lowerChars text.toList)

def capitalize : List Char → List Char
  | [] => []
  | c :: rest => upperChar c ++ rest

end Runbook.Text
