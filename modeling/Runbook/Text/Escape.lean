import Runbook.Text.Class
import Runbook.Text.PrintData

set_option autoImplicit false

namespace Runbook.Text

def hexDigits (number : Nat) : List Char := Nat.toDigits 16 number

def isPrintable (c : Char) : Bool := !within unprintableRanges c && !within extendingRanges c

def inspectChar (c : Char) : List Char :=
  match c with
  | '"' => ['\\', '"']
  | '\\' => ['\\', '\\']
  | '\n' => ['\\', 'n']
  | '\t' => ['\\', 't']
  | '\r' => ['\\', 'r']
  | '\x00' => ['\\', '0']
  | c =>
    if isPrintable c then [c] else ['\\', 'u', '\x7b'] ++ hexDigits c.toNat ++ ['\x7d']

def inspect (text : String) : String :=
  String.ofList (['"'] ++ text.toList.flatMap inspectChar ++ ['"'])

end Runbook.Text
