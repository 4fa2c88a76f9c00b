import Runbook.Number.Shortest
import Runbook.Text.Class

set_option autoImplicit false

namespace Runbook

structure Layout where
  tie : Tie
  /-- The powers of ten of a first digit, from the first number to below the second, that are
  written without an exponent; all of them if absent. -/
  positional : Option (Int × Int)
  pointZero : Bool
  exponentPlus : Bool
  zeroSign : Bool
  infinity : String
  notNumber : String

namespace Layout

def zeros (count : Nat) : List Char := List.replicate count '0'

def significant (digits : List Char) : List Char := Text.dropEnd (· == '0') digits

def plain (pointZero : Bool) (digits : List Char) (point : Int) : List Char :=
  if point ≤ 0 then ['0', '.'] ++ zeros (-point).toNat ++ digits
  else if digits.length ≤ point.toNat then
    digits ++ zeros (point.toNat - digits.length) ++ if pointZero then ['.', '0'] else []
  else digits.take point.toNat ++ ['.'] ++ digits.drop point.toNat

def scientific (exponentPlus : Bool) (digits : List Char) (power : Int) : List Char :=
  let exponent := Nat.toDigits 10 power.natAbs
  let sign := if power < 0 then ['-'] else if exponentPlus then ['+'] else []
  match digits with
  | [] => []
  | [digit] => digit :: 'e' :: (sign ++ exponent)
  | digit :: rest => digit :: '.' :: (rest ++ 'e' :: (sign ++ exponent))

def writeMagnitude (layout : Layout) (rank : Nat) : List Char :=
  if rank = 0 then if layout.pointZero then ['0', '.', '0'] else ['0']
  else
    let decimal := Magnitude.shortest layout.tie rank
    let all := Nat.toDigits 10 decimal.coefficient
    let point : Int := all.length + decimal.exponent
    -- The grid may be finer than it has to be; then zeros end the coefficient.
    let digits := significant all
    let positional :=
      match layout.positional with
      | none => true
      | some (least, bound) => least ≤ point - 1 && point - 1 < bound
    if positional then plain layout.pointZero digits point
    else scientific layout.exponentPlus digits (point - 1)

def signed (negative : Bool) (chars : List Char) : List Char :=
  if negative then '-' :: chars else chars

def writeChars (layout : Layout) : Number → List Char
  | .finite negative magnitude =>
    signed (negative && (layout.zeroSign || magnitude.rank != 0)) (layout.writeMagnitude magnitude.rank)
  | .infinite negative => signed negative layout.infinity.toList
  | .nan => layout.notNumber.toList

def write (layout : Layout) (number : Number) : String := String.ofList (layout.writeChars number)

end Layout

namespace Number

/-- Numbers in scripts, reports and messages never have an exponent. -/
def reportLayout : Layout where
  tie := .up
  positional := none
  pointZero := false
  exponentPlus := false
  zeroSign := false
  infinity := "inf"
  notNumber := "NaN"

def dumpLayout : Layout where
  tie := .up
  positional := some (-4, 16)
  pointZero := true
  exponentPlus := false
  zeroSign := true
  infinity := "inf"
  notNumber := "NaN"

def toText (number : Number) : String := reportLayout.write number

instance : ToString Number := ⟨toText⟩

end Number

end Runbook
