import Runbook.Number.Basic
import Runbook.Text.Class

set_option autoImplicit false

namespace Runbook

structure Decimal where
  coefficient : Nat
  exponent : Int
deriving DecidableEq

namespace Decimal

def digitValue (c : Char) : Nat := c.toNat - '0'.toNat

def natOfDigits (digits : List Char) : Nat :=
  digits.foldl (fun total c => 10 * total + digitValue c) 0

def digitCount (number : Nat) : Nat := (Nat.toDigits 10 number).length

def roundDiv (numerator denominator : Nat) : Nat :=
  let quotient := numerator / denominator
  let twice := 2 * (numerator % denominator)
  if denominator < twice || (twice == denominator && quotient % 2 == 1) then quotient + 1
  else quotient

/-- The rank of the magnitude nearest to `numerator / denominator` units. -/
def rankOfRatio (numerator denominator : Nat) : Nat :=
  -- Magnitudes of 53 bits or fewer are their own rank; each bit more doubles the step.
  let octaves := Nat.log2 (numerator / denominator) - 52
  octaves * Magnitude.octave + roundDiv numerator (denominator * Nat.pow 2 octaves)

def exactRank (decimal : Decimal) : Nat :=
  rankOfRatio
    (decimal.coefficient * Nat.pow 10 decimal.exponent.toNat * Nat.pow 2 Magnitude.unitExponent)
    (Nat.pow 10 (-decimal.exponent).toNat)

/-- The rank nearest to a decimal. Decimals of at least `10 ^ 309` are beyond the greatest number,
and those under `10 ^ -324` under half the least, so no power of ten grows out of hand. -/
def rank (decimal : Decimal) : Nat :=
  -- The decimal lies below `10 ^ height`, and at or above a tenth of that.
  let height : Int := digitCount decimal.coefficient + decimal.exponent
  if decimal.coefficient = 0 then 0
  else if 310 ≤ height then Magnitude.count
  else if height ≤ -324 then 0
  else decimal.exactRank

def toNumber (negative : Bool) (decimal : Decimal) : Number :=
  if bounded : decimal.rank < Magnitude.count then .finite negative ⟨decimal.rank, bounded⟩
  else .infinite negative

end Decimal

namespace Number

def ofInt (number : Int) : Number := Decimal.toNumber (number < 0) ⟨number.natAbs, 0⟩

def ofNat (number : Nat) : Number := Decimal.toNumber false ⟨number, 0⟩

end Number

end Runbook
