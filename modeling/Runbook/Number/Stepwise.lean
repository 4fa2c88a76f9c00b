import Runbook.Number.Numeral

/-!
Numerals read in steps, in arithmetic of fixed size: the leading digits as a whole number of 64
bits, and then a product with a power of ten or a quotient by one. Each step rounds to the nearest
number, so the result may be next to the one that is nearest to the numeral.
-/

set_option autoImplicit false

namespace Runbook

namespace Magnitude

def product (first second : Nat) : Nat :=
  Decimal.rankOfRatio (units first * units second) (Nat.pow 2 unitExponent)

def quotient (first second : Nat) : Nat :=
  Decimal.rankOfRatio (units first * Nat.pow 2 unitExponent) (units second)

def greatestPower : Nat := 308

def powerOfTen (exponent : Nat) : Nat := Decimal.rank ⟨1, exponent⟩

def shrink (rank exponent : Nat) : Nat :=
  if exponent ≤ greatestPower then quotient rank (powerOfTen exponent)
  else if rank = 0 then 0
  else shrink (quotient rank (powerOfTen greatestPower)) (exponent - greatestPower)
termination_by exponent
decreasing_by
  simp only [greatestPower] at *
  omega

/-- Multiplies by a power of ten. Only zero can be multiplied by one beyond the greatest. -/
def grow? (rank exponent : Nat) : Option Nat :=
  if exponent ≤ greatestPower then some (product rank (powerOfTen exponent))
  else if rank = 0 then some 0
  else none

end Magnitude

namespace Decimal

def scaled? (decimal : Decimal) : Option Nat :=
  let start := Decimal.rank ⟨decimal.coefficient, 0⟩
  if decimal.exponent < 0 then some (Magnitude.shrink start (-decimal.exponent).toNat)
  else Magnitude.grow? start decimal.exponent.toNat

end Decimal

namespace Numeral

def coefficientBound : Nat := Nat.pow 2 64

def takeDigits (coefficient : Nat) : List Char → Nat × List Char
  | [] => (coefficient, [])
  | c :: rest =>
    let longer := 10 * coefficient + Decimal.digitValue c
    if longer < coefficientBound then takeDigits longer rest else (coefficient, c :: rest)

def leading (numeral : Numeral) : Decimal :=
  let fraction := numeral.fraction.getD []
  let (whole, places) := takeDigits 0 numeral.whole
  let (coefficient, ignored) := takeDigits whole fraction
  ⟨coefficient, numeral.exponent + places.length - (fraction.length - ignored.length)⟩

end Numeral

namespace Number

def ofLeading? (chars : List Char) : Option Number := do
  let numeral ← Numeral.ofChars? chars
  if !numeral.isCanonical then none
  else
    let rank ← numeral.leading.scaled?
    if bounded : rank < Magnitude.count then
      return .finite (Numeral.isNegative numeral.sign) ⟨rank, bounded⟩
    else none

end Number

end Runbook
