import Runbook.Number.Decimal

/-!
The shortest decimal of a number: the fewest digits that read back as the number, and of the
decimals with so many digits the nearest to it. For each count of digits only the two neighbours
of the exact value can be nearest, so these are tried.
-/

set_option autoImplicit false

namespace Runbook

inductive Tie where
  | up
  | toEven
deriving DecidableEq

namespace Magnitude

def exact (rank : Nat) : Decimal :=
  ⟨units rank * Nat.pow 5 unitExponent, -unitExponent⟩

/-- Whether the upper neighbour is to be taken before the lower one, when the value lies
`part / whole` of the way from the lower. -/
def prefersUpper (tie : Tie) (lower part whole : Nat) : Bool :=
  whole < 2 * part ||
    (2 * part == whole && match tie with
      | .up => true
      | .toEven => lower % 2 == 1)

def neighbours (tie : Tie) (rank dropped : Nat) : List Decimal :=
  let value := exact rank
  let step := Nat.pow 10 dropped
  let lower : Decimal := ⟨value.coefficient / step, value.exponent + dropped⟩
  let upper : Decimal := ⟨value.coefficient / step + 1, value.exponent + dropped⟩
  if value.coefficient % step = 0 then [lower]
  else if prefersUpper tie lower.coefficient (value.coefficient % step) step then [upper, lower]
  else [lower, upper]

def readsBack (rank : Nat) (decimal : Decimal) : Bool := decimal.rank == rank

def shortestOf (tie : Tie) (rank : Nat) (drops : List Nat) : Decimal :=
  let reading? := drops.findSome? fun dropped =>
    (neighbours tie rank dropped).find? (readsBack rank)
  reading?.getD (exact rank)

def shortest (tie : Tie) (rank : Nat) : Decimal :=
  -- Seventeen digits tell every two numbers apart, so no more need to be kept.
  let length := Decimal.digitCount (exact rank).coefficient
  shortestOf tie rank ((List.range 17).map fun kept => length - (kept + 1))

end Magnitude

end Runbook
