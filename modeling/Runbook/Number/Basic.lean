/-!
Binary64 numbers. The finite non-negative ones are counted in ascending order from zero, and the
place of a number in that order is its rank; in units of the least positive number, every finite
number is a whole multiple. The rank is also the number's bit pattern without the sign.
-/

set_option autoImplicit false

namespace Runbook

namespace Magnitude

def octave : Nat := Nat.pow 2 52

def count : Nat := 2047 * octave

/-- The binary logarithm of the inverse of the least positive number. -/
def unitExponent : Nat := 1074

/-- The multiple of the unit that stands at `rank`: ranks below two octaves count units, and
from there on each octave has twice the distance of the one before. -/
def units (rank : Nat) : Nat :=
  (rank - (rank / octave - 1) * octave) * Nat.pow 2 (rank / octave - 1)

end Magnitude

structure Magnitude where
  rank : Nat
  bounded : rank < Magnitude.count
deriving DecidableEq

inductive Number where
  | finite (negative : Bool) (magnitude : Magnitude)
  | infinite (negative : Bool)
  | nan
deriving DecidableEq

namespace Number

def zero : Number := .finite false ⟨0, by decide⟩

instance : Inhabited Number := ⟨zero⟩

def isFinite : Number → Bool
  | .finite _ _ => true
  | _ => false

/-- Equality as arithmetic has it: the two zeros are equal, and nothing equals `nan`. -/
def same : Number → Number → Bool
  | .finite sign first, .finite sign' second =>
    first.rank == second.rank && (sign == sign' || first.rank == 0)
  | .infinite sign, .infinite sign' => sign == sign'
  | _, _ => false

def signBit (negative : Bool) : Nat := if negative then Nat.pow 2 63 else 0

def bits? : Number → Option Nat
  | .finite negative magnitude => some (signBit negative + magnitude.rank)
  | .infinite negative => some (signBit negative + Magnitude.count)
  | .nan => none

end Number

end Runbook
