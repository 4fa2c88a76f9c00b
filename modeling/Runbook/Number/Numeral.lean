import Runbook.Number.Decimal
import Runbook.Text.Class

set_option autoImplicit false

namespace Runbook

structure Numeral.Power where
  sign : Option Char
  digits : List Char

structure Numeral where
  sign : Option Char
  whole : List Char
  fraction : Option (List Char)
  power : Option Numeral.Power

namespace Numeral

def splitSign : List Char → Option Char × List Char
  | '-' :: rest => (some '-', rest)
  | '+' :: rest => (some '+', rest)
  | chars => (none, chars)

def splitDigits (chars : List Char) : List Char × List Char :=
  (chars.takeWhile Text.isDigit, chars.dropWhile Text.isDigit)

def splitFraction : List Char → Option (List Char) × List Char
  | '.' :: rest => (some (splitDigits rest).1, (splitDigits rest).2)
  | chars => (none, chars)

def powerOf? : List Char → Option (Option Power)
  | [] => some none
  | mark :: rest =>
    let (sign, digits) := splitSign rest
    if (mark == 'e' || mark == 'E') && !digits.isEmpty && digits.all Text.isDigit then
      some (some ⟨sign, digits⟩)
    else none

def ofChars? (chars : List Char) : Option Numeral :=
  let (sign, unsigned) := splitSign chars
  let (whole, afterWhole) := splitDigits unsigned
  let (fraction, afterFraction) := splitFraction afterWhole
  if whole.isEmpty && (fraction.getD []).isEmpty then none
  else (powerOf? afterFraction).map fun power => ⟨sign, whole, fraction, power⟩

def isNegative (sign : Option Char) : Bool := sign == some '-'

def exponent (numeral : Numeral) : Int :=
  match numeral.power with
  | none => 0
  | some power =>
    let size : Int := Decimal.natOfDigits power.digits
    if isNegative power.sign then -size else size

def decimal (numeral : Numeral) : Decimal :=
  let fraction := numeral.fraction.getD []
  ⟨Decimal.natOfDigits (numeral.whole ++ fraction), numeral.exponent - fraction.length⟩

def number (numeral : Numeral) : Number := numeral.decimal.toNumber (isNegative numeral.sign)

def isWhole (numeral : Numeral) : Bool := numeral.fraction.isNone && numeral.power.isNone

def unpadded : List Char → Bool
  | [] => false
  | [_] => true
  | first :: _ => first != '0'

def isCanonical (numeral : Numeral) : Bool :=
  numeral.sign != some '+' && unpadded numeral.whole &&
    match numeral.fraction with
    | none => true
    | some digits => !digits.isEmpty

end Numeral

namespace Number

def ofChars? (chars : List Char) : Option Number := (Numeral.ofChars? chars).map Numeral.number

def ofCanonical? (chars : List Char) : Option Number :=
  match Numeral.ofChars? chars with
  | none => none
  | some numeral =>
    if numeral.isCanonical && numeral.number.isFinite then some numeral.number else none

end Number

end Runbook
