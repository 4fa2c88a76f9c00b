import Runbook.Number.Numeral
import Runbook.Toml.Basic

set_option autoImplicit false

namespace Runbook.Toml

def digitIn? (base : Nat) (c : Char) : Option Nat :=
  let value? :=
    if Text.isDigit c then some (c.toNat - '0'.toNat)
    else if 'a' ≤ c && c ≤ 'f' then some (c.toNat - 'a'.toNat + 10)
    else if 'A' ≤ c && c ≤ 'F' then some (c.toNat - 'A'.toNat + 10)
    else none
  value?.filter (· < base)

/-- Drops the underscores of a run of digits; each must stand between two digits. -/
def digits? (isDigit : Char → Bool) : List Char → Option (List Char)
  | [] => none
  | [c] => if isDigit c then some [c] else none
  | c :: '_' :: rest => if isDigit c then (digits? isDigit rest).map (c :: ·) else none
  | c :: rest => if isDigit c then (digits? isDigit rest).map (c :: ·) else none

def natIn (base : Nat) (digits : List Char) : Nat :=
  digits.foldl (fun total c => base * total + (digitIn? base c).getD 0) 0

def integerBound : Nat := Nat.pow 2 63

def inRange (value : Int) : Option Toml :=
  if -(integerBound : Int) ≤ value && value < integerBound then some (.integer value) else none

def basedInteger? (base : Nat) (chars : List Char) : Option Toml :=
  (digits? (fun c => (digitIn? base c).isSome) chars).bind fun digits => inRange (natIn base digits)

def integer? (chars : List Char) : Option Toml :=
  match chars with
  | '0' :: 'x' :: rest => basedInteger? 16 rest
  | '0' :: 'o' :: rest => basedInteger? 8 rest
  | '0' :: 'b' :: rest => basedInteger? 2 rest
  | _ =>
    let (sign, unsigned) := Numeral.splitSign chars
    match digits? Text.isDigit unsigned with
    | none => none
    | some digits =>
      if Numeral.unpadded digits then
        let size : Int := natIn 10 digits
        inRange (if Numeral.isNegative sign then -size else size)
      else none

def power? : List Char → Option (Option Numeral.Power)
  | [] => some none
  | mark :: rest =>
    let (sign, digits) := Numeral.splitSign rest
    if mark == 'e' || mark == 'E' then
      (digits? Text.isDigit digits).map fun digits => some ⟨sign, digits⟩
    else none

def isFloatDigit (c : Char) : Bool := Text.isDigit c || c == '_'

def floatNumeral? (chars : List Char) : Option Numeral := do
  let (sign, unsigned) := Numeral.splitSign chars
  let whole ← digits? Text.isDigit (unsigned.takeWhile isFloatDigit)
  if !Numeral.unpadded whole then none
  else
    match unsigned.dropWhile isFloatDigit with
    | '.' :: rest =>
      let fraction ← digits? Text.isDigit (rest.takeWhile isFloatDigit)
      let power ← power? (rest.dropWhile isFloatDigit)
      return ⟨sign, whole, some fraction, power⟩
    | rest =>
      match ← power? rest with
      | none => none
      | some power => return ⟨sign, whole, none, some power⟩

def word? (chars : List Char) : Option Toml :=
  match String.ofList chars with
  | "true" => some (.flag true)
  | "false" => some (.flag false)
  | "inf" | "+inf" => some (.float (.infinite false))
  | "-inf" => some (.float (.infinite true))
  | "nan" | "+nan" | "-nan" => some (.float .nan)
  | _ => none

/-- Floats too great to be represented are refused, unless they are negative. -/
def float? (chars : List Char) : Option Toml :=
  (floatNumeral? chars).bind fun numeral =>
    if numeral.number = .infinite false then none else some (.float numeral.number)

def pair? (least greatest : Nat) (a b : Char) : Option Nat :=
  if Text.isDigit a && Text.isDigit b then
    some (Decimal.natOfDigits [a, b]) |>.filter fun value => least ≤ value && value ≤ greatest
  else none

def monthLength (year month : Nat) : Nat :=
  if month = 2 then
    if year % 4 = 0 && (year % 100 != 0 || year % 400 == 0) then 29 else 28
  else if month = 4 || month = 6 || month = 9 || month = 11 then 30
  else 31

def date? : List Char → Option (Date × List Char)
  | a :: b :: c :: d :: '-' :: e :: f :: '-' :: g :: h :: rest => do
    if !([a, b, c, d].all Text.isDigit) then none
    else
      let year := Decimal.natOfDigits [a, b, c, d]
      let month ← pair? 1 12 e f
      let day ← pair? 1 (monthLength year month) g h
      return (⟨year, month, day⟩, rest)
  | _ => none

def nanoseconds (digits : List Char) : Nat :=
  Decimal.natOfDigits ((digits.take 9) ++ Layout.zeros (9 - digits.length))

def time? : List Char → Option (Time × List Char)
  | a :: b :: ':' :: c :: d :: ':' :: e :: f :: rest => do
    let hour ← pair? 0 23 a b
    let minute ← pair? 0 59 c d
    let second ← pair? 0 60 e f
    match rest with
    | '.' :: fraction =>
      let digits := fraction.takeWhile Text.isDigit
      if digits.isEmpty then none
      else return (⟨hour, minute, second, nanoseconds digits⟩, fraction.dropWhile Text.isDigit)
    | rest => return (⟨hour, minute, second, 0⟩, rest)
  | _ => none

def offset? : List Char → Option (Option Offset)
  | [] => some none
  | [c] => if c == 'Z' || c == 'z' then some (some .zulu) else none
  | [sign, a, b, ':', c, d] => do
    let hours ← pair? 0 23 a b
    let minutes ← pair? 0 59 c d
    let east : Int := hours * 60 + minutes
    if sign == '+' then return some (.minutes east)
    else if sign == '-' then return some (.minutes (-east))
    else none
  | _ => none

def dateTime? (chars : List Char) : Option DateTime :=
  match date? chars with
  | some (date, []) => some (.date date)
  | some (date, mark :: rest) =>
    if mark == 'T' || mark == 't' || mark == ' ' then do
      let (time, after) ← time? rest
      let offset? ← offset? after
      return .both date time offset?
    else none
  | none =>
    match time? chars with
    | some (time, []) => some (.time time)
    | _ => none

def scalar? (chars : List Char) : Option Toml :=
  word? chars <|> (dateTime? chars).map .dateTime <|> float? chars <|> integer? chars

def isScalarPart (c : Char) : Bool :=
  Text.isLetter c || Text.isDigit c || c == '_' || c == '+' || c == '-' || c == '.' || c == ':'

/-- Splits off the run of a scalar. A blank belongs to it where it parts a date from a time. -/
def splitScalar (chars : List Char) : List Char × List Char :=
  let run := chars.takeWhile isScalarPart
  match chars.dropWhile isScalarPart with
  | ' ' :: c :: rest =>
    -- Only a whole date, and only in front of a digit, takes the blank along.
    match date? run with
    | some (_, []) =>
      if Text.isDigit c then
        (run ++ ' ' :: (c :: rest).takeWhile isScalarPart, (c :: rest).dropWhile isScalarPart)
      else (run, ' ' :: c :: rest)
    | _ => (run, ' ' :: c :: rest)
  | rest => (run, rest)

end Runbook.Toml
