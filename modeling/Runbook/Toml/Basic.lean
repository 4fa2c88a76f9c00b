import Runbook.Number.Layout
import Runbook.Text.Class

set_option autoImplicit false

namespace Runbook

namespace Toml

structure Date where
  year : Nat
  month : Nat
  day : Nat

structure Time where
  hour : Nat
  minute : Nat
  second : Nat
  nanosecond : Nat

inductive Offset where
  | zulu
  | minutes (east : Int)

inductive DateTime where
  | date (day : Date)
  | time (clock : Time)
  | both (day : Date) (clock : Time) (offset? : Option Offset)

end Toml

inductive Toml where
  | text (content : String)
  | integer (value : Int)
  | float (value : Number)
  | flag (on : Bool)
  | dateTime (moment : Toml.DateTime)
  | array (items : List Toml)
  | table (members : List (String × Toml))

namespace Toml

instance : Inhabited Toml := ⟨.table []⟩

def padded (width number : Nat) : List Char :=
  let digits := Nat.toDigits 10 number
  Layout.zeros (width - digits.length) ++ digits

def Date.toChars (date : Date) : List Char :=
  padded 4 date.year ++ '-' :: padded 2 date.month ++ '-' :: padded 2 date.day

def Time.toChars (time : Time) : List Char :=
  padded 2 time.hour ++ ':' :: padded 2 time.minute ++ ':' :: padded 2 time.second ++
    if time.nanosecond = 0 then []
    else '.' :: Text.dropEnd (· == '0') (padded 9 time.nanosecond)

def Offset.toChars : Offset → List Char
  | .zulu => ['Z']
  | .minutes east =>
    (if east < 0 then '-' else '+') ::
      (padded 2 (east.natAbs / 60) ++ ':' :: padded 2 (east.natAbs % 60))

def DateTime.toChars : DateTime → List Char
  | .date day => day.toChars
  | .time clock => clock.toChars
  | .both day clock offset? =>
    day.toChars ++ 'T' :: clock.toChars ++
      match offset? with
      | some offset => offset.toChars
      | none => []

def floatLayout : Layout where
  tie := .up
  positional := none
  pointZero := true
  exponentPlus := false
  zeroSign := true
  infinity := "inf"
  notNumber := "nan"

def longestRun (c : Char) (chars : List Char) : Nat :=
  (chars.foldl (fun (longest, current) char =>
    if char == c then (max longest (current + 1), current + 1) else (longest, 0)) (0, 0)).1

def needsCode (c : Char) : Bool :=
  (c.toNat < 0x20 && c != '\t' && c != '\n') || c == '\x7f'

def upperHexFour (code : Nat) : List Char :=
  [code / 4096, code / 256, code / 16, code].map fun digit =>
    (Nat.digitChar (digit % 16)).toUpper

/-- The escape of a character of a basic string, in which `quotes` quotation marks are allowed in a
row and newlines only if `multiline`. -/
def escapeBasic (multiline : Bool) (quotes : Nat) : (run : Nat) → List Char → List Char
  | _, [] => []
  | run, c :: rest =>
    if c = '"' then
      if quotes < run + 1 then '\\' :: '"' :: escapeBasic multiline quotes 0 rest
      else '"' :: escapeBasic multiline quotes (run + 1) rest
    else
      (match c with
        | '\x08' => ['\\', 'b']
        | '\t' => ['\\', 't']
        | '\n' => if multiline then ['\n'] else ['\\', 'n']
        | '\x0c' => ['\\', 'f']
        | '\r' => ['\\', 'r']
        | '\\' => ['\\', '\\']
        | c => if needsCode c then '\\' :: 'u' :: upperHexFour c.toNat else [c]) ++
        escapeBasic multiline quotes 0 rest

def triple (c : Char) : List Char := [c, c, c]

def basic (chars : List Char) : List Char := '"' :: (escapeBasic false 0 0 chars ++ ['"'])

def multilineBasic (chars : List Char) : List Char :=
  triple '"' ++ (if chars.contains '\n' then ['\n'] else []) ++ escapeBasic true 2 0 chars ++
    triple '"'

def literal (chars : List Char) : List Char := '\'' :: (chars ++ ['\''])

def multilineLiteral (chars : List Char) : List Char :=
  triple '\'' ++ (if chars.contains '\n' then ['\n'] else []) ++ chars ++ triple '\''

/-- The first of the four kinds of string that shows the text without escapes; if none does, a
basic string. -/
def quote (content : String) : List Char :=
  let chars := content.toList
  let coded := chars.any needsCode
  let escaped := chars.contains '\\'
  let newline := chars.contains '\n'
  let doubles := longestRun '"' chars
  let singles := longestRun '\'' chars
  if !coded && !escaped && doubles == 0 && !newline then basic chars
  else if !coded && singles == 0 && !newline then literal chars
  else if !coded && !escaped && doubles ≤ 2 then multilineBasic chars
  else if !coded && singles ≤ 2 then multilineLiteral chars
  else if newline then multilineBasic chars
  else basic chars

def isBareKeyPart (c : Char) : Bool := Text.isLetter c || Text.isDigit c || c == '_' || c == '-'

def quoteKey (key : String) : List Char :=
  let chars := key.toList
  let coded := chars.any fun c => needsCode c || c == '\n'
  if !chars.isEmpty && chars.all isBareKeyPart then chars
  else if !coded && !chars.contains '\\' && !chars.contains '"' then basic chars
  else if !coded && !chars.contains '\'' then literal chars
  else basic chars

def separated (separator : List Char) : List (List Char) → List Char
  | [] => []
  | [piece] => piece
  | piece :: rest => piece ++ separator ++ separated separator rest

mutual

def toChars : Toml → List Char
  | .text content => quote content
  | .integer value => (toString value).toList
  | .float value => floatLayout.writeChars value
  | .flag on => (if on then "true" else "false").toList
  | .dateTime moment => moment.toChars
  | .array items => '[' :: (separated [',', ' '] (itemChars items) ++ [']'])
  | .table [] => ['\x7b', '\x7d']
  | .table members =>
    ['\x7b', ' '] ++ separated [',', ' '] (memberChars members) ++ [' ', '\x7d']

def itemChars : List Toml → List (List Char)
  | [] => []
  | item :: rest => toChars item :: itemChars rest

def memberChars : List (String × Toml) → List (List Char)
  | [] => []
  | (key, value) :: rest => (quoteKey key ++ [' ', '=', ' '] ++ toChars value) :: memberChars rest

end

def DateTime.toText (moment : DateTime) : String := String.ofList moment.toChars

def toText (value : Toml) : String := String.ofList value.toChars

end Toml

end Runbook
