import Runbook.Number.Layout
import Runbook.Text.Class

set_option autoImplicit false

namespace Runbook

inductive Json where
  | null
  | bool (on : Bool)
  | number (n : Number)
  | count (n : Nat)
  | text (content : String)
  | array (items : List Json)
  | object (members : List (String × Json))

namespace Json

def numberLayout : Layout where
  tie := .toEven
  positional := some (-5, 16)
  pointZero := true
  exponentPlus := true
  zeroSign := true
  infinity := "null"
  notNumber := "null"

def hexPair (code : Nat) : List Char :=
  [Nat.digitChar (code / 16 % 16), Nat.digitChar (code % 16)]

def escapeChar (c : Char) : List Char :=
  match c with
  | '"' => ['\\', '"']
  | '\\' => ['\\', '\\']
  | '\x08' => ['\\', 'b']
  | '\x0c' => ['\\', 'f']
  | '\n' => ['\\', 'n']
  | '\r' => ['\\', 'r']
  | '\t' => ['\\', 't']
  | c => if c.toNat < 0x20 then ['\\', 'u', '0', '0'] ++ hexPair c.toNat else [c]

def quote (content : String) : List Char :=
  '"' :: (content.toList.flatMap escapeChar ++ ['"'])

def quoteNumber (n : Number) : List Char :=
  if n.isFinite then numberLayout.writeChars n else "null".toList

mutual

def compact : Json → List Char
  | .null => "null".toList
  | .bool on => (if on then "true" else "false").toList
  | .number n => quoteNumber n
  | .count n => Nat.toDigits 10 n
  | .text content => quote content
  | .array items => '[' :: (compactItems items ++ [']'])
  | .object members => '\x7b' :: (compactMembers members ++ ['\x7d'])

def compactItems : List Json → List Char
  | [] => []
  | [item] => compact item
  | item :: rest => compact item ++ ',' :: compactItems rest

def compactMembers : List (String × Json) → List Char
  | [] => []
  | [(name, value)] => quote name ++ ':' :: compact value
  | (name, value) :: rest => quote name ++ ':' :: compact value ++ ',' :: compactMembers rest

end

def lineStart (level : Nat) : List Char := '\n' :: List.replicate (2 * level) ' '

mutual

def prettyAt (level : Nat) : Json → List Char
  | .array [] => ['[', ']']
  | .object [] => ['\x7b', '\x7d']
  | .array items => '[' :: (prettyItems (level + 1) items ++ lineStart level ++ [']'])
  | .object members =>
    '\x7b' :: (prettyMembers (level + 1) members ++ lineStart level ++ ['\x7d'])
  | .null => "null".toList
  | .bool on => (if on then "true" else "false").toList
  | .number n => quoteNumber n
  | .count n => Nat.toDigits 10 n
  | .text content => quote content

def prettyItems (level : Nat) : List Json → List Char
  | [] => []
  | [item] => lineStart level ++ prettyAt level item
  | item :: rest => lineStart level ++ prettyAt level item ++ ',' :: prettyItems level rest

def prettyMembers (level : Nat) : List (String × Json) → List Char
  | [] => []
  | [(name, value)] => lineStart level ++ quote name ++ ':' :: ' ' :: prettyAt level value
  | (name, value) :: rest =>
    lineStart level ++ quote name ++ ':' :: ' ' :: prettyAt level value ++
      ',' :: prettyMembers level rest

end

def pretty (json : Json) : List Char := prettyAt 0 json

end Json

end Runbook
