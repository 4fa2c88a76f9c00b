import Runbook.Json.Basic

/-!
The reader of JSON texts. A text is first cut into tokens; the tokens are then folded into trees
over a stack of the arrays and objects still open. What cannot be a token ends the token list with
a mark, so that a value in front of it can still be read. How numerals are read is left open.
-/

set_option autoImplicit false

namespace Runbook.Json

inductive Token where
  | opening (brace : Bool)
  | closing (brace : Bool)
  | comma
  | colon
  | value (scalar : Json)
  | bad

def isBlank (c : Char) : Bool := c == ' ' || c == '\t' || c == '\n' || c == '\r'

def hexValue? (c : Char) : Option Nat :=
  if '0' ≤ c && c ≤ '9' then some (c.toNat - '0'.toNat)
  else if 'a' ≤ c && c ≤ 'f' then some (c.toNat - 'a'.toNat + 10)
  else if 'A' ≤ c && c ≤ 'F' then some (c.toNat - 'A'.toNat + 10)
  else none

def hexUnit? (a b c d : Char) : Option Nat := do
  let first ← hexValue? a
  let second ← hexValue? b
  let third ← hexValue? c
  let fourth ← hexValue? d
  return ((first * 16 + second) * 16 + third) * 16 + fourth

def shortEscape? (c : Char) : Option Char :=
  match c with
  | '"' => some '"'
  | '\\' => some '\\'
  | '/' => some '/'
  | 'b' => some '\x08'
  | 'f' => some '\x0c'
  | 'n' => some '\n'
  | 'r' => some '\r'
  | 't' => some '\t'
  | _ => none

/-- Reads up to the closing quote. The code units may hold surrogates, from escapes alone. -/
def units? : List Char → Option (List Nat × List Char)
  | [] => none
  | '"' :: rest => some ([], rest)
  | '\\' :: 'u' :: a :: b :: c :: d :: rest => do
    let unit ← hexUnit? a b c d
    let (units, after) ← units? rest
    return (unit :: units, after)
  | '\\' :: c :: rest => do
    let plain ← shortEscape? c
    let (units, after) ← units? rest
    return (plain.toNat :: units, after)
  -- A backslash gets here when its escape is cut short.
  | c :: rest => do
    if c.toNat < 0x20 || c == '\\' then none
    else
      let (units, after) ← units? rest
      return (c.toNat :: units, after)

def isLeading (unit : Nat) : Bool := 0xD800 ≤ unit && unit < 0xDC00

def isTrailing (unit : Nat) : Bool := 0xDC00 ≤ unit && unit < 0xE000

/-- Joins surrogate pairs; a surrogate alone is no character. -/
def charsOfUnits? : List Nat → Option (List Char)
  | [] => some []
  | leading :: trailing :: rest =>
    if isLeading leading then
      if isTrailing trailing then
        (charsOfUnits? rest).map
          (Char.ofNat (0x10000 + (leading - 0xD800) * 0x400 + (trailing - 0xDC00)) :: ·)
      else none
    else if isTrailing leading then none
    else (charsOfUnits? (trailing :: rest)).map (Char.ofNat leading :: ·)
  | [unit] => if isLeading unit || isTrailing unit then none else some [Char.ofNat unit]

def isNumeralPart (c : Char) : Bool :=
  Text.isDigit c || c == '-' || c == '+' || c == '.' || c == 'e' || c == 'E'

def words : List (List Char × Json) :=
  [("null".toList, .null), ("true".toList, .bool true), ("false".toList, .bool false)]

/-- The word at the front of a text, which ends with its last letter, whatever follows it. -/
def word? (chars : List Char) : Option (List Char × Json) :=
  words.find? fun word => Text.startsWith word.1 chars

def token? (numeral? : List Char → Option Number) (c : Char) (rest : List Char) :
    Option (Token × List Char) :=
  match c with
  | '[' => some (.opening false, rest)
  | ']' => some (.closing false, rest)
  | '\x7b' => some (.opening true, rest)
  | '\x7d' => some (.closing true, rest)
  | ',' => some (.comma, rest)
  | ':' => some (.colon, rest)
  | '"' => do
    let (units, after) ← units? rest
    let chars ← charsOfUnits? units
    return (.value (.text (String.ofList chars)), after)
  | c =>
    if c == '-' || Text.isDigit c then
      (numeral? (c :: rest.takeWhile isNumeralPart)).map fun number =>
        (.value (.number number), rest.dropWhile isNumeralPart)
    else
      (word? (c :: rest)).map fun word => (.value word.2, rest.drop (word.1.length - 1))

theorem units?_length {chars : List Char} {units : List Nat} {after : List Char}
    (read : units? chars = some (units, after)) : after.length < chars.length := by
  fun_induction units? chars generalizing units after <;> simp_all [bind, Option.bind]
  all_goals grind

theorem token?_length {numeral? : List Char → Option Number} {c : Char} {rest after : List Char}
    {token : Token} (read : token? numeral? c rest = some (token, after)) :
    after.length ≤ rest.length := by
  have shorter (keep : Char → Bool) : (rest.dropWhile keep).length ≤ rest.length :=
    (List.dropWhile_sublist keep).length_le
  unfold token? at read
  split at read
  all_goals try grind
  · simp only [bind, Option.bind] at read
    split at read
    · simp at read
    · rename_i pair same
      have := @units?_length _ pair.1 pair.2 same
      grind
  · split at read <;> simp only [Option.map_eq_some_iff, Prod.mk.injEq] at read
    · obtain ⟨_, _, _, same⟩ := read
      exact same ▸ shorter isNumeralPart
    · obtain ⟨_, _, _, same⟩ := read
      exact same ▸ (List.drop_sublist _ rest).length_le

def tokens (numeral? : List Char → Option Number) : List Char → List Token
  | [] => []
  | c :: rest =>
    if isBlank c then tokens numeral? rest
    else
      match _found : token? numeral? c rest with
      | none => [.bad]
      | some (token, after) => token :: tokens numeral? after
termination_by chars => chars.length
decreasing_by
  · simp
  · have := token?_length _found
    simp
    omega

inductive Frame where
  | array (items : List Json)
  | object (members : List (String × Json)) (name : String)

inductive Wanted where
  | value (orEnd : Bool)
  | name (members : List (String × Json)) (orEnd : Bool)
  | colon (members : List (String × Json)) (name : String)
  | more

inductive Progress where
  | done (json : Json)
  | reading (frames : List Frame) (wanted : Wanted)

def nestingLimit : Nat := 127

def settle (json : Json) : List Frame → Progress
  | [] => .done json
  | .array items :: frames => .reading (.array (json :: items) :: frames) .more
  | .object members name :: frames => .reading (.object ((name, json) :: members) name :: frames) .more

def next (frames : List Frame) (wanted : Wanted) (token : Token) : Option Progress :=
  match wanted, token with
  | .value _, .value scalar => some (settle scalar frames)
  | .value _, .opening brace =>
    if nestingLimit ≤ frames.length then none
    else if brace then some (.reading frames (.name [] true))
    else some (.reading (.array [] :: frames) (.value true))
  | .value true, .closing false =>
    match frames with
    | .array items :: outer => some (settle (.array items.reverse) outer)
    | _ => none
  | .name members _, .value (.text name) => some (.reading frames (.colon members name))
  | .name members true, .closing true => some (settle (.object members.reverse) frames)
  | .colon members name, .colon => some (.reading (.object members name :: frames) (.value false))
  | .more, .comma =>
    match frames with
    | .array _ :: _ => some (.reading frames (.value false))
    | .object members _ :: outer => some (.reading outer (.name members false))
    | [] => none
  | .more, .closing brace =>
    match frames with
    | .array items :: outer => if brace then none else some (settle (.array items.reverse) outer)
    | .object members _ :: outer =>
      if brace then some (settle (.object members.reverse) outer) else none
    | [] => none
  | _, _ => none

def read (frames : List Frame) (wanted : Wanted) : List Token → Option (Json × List Token)
  | [] => none
  | token :: rest =>
    match next frames wanted token with
    | none => none
    | some (.done json) => some (json, rest)
    | some (.reading inner following) => read inner following rest

def ofText? (numeral? : List Char → Option Number) (text : String) : Option Json :=
  match read [] (.value false) (tokens numeral? text.toList) with
  | some (json, []) => some json
  | _ => none

end Runbook.Json
