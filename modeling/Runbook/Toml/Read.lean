import Runbook.Toml.Scalar
import Runbook.Toml.Section

set_option autoImplicit false

namespace Runbook.Toml

/-- Line ends are one character throughout; what is left of the carriage returns is refused
wherever it stands. -/
def unifyLineEnds : List Char → List Char
  | [] => []
  | '\r' :: '\n' :: rest => '\n' :: unifyLineEnds rest
  | c :: rest => c :: unifyLineEnds rest

def isIndent (c : Char) : Bool := c == ' ' || c == '\t'

def isShown (c : Char) : Bool := c == '\t' || (' ' ≤ c && c != '\x7f')

def skipIndent (chars : List Char) : List Char := chars.dropWhile isIndent

def skipLines : (comment : Bool) → List Char → List Char
  | _, [] => []
  | true, c :: rest =>
    if c = '\n' then skipLines false rest
    else if isShown c then skipLines true rest
    else c :: rest
  | false, c :: rest =>
    if isIndent c || c == '\n' then skipLines false rest
    else if c = '#' then skipLines true rest
    else c :: rest

structure Quotation where
  quote : Char
  multiline : Bool
  escapes : Bool

inductive Quotation.Mode where
  | plain
  | escaped
  | code (left value : Nat)
  | continued (ended : Bool)

def escapeOf? (c : Char) : Option Char :=
  match c with
  | 'b' => some '\x08'
  | 't' => some '\t'
  | 'n' => some '\n'
  | 'f' => some '\x0c'
  | 'r' => some '\r'
  | '"' => some '"'
  | '\\' => some '\\'
  | _ => none

/-- Up to two quotes in front of the closing ones belong to a text of several lines. -/
def closingQuotes (quote : Char) (chars : List Char) : List Char × List Char :=
  let extra := (chars.takeWhile (· == quote)).take 2
  (extra, chars.drop extra.length)

def prepend (c : Char) (read : Option (List Char × List Char)) : Option (List Char × List Char) :=
  read.map fun result => (c :: result.1, result.2)

def readString (style : Quotation) :
    Quotation.Mode → List Char → Option (List Char × List Char)
  | _, [] => none
  | .plain, c :: rest =>
    if c = style.quote then
      if style.multiline then
        match rest with
        | second :: third :: after =>
          if second = c && third = c then some (closingQuotes c after)
          else prepend c (readString style .plain rest)
        | _ => none
      else some ([], rest)
    else if c = '\\' && style.escapes then readString style .escaped rest
    else if isShown c || (c == '\n' && style.multiline) then
      prepend c (readString style .plain rest)
    else none
  | .escaped, c :: rest =>
    if c = 'u' then readString style (.code 4 0) rest
    else if c = 'U' then readString style (.code 8 0) rest
    else if style.multiline && (isIndent c || c == '\n') then
      readString style (.continued (c == '\n')) rest
    else
      match escapeOf? c with
      | some plain => prepend plain (readString style .plain rest)
      | none => none
  | .code left value, c :: rest =>
    match digitIn? 16 c with
    | none => none
    | some digit =>
      let value := 16 * value + digit
      if 1 < left then readString style (.code (left - 1) value) rest
      else if value.isValidChar then prepend (Char.ofNat value) (readString style .plain rest)
      else none
  | .continued ended, c :: rest =>
    if isIndent c then readString style (.continued ended) rest
    else if c = '\n' then readString style (.continued true) rest
    -- Blanks behind the backslash need a line end after them.
    else if !ended then none
    else if c = style.quote then
      match rest with
      | second :: third :: after =>
        if second = c && third = c then some (closingQuotes c after)
        else prepend c (readString style .plain rest)
      | _ => none
    else if c = '\\' then readString style .escaped rest
    else if isShown c then prepend c (readString style .plain rest)
    else none

def dropLineEnd : List Char → List Char
  | '\n' :: rest => rest
  | chars => chars

def readQuoted (multiline : Bool) : List Char → Option (List Char × List Char)
  | '"' :: rest =>
    match multiline, rest with
    | true, '"' :: '"' :: body => readString ⟨'"', true, true⟩ .plain (dropLineEnd body)
    | _, _ => readString ⟨'"', false, true⟩ .plain rest
  | '\'' :: rest =>
    match multiline, rest with
    | true, '\'' :: '\'' :: body => readString ⟨'\'', true, false⟩ .plain (dropLineEnd body)
    | _, _ => readString ⟨'\'', false, false⟩ .plain rest
  | _ => none

def readSimpleKey (chars : List Char) : Option (String × List Char) :=
  match chars with
  | [] => none
  | c :: _ =>
    if c == '"' || c == '\'' then
      (readQuoted false chars).map fun (key, rest) => (String.ofList key, rest)
    else
      let key := chars.takeWhile isBareKeyPart
      if key.isEmpty then none else some (String.ofList key, chars.dropWhile isBareKeyPart)

/-- Keys have fewer than eighty parts, and values fewer than eighty levels. -/
def nestingLimit : Nat := 79

def readKey : (parts : Nat) → List Char → Option (List String × List Char)
  | 0, _ => none
  | parts + 1, chars => do
    let (key, rest) ← readSimpleKey (skipIndent chars)
    match skipIndent rest with
    | '.' :: others => (readKey parts others).map fun (path, after) => (key :: path, after)
    | after => return ([key], after)

structure Bracket where
  closing : Char
  skip : List Char → List Char
  trailingComma : Bool

def readItems {α : Type} (bracket : Bracket) (item : List Char → Option (α × List Char))
    (mayClose : Bool) (chars : List Char) : Option (List α × List Char) :=
  match bracket.skip chars with
  | [] => none
  | c :: rest =>
    if c = bracket.closing then if mayClose then some ([], rest) else none
    else
      match item (c :: rest) with
      | none => none
      | some (first, after) =>
        match bracket.skip after with
        | [] => none
        | d :: others =>
          if d = bracket.closing then some ([first], others)
          else if _shorter : d = ',' ∧ others.length < chars.length then
            (readItems bracket item bracket.trailingComma others).map fun (items, after) =>
              (first :: items, after)
          else none
termination_by chars.length
decreasing_by exact _shorter.2

def arrayBracket : Bracket := ⟨']', skipLines false, true⟩

def tableBracket : Bracket := ⟨'\x7d', skipIndent, false⟩

def tableOf? (members : List (List String × Toml)) : Option Toml :=
  (members.foldlM (fun body member => Section.assign member.1 member.2 body)
    (Section.empty .header)).map Section.toToml

def readMember (value : List Char → Option (Toml × List Char)) (chars : List Char) :
    Option ((List String × Toml) × List Char) := do
  let (path, rest) ← readKey nestingLimit chars
  match rest with
  | '=' :: body =>
    let (found, after) ← value (skipIndent body)
    return ((path, found), after)
  | _ => none

def readValue : (levels : Nat) → List Char → Option (Toml × List Char)
  | levels, chars =>
    match levels, chars with
    | _, [] => none
    | 0, '[' :: _ | 0, '\x7b' :: _ => none
    | inner + 1, '[' :: rest =>
      (readItems arrayBracket (readValue inner) true rest).map fun (items, after) =>
        (.array items, after)
    | inner + 1, '\x7b' :: rest => do
      let (members, after) ← readItems tableBracket (readMember (readValue inner)) true rest
      let value ← tableOf? members
      return (value, after)
    | _, c :: rest =>
      if c == '"' || c == '\'' then
        (readQuoted true (c :: rest)).map fun (content, after) =>
          (.text (String.ofList content), after)
      else
        let (run, after) := splitScalar (c :: rest)
        (scalar? run).map (·, after)

def readLineEnd (chars : List Char) : Option (List Char) :=
  let afterComment :=
    match skipIndent chars with
    | '#' :: comment => comment.dropWhile isShown
    | rest => rest
  match afterComment with
  | [] => some []
  | '\n' :: rest => some rest
  | _ => none

def readHeader (chars : List Char) : Option (List String × List Char) := do
  let (path, rest) ← readKey nestingLimit chars
  match rest with
  | ']' :: after => return (path, after)
  | _ => none

def readEntry (document : Document) (chars : List Char) : Option (Document × List Char) :=
  match skipIndent chars with
  | [] => some (document, [])
  | '\n' :: rest => some (document, rest)
  | '#' :: rest => (readLineEnd ('#' :: rest)).map (document, ·)
  | '[' :: '[' :: rest => do
    let (path, afterPath) ← readHeader rest
    match afterPath with
    | ']' :: after => return (← document.openElement path, ← readLineEnd after)
    | _ => none
  | '[' :: rest => do
    let (path, after) ← readHeader rest
    return (← document.openTable path, ← readLineEnd after)
  | entry => do
    let ((path, value), after) ← readMember (readValue nestingLimit) entry
    return (← document.assign path value, ← readLineEnd after)

def readEntries (document : Document) (chars : List Char) : Option Document :=
  match chars with
  | [] => some document
  | c :: rest =>
    match readEntry document (c :: rest) with
    | none => none
    | some (next, after) =>
      if _shorter : after.length ≤ rest.length then readEntries next after else none
termination_by chars.length
decreasing_by exact Nat.lt_succ_of_le _shorter

def dropMark : List Char → List Char
  | '\ufeff' :: rest => rest
  | chars => chars

def ofChars? (chars : List Char) : Option (List (String × Toml)) := do
  let document ← readEntries .empty (unifyLineEnds (dropMark chars))
  let root ← document.finish
  return membersToToml root.members

end Runbook.Toml
