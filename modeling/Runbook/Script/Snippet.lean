import Runbook.Script.Fault

set_option autoImplicit false

namespace Runbook

structure Snippet where
  message : String
  span : Span
  notes : List String

namespace Snippet

def lineAt (position : Nat) : (number start : Nat) → List (List Char) → Nat × Nat × List Char
  | number, start, [] => (number, start, [])
  | number, start, [line] => (number, start, line)
  | number, start, line :: rest =>
    let next := start + Text.utf8Length line
    if position < next then (number, start, line) else lineAt position (number + 1) next rest

def takeBytes : (bytes : Nat) → List Char → List Char
  | _, [] => []
  | bytes, c :: rest =>
    if c.utf8Size ≤ bytes then c :: takeBytes (bytes - c.utf8Size) rest else []

def fileLines (source : List Char) : List (List Char) :=
  if source.getLast? = some '\n' || source.isEmpty then Text.lines source ++ [[]]
  else Text.lines source

def blanks (count : Nat) : String := String.ofList (List.replicate count ' ')

def columns (c : Char) : Nat := if Text.isControl c then 0 else 1

def markBelow (span : Span) (position size width : Nat) : List Char :=
  if position < span.stop then
    List.replicate width (if span.start < position + size then '^' else ' ')
  else []

def marks (span : Span) : (position : Nat) → List Char → List Char
  | position, [] => markBelow span position 1 1
  | position, c :: rest =>
    markBelow span position c.utf8Size (columns c) ++ marks span (position + c.utf8Size) rest

def isTrailing (c : Char) : Bool := c == '\n' || c == '\r' || c == '\x00'

def render (name source : String) (snippet : Snippet) : String :=
  let (number, start, line) := lineAt snippet.span.start 1 0 (fileLines source.toList)
  let shown := Text.dropEnd isTrailing line
  let first := snippet.span.start - start
  -- An empty span is marked as one byte.
  let span : Span := ⟨first, max (snippet.span.stop - start) (first + 1)⟩
  let column := (takeBytes first line).length + 1
  let digits := toString number
  let gutter := blanks (digits.length + 1)
  let notes := snippet.notes.map fun note => gutter ++ "= " ++ note ++ "\n"
  "error: " ++ snippet.message ++ "\n" ++
    gutter ++ "┌─ " ++ name ++ ":" ++ digits ++ ":" ++ toString column ++ "\n" ++
    gutter ++ "│\n" ++
    digits ++ " │ " ++ String.ofList shown ++ "\n" ++
    gutter ++ "│ " ++ String.ofList (marks span 0 shown) ++ "\n" ++
    (if notes.isEmpty then "" else gutter ++ "│\n" ++ String.join notes) ++
    "\n"

end Snippet

end Runbook
