import Runbook.Except
import Runbook.Script.Fault
import Runbook.Text.Escape

set_option autoImplicit false

namespace Runbook.Script.Quoted

def escape (c : Char) : List Char :=
  match c with
  | '"' => ['\\', '"']
  | '\\' => ['\\', '\\']
  | '\n' => ['\\', 'n']
  | '\t' => ['\\', 't']
  | '\r' => ['\\', 'r']
  | c =>
    if Text.isControl c then ['\\', 'u', '\x7b'] ++ Text.hexDigits c.toNat ++ ['\x7d'] else [c]

def write (chars : List Char) : List Char := '"' :: (chars.flatMap escape ++ ['"'])

def unescape? (c : Char) : Option Char :=
  match c with
  | 'n' => some '\n'
  | 't' => some '\t'
  | 'r' => some '\r'
  | '\\' => some '\\'
  | '"' => some '"'
  | '\'' => some '\''
  | _ => none

def hexValue? (c : Char) : Option Nat :=
  if Text.isDigit c then some (c.toNat - '0'.toNat)
  else if 'a' ≤ c && c ≤ 'f' then some (c.toNat - 'a'.toNat + 10)
  else if 'A' ≤ c && c ≤ 'F' then some (c.toNat - 'A'.toNat + 10)
  else none

def hexNumber? (digits : List Char) : Option Nat :=
  digits.foldlM (fun total c => (hexValue? c).map (16 * total + ·)) 0

def charOfCode? (code : Nat) : Option Char :=
  if code.isValidChar then some (Char.ofNat code) else none

/-- The character with the given code, which may carry a plus sign. -/
def decode? (code : List Char) : Option Char :=
  let digits := match code with
    | '+' :: digits => digits
    | digits => digits
  if digits.isEmpty then none else (hexNumber? digits).bind charOfCode?

/-- Where in a literal the reader is: in plain text, behind a backslash at `start`, behind its `u`,
or in the code between braces. -/
inductive Mode where
  | plain
  | escaped (start : Nat)
  | unbraced (start : Nat)
  | braced (start : Nat) (code : List Char)

structure Reading where
  text : List Char
  stop : Nat
  rest : List Char

def Reading.cons (c : Char) (reading : Reading) : Reading :=
  { reading with text := c :: reading.text }

def badCode (start : Nat) : Fault := ⟨.badCode, ⟨start, start + 2⟩⟩

def read (opening position : Nat) : Mode → List Char → Except Fault Reading
  | .plain, [] | .escaped _, [] => .error ⟨.unterminatedText, ⟨opening, position⟩⟩
  | .unbraced start, [] | .braced start _, [] => .error (badCode start)
  | .plain, c :: rest =>
    if c = '"' then .ok ⟨[], position + 1, rest⟩
    else if c = '\\' then read opening (position + 1) (.escaped position) rest
    else (read opening (position + c.utf8Size) .plain rest).map (.cons c)
  | .escaped start, c :: rest =>
    if c = 'u' then read opening (position + 1) (.unbraced start) rest
    else
      match unescape? c with
      | some plain => (read opening (position + c.utf8Size) .plain rest).map (.cons plain)
      | none => .error ⟨.unknownEscape c, ⟨start, position + c.utf8Size⟩⟩
  | .unbraced start, c :: rest =>
    if c = '\x7b' then read opening (position + 1) (.braced start []) rest else .error (badCode start)
  -- Whatever stands between the braces is judged as a whole, so a code never ends early.
  | .braced start code, c :: rest =>
    if c = '\x7d' then
      match decode? code.reverse with
      | some plain => (read opening (position + 1) .plain rest).map (.cons plain)
      | none => .error (badCode start)
    else read opening (position + c.utf8Size) (.braced start (c :: code)) rest

theorem read_rest {opening position : Nat} {mode : Mode} {chars : List Char} {reading : Reading}
    (done : read opening position mode chars = .ok reading) :
    reading.rest.length < chars.length := by
  fun_induction read opening position mode chars generalizing reading <;>
    grind [map_eq_ok_iff, Reading.cons]

end Runbook.Script.Quoted
