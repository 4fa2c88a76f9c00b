import Runbook.Script.Quoted

set_option autoImplicit false

namespace Runbook.Script

inductive Token where
  | word (text : String)
  | quoted (text : String)
  | hole (key : String)
  | equals
deriving DecidableEq

structure Lexeme where
  token : Token
  span : Span
deriving DecidableEq

def isWordPart (c : Char) : Bool :=
  !(Text.isBlank c || c == '=' || c == '"' || c == '\x7b' || c == '\x7d')

def readHole (position : Nat) (chars : List Char) : Except Fault (Lexeme × List Char) :=
  let inner := chars.takeWhile (· != '\x7d')
  let innerStop := position + 1 + Text.utf8Length inner
  match chars.dropWhile (· != '\x7d') with
  | [] => .error ⟨.unterminatedHole, ⟨position, innerStop⟩⟩
  | _ :: rest =>
    let span : Span := ⟨position, innerStop + 1⟩
    let key := Text.trimChars inner
    if key.isEmpty then .error ⟨.emptyHole, span⟩
    else .ok (⟨.hole (String.ofList key), span⟩, rest)

def readLexeme (position : Nat) (c : Char) (rest : List Char) :
    Except Fault (Lexeme × List Char) :=
  if c = '=' then .ok (⟨.equals, ⟨position, position + 1⟩⟩, rest)
  else if c = '"' then
    (Quoted.read position (position + 1) .plain rest).map fun reading =>
      (⟨.quoted (String.ofList reading.text), ⟨position, reading.stop⟩⟩, reading.rest)
  else if c = '\x7b' then readHole position rest
  else if c = '\x7d' then .error ⟨.strayBrace, ⟨position, position + 1⟩⟩
  else
    let word := c :: rest.takeWhile isWordPart
    .ok (⟨.word (String.ofList word), ⟨position, position + Text.utf8Length word⟩⟩,
      rest.dropWhile isWordPart)

theorem readHole_length {position : Nat} {chars after : List Char} {lexeme : Lexeme}
    (done : readHole position chars = .ok (lexeme, after)) : after.length ≤ chars.length := by
  have shorter := (List.dropWhile_sublist (l := chars) (· != '\x7d')).length_le
  simp only [readHole] at done
  split at done
  · simp at done
  · next remaining =>
    split at done
    · simp at done
    · simp only [Except.ok.injEq, Prod.mk.injEq] at done
      rw [remaining, done.2] at shorter
      exact Nat.le_of_succ_le shorter

theorem readLexeme_length {position : Nat} {c : Char} {rest after : List Char} {lexeme : Lexeme}
    (done : readLexeme position c rest = .ok (lexeme, after)) : after.length ≤ rest.length := by
  unfold readLexeme at done
  split at done
  · grind
  · split at done
    · cases found : Quoted.read position (position + 1) .plain rest with
      | error fault => simp [found, Except.map] at done
      | ok reading =>
        simp only [found, Except.map, Except.ok.injEq, Prod.mk.injEq] at done
        exact done.2 ▸ Nat.le_of_lt (Quoted.read_rest found)
    · split at done
      · exact readHole_length done
      · split at done
        · simp at done
        · simp only [Except.ok.injEq, Prod.mk.injEq] at done
          exact done.2 ▸ (List.dropWhile_sublist _).length_le

def scan (position : Nat) : List Char → Except Fault (List Lexeme)
  | [] => .ok []
  | c :: rest =>
    if Text.isBlank c then scan (position + 1) rest
    -- Inside a word a `#` is a character like any other and never gets here.
    else if c = '#' then .ok []
    else
      match _found : readLexeme position c rest with
      | .error fault => .error fault
      | .ok (lexeme, after) => (scan lexeme.span.stop after).map (lexeme :: ·)
termination_by chars => chars.length
decreasing_by
  · simp
  · have := readLexeme_length _found
    simp
    omega

end Runbook.Script
