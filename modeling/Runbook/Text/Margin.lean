import Runbook.Text.Class

set_option autoImplicit false

namespace Runbook.Text

abbrev WriteAll (α ε σ : Type) := List α → σ → Except ε Unit × σ

structure Margin (α σ : Type) where
  mark : List α
  inner : σ
  atStart : Bool

namespace Margin

section

variable {α ε σ : Type}

def new (mark : List α) (inner : σ) : Margin α σ := ⟨mark, inner, true⟩

def writeMark (writeAll : WriteAll α ε σ) (margin : Margin α σ) : Except ε Unit × Margin α σ :=
  if margin.atStart then
    let (result, inner) := writeAll margin.mark margin.inner
    (result, { margin with inner := inner })
  else (.ok (), margin)

def writePiece (writeAll : WriteAll α ε σ) (ends : α → Bool) (piece : List α)
    (margin : Margin α σ) : Except ε Unit × Margin α σ :=
  match writeMark writeAll margin with
  | (.error failure, stopped) => (.error failure, stopped)
  | (.ok (), marked) =>
    match writeAll piece marked.inner with
    | (.error failure, inner) => (.error failure, { marked with inner := inner })
    | (.ok (), inner) =>
      (.ok (), { marked with inner := inner, atStart := piece.getLast?.any ends })

def writePieces (writeAll : WriteAll α ε σ) (ends : α → Bool) :
    List (List α) → Margin α σ → Except ε Unit × Margin α σ
  | [], margin => (.ok (), margin)
  | piece :: rest, margin =>
    match writePiece writeAll ends piece margin with
    | (.error failure, stopped) => (.error failure, stopped)
    | (.ok (), later) => writePieces writeAll ends rest later

def write (writeAll : WriteAll α ε σ) (ends : α → Bool) (chunk : List α) (margin : Margin α σ) :
    Except ε Nat × Margin α σ :=
  match writePieces writeAll ends (cutAfter ends chunk) margin with
  | (.error failure, stopped) => (.error failure, stopped)
  | (.ok (), later) => (.ok chunk.length, later)

def writes (writeAll : WriteAll α ε σ) (ends : α → Bool) :
    List (List α) → Margin α σ → List (Except ε Nat) × Margin α σ
  | [], margin => ([], margin)
  | chunk :: rest, margin =>
    let (report, later) := write writeAll ends chunk margin
    let (reports, last) := writes writeAll ends rest later
    (report :: reports, last)

end

variable {α : Type}

def keep : WriteAll α Empty (List (List α)) := fun piece pieces => (.ok (), piece :: pieces)

def kept (pieces : List (List α)) : List α := pieces.reverse.flatten

end Margin

def markChunks {α : Type} (mark : List α) (ends : α → Bool) (atStart : Bool)
    (chunks : List (List α)) : List α :=
  Margin.kept (Margin.writes Margin.keep ends chunks ⟨mark, [], atStart⟩).2.inner

end Runbook.Text
