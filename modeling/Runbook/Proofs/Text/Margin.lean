import Runbook.Text.Margin
import Runbook.Proofs.Text.Lines

set_option autoImplicit false

namespace Runbook.Text

variable {α ε σ : Type}

-- The lines of a text, in order. A newline ends each of them but perhaps the last, and stands
-- nowhere else.
structure LinesOf (newline : α) (text : List α) (lines : List (List α)) : Prop where
  joined : lines.flatten = text
  filled : ∀ line ∈ lines, line ≠ []
  unbroken : ∀ line ∈ lines, newline ∉ line.dropLast
  ended : ∀ line ∈ lines.dropLast, line.getLast? = some newline

theorem linesOf_cutAfter [DecidableEq α] (newline : α) (text : List α) :
    LinesOf newline text (cutAfter (· == newline) text) := by
  induction text with
  | nil => exact ⟨rfl, by simp [cutAfter], by simp [cutAfter], by simp [cutAfter]⟩
  | cons head rest ih =>
    obtain ⟨joined, filled, unbroken, ended⟩ := ih
    by_cases closing : head = newline
    next =>
      subst closing
      have cut : cutAfter (· == head) (head :: rest) = [head] :: cutAfter (· == head) rest := by
        simp [cutAfter]
      rw [cut]
      refine ⟨by simp [joined], by simpa using filled, by simpa using unbroken, ?_⟩
      cases later : cutAfter (· == head) rest with
      | nil => simp
      | cons first others =>
        rw [later] at ended
        simpa using ended
    next =>
      cases later : cutAfter (· == newline) rest with
      | nil =>
        have empty : rest = [] := by simpa [later] using joined.symm
        subst empty
        refine ⟨?_, ?_, ?_, ?_⟩ <;> simp [cutAfter, closing]
      | cons first others =>
        rw [later] at joined filled unbroken ended
        have nonempty : first ≠ [] := filled first List.mem_cons_self
        have cut : cutAfter (· == newline) (head :: rest) = (head :: first) :: others := by
          simp [cutAfter, closing, later]
        rw [cut]
        obtain ⟨within, elsewhere⟩ := List.forall_mem_cons.mp unbroken
        refine ⟨by simp [← joined], ?_, ?_, ?_⟩
        · exact List.forall_mem_cons.mpr ⟨by simp, (List.forall_mem_cons.mp filled).2⟩
        · refine List.forall_mem_cons.mpr ⟨?_, elsewhere⟩
          rw [List.dropLast_cons_of_ne_nil nonempty, List.mem_cons, not_or]
          exact ⟨Ne.symm closing, within⟩
        · cases others with
          | nil => simp
          | cons next more =>
            simp only [List.dropLast_cons_cons, List.forall_mem_cons] at ended ⊢
            exact ⟨by rw [List.getLast?_cons_of_ne_nil nonempty]; exact ended.1, ended.2⟩

theorem LinesOf.eq_cutAfter [DecidableEq α] {newline : α} {text : List α} {lines : List (List α)}
    (linesOf : LinesOf newline text lines) : lines = cutAfter (· == newline) text := by
  induction lines generalizing text with
  | nil =>
    obtain rfl : [] = text := linesOf.joined
    rfl
  | cons line rest ih =>
    obtain ⟨rfl, filled, unbroken, ended⟩ := linesOf
    obtain ⟨body, last, rfl⟩ := List.eq_nil_or_concat' line |>.resolve_left
      (filled line List.mem_cons_self)
    have inside : ∀ element ∈ body, (element == newline) = false := by
      intro element member
      have absent := unbroken _ List.mem_cons_self
      rw [List.dropLast_concat] at absent
      exact beq_eq_false_iff_ne.mpr fun same => absent (same ▸ member)
    cases rest with
    | nil =>
      rw [List.flatten_singleton]
      by_cases closing : last = newline
      next =>
        have cut : cutAfter (· == newline) (body ++ last :: []) = [body ++ [last]] :=
          cutAfter_append inside (beq_iff_eq.mpr closing)
        exact cut.symm
      next =>
        refine (cutAfter_of_inside ?_ (by simp)).symm
        intro element member
        rcases List.mem_append.mp member with early | late
        · exact inside element early
        · simpa [List.mem_singleton.mp late] using closing
    | cons next more =>
      have closing : last = newline := by
        simpa using ended (body ++ [last]) (by simp)
      have later : LinesOf newline (next :: more).flatten (next :: more) := by
        refine ⟨rfl, fun line member => filled line (List.mem_cons_of_mem _ member),
          fun line member => unbroken line (List.mem_cons_of_mem _ member),
          fun line member => ended line ?_⟩
        exact List.mem_cons_of_mem _ member
      rw [List.flatten_cons, List.append_assoc, List.singleton_append,
        cutAfter_append inside (beq_iff_eq.mpr closing), ← ih later]

def marked (mark : List α) (ends : α → Bool) (text : List α) : List α :=
  (cutAfter ends text).flatMap (mark ++ ·)

def atLineStart (ends : α → Bool) (text : List α) : Bool := text.getLast?.all ends

section Marked

variable {ends : α → Bool} {front piece : List α}

theorem marked_append_of_start (mark : List α) (starts : atLineStart ends front = true)
    (whole : cutAfter ends piece = [piece]) :
    marked mark ends (front ++ piece) = marked mark ends front ++ (mark ++ piece) := by
  have alone : marked mark ends piece = mark ++ piece := by simp [marked, whole]
  cases front using List.reverseRecOn with
  | nil => exact alone
  | append_singleton body last =>
    have closing : ends last = true := by simpa [atLineStart] using starts
    rw [← alone, marked, List.append_assoc, List.singleton_append, cutAfter_ended closing,
      List.flatMap_append]
    rfl

theorem exists_cutAfter_open (nonempty : front ≠ []) (opened : atLineStart ends front = false)
    (whole : cutAfter ends piece = [piece]) :
    ∃ lines line, cutAfter ends front = lines ++ [line] ∧
      cutAfter ends (front ++ piece) = lines ++ [line ++ piece] := by
  induction front with
  | nil => exact absurd rfl nonempty
  | cons head rest ih =>
    by_cases last : rest = []
    next =>
      subst last
      have inside : ends head = false := by simpa [atLineStart] using opened
      exact ⟨[], [head], by simp [cutAfter, inside], by simp [cutAfter, inside, whole]⟩
    next =>
      have opened' : atLineStart ends rest = false := by
        rwa [atLineStart, List.getLast?_cons_of_ne_nil last] at opened
      obtain ⟨lines, line, before, after⟩ := ih last opened'
      by_cases closing : ends head = true
      next =>
        exact ⟨[head] :: lines, line, by simp [cutAfter, closing, before],
          by simp [cutAfter, closing, after]⟩
      next =>
        cases lines with
        | nil =>
          exact ⟨[], head :: line, by simp [cutAfter, closing, before],
            by simp [cutAfter, closing, after]⟩
        | cons first others =>
          exact ⟨(head :: first) :: others, line, by simp [cutAfter, closing, before],
            by simp [cutAfter, closing, after]⟩

theorem marked_append_of_open (mark : List α) (opened : atLineStart ends front = false)
    (whole : cutAfter ends piece = [piece]) :
    marked mark ends (front ++ piece) = marked mark ends front ++ piece := by
  have nonempty : front ≠ [] := by
    rintro rfl
    simp [atLineStart] at opened
  obtain ⟨lines, line, before, after⟩ := exists_cutAfter_open nonempty opened whole
  simp [marked, before, after]

end Marked

namespace Margin

variable {writeAll : WriteAll α ε σ} {written : σ → List α} {ends : α → Bool} {mark : List α}
  {first : σ} {text : List α} {margin : Margin α σ}

def Works (writeAll : WriteAll α ε σ) (written : σ → List α) : Prop :=
  ∀ text inner, ∃ later, writeAll text inner = (.ok (), later) ∧
    written later = written inner ++ text

structure Received (written : σ → List α) (mark : List α) (ends : α → Bool) (first : σ)
    (text : List α) (margin : Margin α σ) : Prop where
  sameMark : margin.mark = mark
  passedOn : written margin.inner = written first ++ marked mark ends text
  atStart : margin.atStart = atLineStart ends text

theorem new_received (written : σ → List α) (mark : List α) (ends : α → Bool) (first : σ) :
    Received written mark ends first [] (new mark first) :=
  ⟨rfl, by simp [new, marked, cutAfter], rfl⟩

theorem writePiece_received (works : Works writeAll written)
    (received : Received written mark ends first text margin) {piece : List α}
    (whole : cutAfter ends piece = [piece]) :
    ∃ later, writePiece writeAll ends piece margin = (.ok (), later) ∧
      Received written mark ends first (text ++ piece) later := by
  have nonempty : piece ≠ [] := by
    rintro rfl
    simp [cutAfter] at whole
  have state : piece.getLast?.any ends = atLineStart ends (text ++ piece) := by
    rw [atLineStart, List.getLast?_append_of_ne_nil _ nonempty,
      List.getLast?_eq_some_getLast nonempty]
    rfl
  by_cases starts : margin.atStart = true
  next =>
    obtain ⟨led, marks, before⟩ := works margin.mark margin.inner
    obtain ⟨later, writes, after⟩ := works piece led
    refine ⟨{ margin with inner := later, atStart := piece.getLast?.any ends }, ?_,
      received.sameMark, ?_, state⟩
    · simp [writePiece, writeMark, starts, marks, writes]
    · rw [marked_append_of_start mark (received.atStart ▸ starts) whole, after, before,
        received.passedOn, received.sameMark, List.append_assoc, List.append_assoc]
  next =>
    obtain ⟨later, writes, after⟩ := works piece margin.inner
    have opened : atLineStart ends text = false := by simpa [received.atStart] using starts
    refine ⟨{ margin with inner := later, atStart := piece.getLast?.any ends }, ?_,
      received.sameMark, ?_, state⟩
    · simp [writePiece, writeMark, starts, writes]
    · rw [marked_append_of_open mark opened whole, after, received.passedOn, List.append_assoc]

theorem writePieces_received (works : Works writeAll written)
    (received : Received written mark ends first text margin) {pieces : List (List α)}
    (whole : ∀ piece ∈ pieces, cutAfter ends piece = [piece]) :
    ∃ later, writePieces writeAll ends pieces margin = (.ok (), later) ∧
      Received written mark ends first (text ++ pieces.flatten) later := by
  induction pieces generalizing text margin with
  | nil => exact ⟨margin, rfl, by simpa using received⟩
  | cons piece rest ih =>
    obtain ⟨here, others⟩ := List.forall_mem_cons.mp whole
    obtain ⟨next, writes, taken⟩ := writePiece_received works received here
    obtain ⟨later, rest', done⟩ := ih taken others
    refine ⟨later, by rw [writePieces, writes]; exact rest', ?_⟩
    rwa [List.flatten_cons, ← List.append_assoc]

theorem write_received (works : Works writeAll written)
    (received : Received written mark ends first text margin) (chunk : List α) :
    ∃ later, write writeAll ends chunk margin = (.ok chunk.length, later) ∧
      Received written mark ends first (text ++ chunk) later := by
  have whole : ∀ piece ∈ cutAfter ends chunk, cutAfter ends piece = [piece] :=
    fun _ => cutAfter_of_mem
  obtain ⟨later, writes, taken⟩ := writePieces_received works received whole
  rw [flatten_cutAfter] at taken
  exact ⟨later, by rw [write, writes], taken⟩

theorem writes_received (works : Works writeAll written)
    (received : Received written mark ends first text margin) (chunks : List (List α)) :
    ∃ later, writes writeAll ends chunks margin =
        (chunks.map fun chunk => .ok chunk.length, later) ∧
      Received written mark ends first (text ++ chunks.flatten) later := by
  induction chunks generalizing text margin with
  | nil => exact ⟨margin, rfl, by simpa using received⟩
  | cons chunk rest ih =>
    obtain ⟨next, wrote, taken⟩ := write_received works received chunk
    obtain ⟨later, rest', done⟩ := ih taken
    refine ⟨later, by simp [writes, wrote, rest'], ?_⟩
    rwa [List.flatten_cons, ← List.append_assoc]

/-- However a text is cut into chunks, a margin before a writer that works writes the mark at the
start of each of its lines and nowhere else, and reports every chunk as written whole. -/
theorem writes_lines [DecidableEq α] (works : Works writeAll written) (mark : List α)
    (newline : α) (inner : σ) (chunks : List (List α)) :
    let wrote := writes writeAll (· == newline) chunks (new mark inner)
    wrote.1 = chunks.map (fun chunk => .ok chunk.length) ∧
      ∃ lines, LinesOf newline chunks.flatten lines ∧
        (∀ others, LinesOf newline chunks.flatten others → others = lines) ∧
        written wrote.2.inner = written inner ++ lines.flatMap (mark ++ ·) := by
  intro wrote
  obtain ⟨later, done, received⟩ :=
    writes_received works (new_received written mark (· == newline) inner) chunks
  have reports : wrote = (chunks.map fun chunk => .ok chunk.length, later) := done
  rw [List.nil_append] at received
  rw [reports]
  exact ⟨rfl, _, linesOf_cutAfter newline _, fun _ => LinesOf.eq_cutAfter, received.passedOn⟩

theorem keep_works : Works (α := α) keep kept := fun text pieces =>
  ⟨text :: pieces, rfl, by simp [kept]⟩

theorem writes_lines_cut :
    let chunks : List (List UInt8) := [[104, 105, 10], [], [121], [111, 10, 10]]
    let wrote := writes keep (· == 10) chunks (new [62, 32] [])
    Works (α := UInt8) keep kept ∧ wrote.1 = [.ok 3, .ok 0, .ok 1, .ok 3] ∧
      kept wrote.2.inner = [62, 32, 104, 105, 10, 62, 32, 121, 111, 10, 62, 32, 10] := by
  intro chunks wrote
  obtain ⟨reports, lines, linesOf, -, written⟩ :=
    writes_lines (keep_works (α := UInt8)) [62, 32] 10 [] chunks
  refine ⟨keep_works, reports, written.trans ?_⟩
  rw [linesOf.eq_cutAfter]
  decide

end Margin

theorem markChunks_eq_marked (mark : List α) (ends : α → Bool) (chunks : List (List α)) :
    markChunks mark ends true chunks = marked mark ends chunks.flatten := by
  obtain ⟨later, done, received⟩ := Margin.writes_received Margin.keep_works
    (Margin.new_received Margin.kept mark ends []) chunks
  have last : (Margin.writes Margin.keep ends chunks ⟨mark, [], true⟩).2 = later :=
    congrArg Prod.snd done
  rw [markChunks, last, received.passedOn]
  rfl

end Runbook.Text
