import Runbook.Proofs.Script.Grammar

set_option autoImplicit false

namespace Runbook

def Span.shift (offset : Nat) (span : Span) : Span := ⟨offset + span.start, offset + span.stop⟩

theorem Span.shift_injective (offset : Nat) : Function.Injective (Span.shift offset) := by
  rintro ⟨start, stop⟩ ⟨start', stop'⟩ same
  obtain ⟨starts, stops⟩ := Span.mk.inj same
  exact congr (congrArg Span.mk (Nat.add_left_cancel starts)) (Nat.add_left_cancel stops)

def Statement.shift (offset : Nat) (statement : Statement) : Statement :=
  { statement with span := statement.span.shift offset }

namespace Script

def Fault.shift (offset : Nat) (fault : Fault) : Fault :=
  { fault with span := fault.span.shift offset }

def Lexeme.shift (offset : Nat) (lexeme : Lexeme) : Lexeme :=
  { lexeme with span := lexeme.span.shift offset }

@[simp] theorem Lexeme.token_shift (offset : Nat) (lexeme : Lexeme) :
    (lexeme.shift offset).token = lexeme.token := rfl

@[simp] theorem Lexeme.span_shift (offset : Nat) (lexeme : Lexeme) :
    (lexeme.shift offset).span = lexeme.span.shift offset := rfl

def shiftResult {α : Type} (offset : Nat) (move : α → α) : Except Fault α → Except Fault α
  | .error fault => .error (fault.shift offset)
  | .ok value => .ok (move value)

section

variable {α β : Type} (offset : Nat) (move : α → α)

@[simp] theorem shiftResult_error (fault : Fault) :
    shiftResult offset move (.error fault) = .error (fault.shift offset) := rfl

@[simp] theorem shiftResult_ok (value : α) :
    shiftResult offset move (.ok value) = .ok (move value) := rfl

theorem shiftResult_bind {move' : β → β} {first first' : Except Fault α}
    {next next' : α → Except Fault β} (before : first' = shiftResult offset move first)
    (after : ∀ value, first = .ok value → next' (move value) = shiftResult offset move' (next value)) :
    (first' >>= next') = shiftResult offset move' (first >>= next) := by
  subst before
  cases first with
  | error fault => rfl
  | ok value => exact after value rfl

end

namespace Quoted

def Mode.shift (offset : Nat) : Mode → Mode
  | .plain => .plain
  | .escaped start => .escaped (offset + start)
  | .unbraced start => .unbraced (offset + start)
  | .braced start code => .braced (offset + start) code

def Reading.shift (offset : Nat) (reading : Reading) : Reading :=
  { reading with stop := offset + reading.stop }

theorem map_cons_shiftResult (offset : Nat) (c : Char) (result : Except Fault Reading) :
    (shiftResult offset (Reading.shift offset) result).map (.cons c) =
      shiftResult offset (Reading.shift offset) (result.map (.cons c)) := by
  cases result <;> rfl

theorem read_shift (offset opening position : Nat) (mode : Mode) (chars : List Char) :
    read (offset + opening) (offset + position) (mode.shift offset) chars =
      shiftResult offset (Reading.shift offset) (read opening position mode chars) := by
  fun_induction read opening position mode chars <;>
    simp_all [read, Mode.shift, map_cons_shiftResult, Nat.add_assoc, Fault.shift, Span.shift,
      badCode, Reading.shift]

end Quoted

def shiftRead (offset : Nat) (read : Lexeme × List Char) : Lexeme × List Char :=
  (read.1.shift offset, read.2)

theorem readHole_shift (offset position : Nat) (chars : List Char) :
    readHole (offset + position) chars =
      shiftResult offset (shiftRead offset) (readHole position chars) := by
  simp only [readHole]
  cases chars.dropWhile (· != '\x7d') with
  | nil => simp [Fault.shift, Span.shift, Nat.add_assoc]
  | cons closing rest =>
    cases (Text.trimChars (chars.takeWhile (· != '\x7d'))).isEmpty <;>
      simp [shiftRead, Fault.shift, Lexeme.shift, Span.shift, Nat.add_assoc]

theorem readLexeme_shift (offset position : Nat) (c : Char) (rest : List Char) :
    readLexeme (offset + position) c rest =
      shiftResult offset (shiftRead offset) (readLexeme position c rest) := by
  have quoted := Quoted.read_shift offset position (position + 1) .plain rest
  unfold readLexeme
  split
  next => rfl
  next =>
    split
    next =>
      rw [← Nat.add_assoc] at quoted
      simp only [Quoted.Mode.shift] at quoted
      rw [quoted]
      cases Quoted.read position (position + 1) .plain rest <;> rfl
    next =>
      split
      next => exact readHole_shift offset position rest
      next =>
        split
        next => rfl
        next => simp [shiftRead, Lexeme.shift, Span.shift, Nat.add_assoc]

theorem scan_of_blank {position : Nat} {c : Char} {rest : List Char}
    (blank : Text.isBlank c = true) : scan position (c :: rest) = scan (position + 1) rest := by
  rw [scan, if_pos blank]

theorem scan_of_ink {position : Nat} {c : Char} {rest : List Char} (ink : ¬ Text.isBlank c = true)
    (open' : c ≠ '#') :
    scan position (c :: rest) =
      readLexeme position c rest >>= fun read => (scan read.1.span.stop read.2).map (read.1 :: ·) := by
  rw [scan, if_neg ink, if_neg open']
  split
  next fault failed => rw [failed]; rfl
  next lexeme after found => rw [found]; rfl

theorem scan_shift (offset position : Nat) (chars : List Char) :
    scan (offset + position) chars =
      shiftResult offset (List.map (Lexeme.shift offset)) (scan position chars) := by
  fun_induction scan position chars with
  | case1 => rw [scan]; rfl
  | case2 position c rest blank ih => rw [scan_of_blank blank, Nat.add_assoc, ih]
  | case3 position rest ink => rw [scan, if_neg ink, if_pos rfl]; rfl
  | case4 position c rest ink open' fault found =>
    rw [scan_of_ink ink open', readLexeme_shift, found]
    rfl
  | case5 position c rest ink open' lexeme after found ih =>
    rw [scan_of_ink ink open', readLexeme_shift, found]
    have later : scan (lexeme.shift offset).span.stop after =
        shiftResult offset (List.map (Lexeme.shift offset)) (scan lexeme.span.stop after) := ih
    change (scan (lexeme.shift offset).span.stop after).map _ = _
    rw [later]
    cases scan lexeme.span.stop after <;> rfl

section Lexemes

variable (offset : Nat)

theorem readWord_shift (role : Role) (stop : Nat) (lexemes : List Lexeme) :
    readWord role (offset + stop) (lexemes.map (Lexeme.shift offset)) =
      shiftResult offset (fun read => (read.1, read.2.map (Lexeme.shift offset)))
        (readWord role stop lexemes) := by
  rcases lexemes with _ | ⟨⟨text | text | key | _, place⟩, rest⟩ <;> rfl

theorem argumentOf_shift (lexeme : Lexeme) :
    argumentOf (lexeme.shift offset) = shiftResult offset id (argumentOf lexeme) := by
  obtain ⟨token, span⟩ := lexeme
  cases token <;> rfl

theorem addArgument_shift (arguments : Dict String Argument) (parameter : String)
    (name value : Lexeme) :
    addArgument arguments parameter (name.shift offset) (value.shift offset) =
      shiftResult offset id (addArgument arguments parameter name value) := by
  simp only [addArgument, argumentOf_shift]
  cases argumentOf value with
  | error fault => rfl
  | ok argument => cases arguments.contains parameter <;> rfl

theorem token_ne_equals {value : Lexeme} {others : List Lexeme}
    (alone : ∀ span, value = ⟨.equals, span⟩ → others = [] → False)
    (followed : ∀ span next rest, value = ⟨.equals, span⟩ → others = next :: rest → False) :
    value.token ≠ .equals := by
  intro isEquals
  have same : value = ⟨.equals, value.span⟩ := by rw [← isEquals]
  cases others with
  | nil => exact alone _ same rfl
  | cons next rest => exact followed _ next rest same rfl

theorem readArguments_shift (arguments : Dict String Argument) (lexemes : List Lexeme) :
    readArguments arguments (lexemes.map (Lexeme.shift offset)) =
      shiftResult offset id (readArguments arguments lexemes) := by
  fun_induction readArguments arguments lexemes with
  | case1 => rfl
  | case2 arguments name text isWord parameter =>
    simp [readArguments, isWord, parameter, Fault.shift]
  | case3 arguments name text isWord parameter span =>
    simp [readArguments, isWord, parameter, Fault.shift, Lexeme.shift]
  | case4 arguments name text isWord parameter span value others fault added =>
    have isWord' : (name.shift offset).token = .word text := isWord
    refine (readArguments_joined arguments isWord' _ _ _).trans ?_
    rw [addArgument_shift, added]
    rfl
  | case5 arguments name text isWord parameter span value others more added =>
    have isWord' : (name.shift offset).token = .word text := isWord
    rename_i ih
    refine (readArguments_joined arguments isWord' _ _ _).trans ?_
    rw [addArgument_shift, added]
    exact ih
  | case6 arguments name text isWord parameter value others alone followed fault added =>
    have isWord' : (name.shift offset).token = .word text := isWord
    have unequal := token_ne_equals alone followed
    have unequal' : (value.shift offset).token ≠ .equals := unequal
    refine (readArguments_spaced arguments isWord' unequal' _).trans ?_
    rw [addArgument_shift, added]
    rfl
  | case7 arguments name text isWord parameter value others alone followed more added =>
    have isWord' : (name.shift offset).token = .word text := isWord
    rename_i ih
    have unequal := token_ne_equals alone followed
    have unequal' : (value.shift offset).token ≠ .equals := unequal
    refine (readArguments_spaced arguments isWord' unequal' _).trans ?_
    rw [addArgument_shift, added]
    exact ih
  | case8 arguments name rest wordless =>
    simp only [List.map_cons, readArguments, Lexeme.token_shift]
    rfl

theorem spanOf_shift (first : Lexeme) (rest : List Lexeme) :
    spanOf (first.shift offset) (rest.map (Lexeme.shift offset)) =
      (spanOf first rest).shift offset := by
  simp only [spanOf, ← List.map_cons, List.getLast_map, Lexeme.span_shift]
  rfl

theorem readName_shift (lexeme : Lexeme) :
    readName (lexeme.shift offset) = shiftResult offset id (readName lexeme) := by
  obtain ⟨token, span⟩ := lexeme
  cases token with
  | word text => cases isName : Text.isName text.toList <;> simp [readName, isName, Fault.shift]
  | quoted _ | hole _ | equals => rfl

theorem readCall_shift (stop : Nat) (lexemes : List Lexeme) :
    readCall (offset + stop) (lexemes.map (Lexeme.shift offset)) =
      shiftResult offset id (readCall stop lexemes) := by
  unfold readCall
  refine shiftResult_bind offset _ (readWord_shift offset .action stop lexemes) ?_
  rintro ⟨action, afterAction⟩ -
  refine shiftResult_bind offset _ (readWord_shift offset .kind stop afterAction) ?_
  rintro ⟨kind, afterKind⟩ -
  refine shiftResult_bind offset _ (readArguments_shift offset ∅ afterKind) ?_
  intro arguments _
  rfl

theorem statementOf?_shift (lexemes : List Lexeme) :
    statementOf? (lexemes.map (Lexeme.shift offset)) =
      shiftResult offset (Option.map (Statement.shift offset)) (statementOf? lexemes) := by
  cases lexemes with
  | nil => rfl
  | cons first rest =>
    have place := spanOf_shift offset first rest
    have whole := readCall_shift offset (spanOf first rest).stop (first :: rest)
    simp only [List.map_cons, statementOf?, place] at whole ⊢
    rcases rest with _ | ⟨⟨text | text | key | _, place⟩, body⟩
    case cons.cons.equals =>
      refine shiftResult_bind offset _ (readName_shift offset first) ?_
      intro name _
      refine shiftResult_bind offset _ (readCall_shift offset _ body) ?_
      intro call _
      rfl
    all_goals
      refine shiftResult_bind offset _ whole ?_
      intro call _
      rfl

end Lexemes

theorem readLine_shift (offset position : Nat) (line : List Char) :
    readLine (offset + position) line =
      shiftResult offset (Option.map (Statement.shift offset)) (readLine position line) := by
  unfold readLine
  refine shiftResult_bind offset (List.map (Lexeme.shift offset)) (scan_shift offset position _) ?_
  exact fun lexemes _ => statementOf?_shift offset lexemes

theorem readLines_shift (offset position : Nat) (lines : List (List Char)) :
    readLines (offset + position) lines =
      (readLines position lines).map
        (shiftResult offset (Option.map (Statement.shift offset))) := by
  induction lines generalizing position with
  | nil => rfl
  | cons line rest ih =>
    rw [readLines, readLines, List.map_cons, readLine_shift, Nat.add_assoc, ih]

end Script

end Runbook
