import Runbook.Proofs.Script.Fault

set_option autoImplicit false

namespace Runbook

namespace Script.Cursor

-- What a cursor makes of a line. There is nothing if the line was to be cut at a place outside it
-- or inside a character, or if the cursor stood still.
abbrev Outcome (α : Type) : Type := Option (Except Fault α)

def code? : List Char → Option (Char × Nat)
  | '\x7b' :: rest =>
    if '\x7d' ∈ rest then
      let code := rest.takeWhile (· != '\x7d')
      (Quoted.decode? code).map (·, Text.utf8Length code + 2)
    else none
  | _ => none

section Line

variable (offset : Nat) (line : List Char)

def unterminated (start : Nat) : Fault :=
  ⟨.unterminatedText, ⟨offset + start, offset + Text.utf8Length line⟩⟩

def push (c : Char) : Outcome (List Char × Nat) → Outcome (List Char × Nat) :=
  Option.map (Except.map fun read => (c :: read.1, read.2))

def items (start : Nat) : List (Nat × Char) → Outcome (List Char × Nat)
  | [] => some (.error (unterminated offset line start))
  | (place, c) :: rest =>
    if c = '"' then some (.ok ([], start + 1 + place + 1))
    else if c = '\\' then
      match rest with
      | [] => some (.error (unterminated offset line start))
      | (escape, mark) :: others =>
        let marked := offset + start + 1 + escape
        match Quoted.unescape? mark with
        | some plain => push plain (items start others)
        | none =>
          if mark = 'u' then
            (Text.slice? (start + 1 + escape + 1) (Text.utf8Length line) line).bind fun body =>
              match code? body with
              | some (plain, consumed) => push plain (items start (others.drop consumed))
              | none => some (.error ⟨.badCode, ⟨marked - 1, marked + 1⟩⟩)
          else some (.error ⟨.unknownEscape mark, ⟨marked - 1, marked + mark.utf8Size⟩⟩)
    else push c (items start rest)
termination_by chars => chars.length

def quoted (start : Nat) : Outcome (List Char × Nat) :=
  (Text.slice? (start + 1) (Text.utf8Length line) line).bind fun body =>
    items offset line start (Text.indices 0 body)

def hole (start : Nat) : Outcome (Lexeme × Nat) :=
  (Text.slice? start (Text.utf8Length line) line).bind fun rest =>
    match Text.find? '\x7d' rest with
    | none =>
      some (.error ⟨.unterminatedHole, ⟨offset + start, offset + Text.utf8Length line⟩⟩)
    | some close =>
      (Text.slice? (start + 1) (start + close) line).map fun inner =>
        let key := Text.trimChars inner
        let stop := start + close + 1
        let span : Span := ⟨offset + start, offset + stop⟩
        if key.isEmpty then .error ⟨.emptyHole, span⟩
        else .ok (⟨.hole (String.ofList key), span⟩, stop)

def wordStop (start : Nat) : Nat :=
  start + (((Text.bytes line).drop start).takeWhile fun byte => isWordPart (.ofUInt8 byte)).length

def lexeme (start : Nat) (c : Char) : Outcome (Lexeme × Nat) :=
  if c = '=' then some (.ok (⟨.equals, ⟨offset + start, offset + (start + 1)⟩⟩, start + 1))
  else if c = '"' then
    (quoted offset line start).map <| Except.map fun (text, stop) =>
      (⟨.quoted (String.ofList text), ⟨offset + start, offset + stop⟩⟩, stop)
  else if c = '\x7b' then hole offset line start
  else if c = '\x7d' then some (.error ⟨.strayBrace, ⟨offset + start, offset + start + 1⟩⟩)
  else
    let stop := wordStop line start
    (Text.slice? start stop line).map fun word =>
      .ok (⟨.word (String.ofList word), ⟨offset + start, offset + stop⟩⟩, stop)

def tokens (start : Nat) : Outcome (List Lexeme) :=
  match _found : (Text.bytes line)[start]? with
  | none => some (.ok [])
  | some byte =>
    let c := Char.ofUInt8 byte
    if Text.isBlank c then tokens (start + 1)
    else if c = '#' then some (.ok [])
    else
      match lexeme offset line start c with
      | none => none
      | some (.error fault) => some (.error fault)
      | some (.ok (first, stop)) =>
        if start < stop then (tokens stop).map (Except.map (first :: ·)) else none
termination_by (Text.bytes line).length - start
decreasing_by
  all_goals
    have inside := (List.getElem?_eq_some_iff.mp _found).1
    omega

end Line

variable {offset start : Nat} {line rest : List Char}

theorem length_of_remains (remains : Remains 0 line start rest) :
    Text.utf8Length line = start + Text.utf8Length rest := by
  obtain ⟨before, rfl, rfl⟩ := remains
  rw [Text.utf8Length_append, Nat.zero_add]

theorem slice_part {part : List Char} (remains : Remains 0 line start (part ++ rest)) :
    Text.slice? start (start + Text.utf8Length part) line = some part := by
  obtain ⟨before, rfl, rfl⟩ := remains
  exact Text.slice?_eq_some_iff.mpr ⟨before, rest, rfl, Nat.zero_add _, rfl⟩

theorem slice_rest (remains : Remains 0 line start rest) :
    Text.slice? start (Text.utf8Length line) line = some rest := by
  rw [length_of_remains remains]
  rw [← List.append_nil rest] at remains
  exact slice_part remains

theorem drop_bytes (remains : Remains 0 line start rest) :
    (Text.bytes line).drop start = Text.bytes rest := by
  obtain ⟨before, rfl, rfl⟩ := remains
  rw [Text.bytes_append, Nat.zero_add, ← Text.length_bytes, List.drop_left]

theorem utf8Length_of_decode? {code : List Char} {c : Char}
    (decoded : Quoted.decode? code = some c) :
    Text.utf8Length code = code.length := by
  obtain ⟨signed, digits, rfl, denotes⟩ := Quoted.decode?_eq_some_iff.mp decoded
  have ascii : ∀ d ∈ digits, d.toNat < 128 := by
    intro d member
    obtain ⟨value, isDigit⟩ := denotes.exists_isDigitOf d member
    exact (Quoted.hexValue?_bounds (Quoted.hexValue?_eq_some_iff.mpr isDigit)).1
  refine Text.utf8Length_of_ascii ?_
  cases signed with
  | true => exact List.forall_mem_cons.mpr ⟨by decide, ascii⟩
  | false => exact ascii

theorem code?_of_closed {inner after : List Char} (unclosed : '\x7d' ∉ inner) :
    code? ('\x7b' :: (inner ++ '\x7d' :: after)) =
      (Quoted.decode? inner).map (·, Text.utf8Length inner + 2) := by
  simp [code?, Text.takeWhile_bne unclosed]

theorem code?_of_ne {c : Char} {rest : List Char} (unopened : c ≠ '\x7b') :
    code? (c :: rest) = none := by
  unfold code?
  split
  next same => exact absurd (List.cons.inj same).1 unopened
  next => rfl

theorem read_unbraced (opening position begun : Nat) (chars : List Char) :
    Quoted.read opening position (.unbraced begun) chars =
      match code? chars with
      | none => .error (Quoted.badCode begun)
      | some (c, consumed) =>
        (Quoted.read opening (position + Text.utf8Length (chars.take consumed)) .plain
          (chars.drop consumed)).map (.cons c) := by
  rcases chars with _ | ⟨brace, rest⟩
  · rfl
  by_cases opens : brace = '\x7b'
  next =>
    subst opens
    rw [Quoted.read, if_pos rfl]
    by_cases closed : '\x7d' ∈ rest
    next =>
      obtain ⟨inner, after, rfl, unclosed⟩ := List.eq_append_cons_of_mem closed
      have inside : ∀ c ∈ inner, c ≠ '\x7d' := fun c member same => unclosed (same ▸ member)
      rw [code?_of_closed unclosed, Quoted.read_braced inside, Quoted.read, if_pos rfl,
        List.append_nil, List.reverse_reverse]
      cases decoded : Quoted.decode? inner with
      | none => rfl
      | some c =>
        have count := utf8Length_of_decode? decoded
        have whole : '\x7b' :: (inner ++ '\x7d' :: after) =
            ('\x7b' :: (inner ++ ['\x7d'])) ++ after := by simp
        have size : ('\x7b' :: (inner ++ ['\x7d'])).length = Text.utf8Length inner + 2 := by
          simp [count]
        simp only [Option.map_some]
        rw [whole, ← size, List.take_left, List.drop_left, Text.utf8Length_enclosed,
          ← Nat.add_assoc, ← Nat.add_assoc]
        rfl
    next =>
      have inside : ∀ c ∈ rest, c ≠ '\x7d' := fun c member same => closed (same ▸ member)
      rw [← List.append_nil rest, Quoted.read_braced inside]
      simp [code?, closed, Quoted.read]
  next =>
    rw [Quoted.read, if_neg opens, code?_of_ne opens]

theorem read_mark (opening position : Nat) (mark : Char) (others : List Char) :
    Quoted.read opening position .plain ('\\' :: mark :: others) =
      match Quoted.unescape? mark with
      | some plain =>
        (Quoted.read opening (position + 1 + mark.utf8Size) .plain others).map (.cons plain)
      | none =>
        if mark = 'u' then
          match code? others with
          | none => .error (Quoted.badCode position)
          | some (plain, consumed) =>
            (Quoted.read opening (position + 1 + 1 + Text.utf8Length (others.take consumed)) .plain
              (others.drop consumed)).map (.cons plain)
        else .error ⟨.unknownEscape mark, ⟨position, position + 1 + mark.utf8Size⟩⟩ := by
  rw [Quoted.read, if_neg (by decide), if_pos rfl, Quoted.read]
  split
  next isCode =>
    subst isCode
    exact read_unbraced opening _ position others
  next => cases Quoted.unescape? mark <;> rfl

def taken (offset : Nat) (reading : Quoted.Reading) : List Char × Nat :=
  (reading.text, reading.stop - offset)

theorem push_taken (c : Char) (result : Except Fault Quoted.Reading) :
    push c (some (result.map (taken offset))) =
      some ((result.map (.cons c)).map (taken offset)) := by
  cases result <;> rfl

theorem items_mark {place : Nat} {mark : Char} {others : List Char}
    (remains : Remains 0 line (start + 1 + place) ('\\' :: mark :: others)) :
    items offset line start (Text.indices place ('\\' :: mark :: others)) =
      let position := offset + (start + 1 + place)
      match Quoted.unescape? mark with
      | some plain =>
        push plain (items offset line start (Text.indices (place + 1 + mark.utf8Size) others))
      | none =>
        if mark = 'u' then
          match code? others with
          | none => some (.error (Quoted.badCode position))
          | some (plain, consumed) =>
            let place' := place + 1 + 1 + Text.utf8Length (others.take consumed)
            push plain (items offset line start (Text.indices place' (others.drop consumed)))
        else some (.error ⟨.unknownEscape mark, ⟨position, position + 1 + mark.utf8Size⟩⟩) := by
  have one : '\\'.utf8Size = 1 ∧ 'u'.utf8Size = 1 := ⟨rfl, rfl⟩
  have marked : offset + start + 1 + (place + '\\'.utf8Size) =
      offset + (start + 1 + place) + 1 := by omega
  rw [Text.indices, Text.indices, items.eq_def]
  dsimp only
  rw [if_neg (by decide), if_pos rfl, marked]
  cases Quoted.unescape? mark with
  | some plain => rfl
  | none =>
    dsimp only
    split
    next isCode =>
      subst isCode
      have behind : start + 1 + (place + '\\'.utf8Size) + 1 =
          start + 1 + place + '\\'.utf8Size + 'u'.utf8Size := by omega
      rw [behind, slice_rest remains.tail.tail, Option.bind_some]
      cases code? others with
      | none => rfl
      | some read =>
        dsimp only
        rw [Text.drop_indices]
        rfl
    next => rfl

theorem items_eq_read {place : Nat} {chars : List Char}
    (remains : Remains 0 line (start + 1 + place) chars) :
    items offset line start (Text.indices place chars) =
      some ((Quoted.read (offset + start) (offset + (start + 1 + place)) .plain chars).map
        (taken offset)) := by
  induction length : chars.length using Nat.strongRecOn generalizing place chars with
  | ind size ih =>
    have whole := length_of_remains remains
    rcases chars with _ | ⟨c, rest⟩
    · rw [Text.indices, items, Quoted.read, unterminated, whole]
      rfl
    have step (skipped : List Char) {after : List Char} (d : Char) {place' position : Nat}
        (parts : c :: rest = skipped ++ after) (nonempty : skipped ≠ [])
        (moved : place' = place + Text.utf8Length skipped)
        (moved' : position = offset + (start + 1 + place')) :
        push d (items offset line start (Text.indices place' after)) =
          some (((Quoted.read (offset + start) position .plain after).map (.cons d)).map
            (taken offset)) := by
      have shorter : after.length < size := by
        rw [← length, parts, List.length_append]
        exact Nat.lt_add_of_pos_left (List.length_pos_iff.mpr nonempty)
      rw [parts] at remains
      have further := remains.drop skipped
      rw [Nat.add_assoc, ← moved] at further
      rw [ih _ shorter further rfl, push_taken, moved']
    by_cases backslash : c = '\\'
    next =>
      subst backslash
      rcases rest with _ | ⟨mark, others⟩
      · rw [Text.indices, items.eq_def, Quoted.read, if_neg (by decide), if_pos rfl, Quoted.read]
        dsimp only
        rw [if_neg (by decide), if_pos rfl, Text.indices, unterminated, whole]
        rfl
      have one : '\\'.utf8Size = 1 ∧ 'u'.utf8Size = 1 := ⟨rfl, rfl⟩
      rw [items_mark remains, read_mark]
      cases Quoted.unescape? mark with
      | some plain => exact step ['\\', mark] plain rfl (by simp) (Nat.add_assoc _ _ _) (by omega)
      | none =>
        dsimp only
        split
        next isCode =>
          subst isCode
          cases code? others with
          | none => rfl
          | some read =>
            have parts : '\\' :: 'u' :: others =
                '\\' :: 'u' :: others.take read.2 ++ others.drop read.2 := by simp
            refine step _ read.1 parts (by simp) ?_ (by omega)
            rw [Text.utf8Length, Text.utf8Length]
            omega
        next => rfl
    next =>
      rw [Text.indices, items.eq_def, Quoted.read]
      dsimp only
      rw [if_neg backslash, if_neg backslash]
      split
      next =>
        have stop : start + 1 + place + 1 = offset + (start + 1 + place) + 1 - offset := by omega
        rw [stop]
        rfl
      next => exact step [c] c rfl (by simp) rfl (by omega)

theorem quoted_eq_read (remains : Remains 0 line start ('"' :: rest)) :
    quoted offset line start = some
      ((Quoted.read (offset + start) (offset + start + 1) .plain rest).map (taken offset)) := by
  have behind : Remains 0 line (start + 1) rest := remains.tail
  rw [quoted, slice_rest behind, Option.bind_some]
  exact items_eq_read behind

def advanced (offset : Nat) (read : Lexeme × List Char) : Lexeme × Nat :=
  (read.1, read.1.span.stop - offset)

theorem hole_eq_read (remains : Remains 0 line start ('\x7b' :: rest)) :
    hole offset line start = some ((readHole (offset + start) rest).map (advanced offset)) := by
  have length := length_of_remains remains
  have one : '\x7b'.utf8Size = 1 := rfl
  rw [hole, slice_rest remains, Option.bind_some]
  by_cases closed : '\x7d' ∈ rest
  next =>
    obtain ⟨inner, after, rfl, unclosed⟩ := List.eq_append_cons_of_mem closed
    have absent : '\x7d' ∉ '\x7b' :: inner := by simpa using unclosed
    have found : Text.find? '\x7d' ('\x7b' :: (inner ++ '\x7d' :: after)) =
        some (1 + Text.utf8Length inner) := Text.find?_append absent after
    have part : Text.slice? (start + 1) (start + (1 + Text.utf8Length inner)) line =
        some inner := by
      rw [← Nat.add_assoc]
      exact slice_part remains.tail
    have place : offset + (start + (1 + Text.utf8Length inner) + 1) =
        offset + start + 1 + Text.utf8Length inner + 1 := by omega
    rw [found, readHole_closed unclosed]
    dsimp only
    rw [part, Option.map_some, place]
    cases (Text.trimChars inner).isEmpty with
    | true => rfl
    | false =>
      have stop : start + (1 + Text.utf8Length inner) + 1 =
          offset + start + 1 + Text.utf8Length inner + 1 - offset := by omega
      rw [stop]
      rfl
  next =>
    have unfound : Text.find? '\x7d' ('\x7b' :: rest) = none := by simp [Text.find?, closed]
    rw [unfound, readHole_open closed, length, Text.utf8Length, one]
    simp only [Except.map, ← Nat.add_assoc]

theorem isWordPart_of_high {c : Char} (high : 128 ≤ c.toNat) : isWordPart c = true := by
  refine (Bool.not_eq_false _).mp fun ends => ?_
  have ascii : delimiters.all (·.toNat < 128) = true := by decide
  have low := List.all_eq_true.mp ascii c (mem_delimiters_iff.mpr (.inl ends))
  exact absurd (of_decide_eq_true low) (Nat.not_lt.mpr high)

theorem wordStop_eq (remains : Remains 0 line start rest) :
    wordStop line start = start + Text.utf8Length (rest.takeWhile isWordPart) := by
  rw [wordStop, drop_bytes remains, Text.takeWhile_bytes fun c => isWordPart_of_high,
    Text.length_bytes]

theorem lexeme_eq_read {c : Char} (remains : Remains 0 line start (c :: rest))
    (ink : Text.isBlank c = false) :
    lexeme offset line start c =
      some ((readLexeme (offset + start) c rest).map (advanced offset)) := by
  have back (size : Nat) : offset + start + size - offset = start + size := by omega
  unfold lexeme readLexeme
  split
  next => rw [Except.map, advanced, back, Nat.add_assoc]
  next noEquals =>
    split
    next quote =>
      subst quote
      rw [quoted_eq_read remains]
      cases found : Quoted.read (offset + start) (offset + start + 1) .plain rest with
      | error fault => rfl
      | ok reading =>
        obtain ⟨body, -, covers⟩ := quoted_covers found
        have stop : reading.stop = offset + start + Text.utf8Length ('"' :: body) :=
          congrArg Span.stop covers.span
        have forth : offset + (reading.stop - offset) = reading.stop := by omega
        simp [Except.map, taken, advanced, forth]
    next noQuote =>
      split
      next brace =>
        subst brace
        exact hole_eq_read remains
      next noBrace =>
        split
        next => rfl
        next noClose =>
          have part : isWordPart c = true :=
            isWordPart_iff.mpr ⟨ink, noEquals, noQuote, noBrace, noClose⟩
          have word : (c :: rest).takeWhile isWordPart = c :: rest.takeWhile isWordPart :=
            List.takeWhile_cons_of_pos part
          have whole : c :: rest =
              (c :: rest.takeWhile isWordPart) ++ rest.dropWhile isWordPart := by simp
          rw [wordStop_eq remains, word]
          rw [whole] at remains
          dsimp only
          rw [slice_part remains, Option.map_some, Except.map, advanced, back, Nat.add_assoc]

theorem lexeme_alike {c d : Char} (alike : Text.Alike d c) :
    lexeme offset line start d = lexeme offset line start c := by
  have equals := alike '=' (by decide)
  have quote := alike '"' (by decide)
  have opening := alike '\x7b' (by decide)
  have closing := alike '\x7d' (by decide)
  simp only [lexeme, equals, quote, opening, closing]

theorem isBlank_alike {c d : Char} (alike : Text.Alike d c) :
    Text.isBlank d = Text.isBlank c := by
  have space := alike ' ' (by decide)
  have tab := alike '\t' (by decide)
  have newline := alike '\n' (by decide)
  have feed := alike '\x0c' (by decide)
  have carriage := alike '\r' (by decide)
  rw [Bool.eq_iff_iff]
  simp only [Text.isBlank, Bool.or_eq_true, beq_iff_eq, space, tab, newline, feed, carriage]

theorem tokens_nil (remains : Remains 0 line start []) :
    tokens offset line start = some (.ok []) := by
  have ended : (Text.bytes line)[start]? = none := by
    rw [List.getElem?_eq_none_iff, Text.length_bytes, length_of_remains remains]
    exact Nat.le_refl start
  rw [tokens]
  split
  next => rfl
  next byte found => simp [ended] at found

theorem tokens_cons {c : Char} (remains : Remains 0 line start (c :: rest)) :
    tokens offset line start =
      if Text.isBlank c then tokens offset line (start + 1)
      else if c = '#' then some (.ok [])
      else
        match lexeme offset line start c with
        | none => none
        | some (.error fault) => some (.error fault)
        | some (.ok (first, stop)) =>
          if start < stop then (tokens offset line stop).map (Except.map (first :: ·))
          else none := by
  obtain ⟨byte, here, alike⟩ := Text.exists_byte c rest
  rw [← drop_bytes remains, List.getElem?_drop, Nat.add_zero] at here
  rw [tokens]
  split
  next ended => simp [ended] at here
  next byte' found =>
    obtain rfl : byte' = byte := Option.some.inj (found.symm.trans here)
    simp only [isBlank_alike alike, alike '#' (by decide), lexeme_alike alike]

theorem tokens_eq_scan {position : Nat} {chars : List Char} (place : position = offset + start)
    (remains : Remains 0 line start chars) :
    tokens offset line start = some (scan position chars) := by
  fun_induction scan position chars generalizing start with
  | case1 => exact tokens_nil remains
  | case2 position c rest blank ih =>
    have further : Remains 0 line (start + 1) rest := utf8Size_of_isBlank blank ▸ remains.tail
    rw [tokens_cons remains, if_pos blank]
    exact ih (by omega) further
  | case3 position rest ink =>
    rw [tokens_cons remains, if_neg ink, if_pos rfl]
  | case4 position c rest ink open' fault found =>
    subst place
    have ink' : Text.isBlank c = false := by simpa using ink
    rw [tokens_cons remains, if_neg ink, if_neg open', lexeme_eq_read remains ink', found]
    rfl
  | case5 position c rest ink open' first after found ih =>
    subst place
    have ink' : Text.isBlank c = false := by simpa using ink
    obtain ⟨body, rfl, covers⟩ := readLexeme_covers ink' found
    have stop : first.span.stop = offset + (start + Text.utf8Length (c :: body)) := by
      rw [covers.span, Nat.add_assoc]
    have moves : start < start + Text.utf8Length (c :: body) :=
      Nat.lt_add_of_pos_right (Text.utf8Length_pos (List.cons_ne_nil c body))
    have further := Remains.drop (c :: body) remains
    rw [tokens_cons remains, if_neg ink, if_neg open', lexeme_eq_read remains ink', found]
    dsimp only [Except.map, advanced]
    rw [stop, Nat.add_sub_cancel_left, if_pos moves, ih stop further, stop]
    rfl

end Script.Cursor

/-- A written literal is read back wherever it stands and whatever surrounds it. The reader gives
the text and the place behind the literal, from where on the line is what was put there; and nothing
in a literal is a control character. -/
theorem Script.Quoted.write_reread (offset : Nat) (text before after : List Char) :
    let line := before ++ (write text ++ after)
    let start := Text.utf8Length before
    let stop := Text.utf8Length (before ++ write text)
    Cursor.quoted offset line start = some (.ok (text, stop)) ∧
      (∃ rest, line = before ++ '"' :: rest ∧
        read (offset + start) (offset + start + 1) .plain rest =
          .ok ⟨text, offset + stop, after⟩) ∧
      Text.slice? stop (Text.utf8Length line) line = some after ∧
      ∀ c ∈ write text, Text.isControl c = false := by
  intro line start stop
  have opened : write text ++ after = '"' :: (text.flatMap escape ++ '"' :: after) := by
    simp [write]
  have place : offset + start + 1 + Text.utf8Length (text.flatMap escape) + 1 = offset + stop := by
    have quote : '"'.utf8Size = 1 := rfl
    simp only [start, stop, Text.utf8Length_append, write, Text.utf8Length_enclosed, quote]
    omega
  have reading : read (offset + start) (offset + start + 1) .plain
      (text.flatMap escape ++ '"' :: after) = .ok ⟨text, offset + stop, after⟩ := by
    rw [read_write, place]
  have remains : Remains 0 line start ('"' :: (text.flatMap escape ++ '"' :: after)) :=
    ⟨before, congrArg (before ++ ·) opened, (Nat.zero_add _).symm⟩
  have behind : Remains 0 line stop after :=
    ⟨before ++ write text, (List.append_assoc _ _ _).symm, (Nat.zero_add _).symm⟩
  refine ⟨?_, ⟨_, congrArg (before ++ ·) opened, reading⟩, Cursor.slice_rest behind,
    fun c => isControl_of_mem_write⟩
  rw [Cursor.quoted_eq_read remains, reading]
  simp [Except.map, Cursor.taken]

namespace Script

/-- Every fault lies in the line that it was found in, line end apart, and on character boundaries,
so that its span can be cut out of the text. When a line is read by the byte, every cut is defined
as well, in a line as a whole and behind any opening quote, and what is found is the same. -/
theorem faults_within :
    (∀ (file : Nat) (source : String) (errors : List ParseError),
      parse file source = .error errors → ∀ error ∈ errors, error.file = file ∧
        ∃ front line back, Text.lines source.toList = front ++ line :: back ∧
          let start := Text.utf8Length front.flatten
          let span := error.fault.span
          readLine start line = .error error.fault ∧
          start ≤ span.start ∧ span.start ≤ span.stop ∧
          span.stop ≤ start + Text.utf8Length (withoutLineEnds line) ∧
          ∃ part, Text.slice? span.start span.stop source.toList = some part) ∧
    ∀ (offset : Nat) (line : List Char),
      Cursor.tokens offset line 0 = some (scan offset line) ∧
      ∀ before rest, line = before ++ '"' :: rest →
        let start := Text.utf8Length before
        Cursor.quoted offset line start =
          some ((Quoted.read (offset + start) (offset + start + 1) .plain rest).map
            fun reading => (reading.text, reading.stop - offset)) := by
  constructor
  next =>
    intro file source errors failed error member
    obtain ⟨same, front, line, back, cut, read⟩ := exists_line_of_error failed member
    obtain ⟨after, whole⟩ := source_of_lines cut
    have within := readLine_within read
    obtain ⟨first, ordered, last⟩ := within.bounds
    exact ⟨same, front, line, back, cut, read, first, ordered, last, whole ▸ within.shown⟩
  next =>
    intro offset line
    refine ⟨Cursor.tokens_eq_scan rfl .whole, ?_⟩
    rintro before rest rfl
    exact Cursor.quoted_eq_read ⟨before, rfl, (Nat.zero_add _).symm⟩

theorem faults_within_escape :
    let source := "# é\ncreate vpc a=\"ü\\é\"\r\n"
    parse 2 source = .error [⟨⟨.unknownEscape 'é', ⟨21, 24⟩⟩, 2⟩] ∧
    ∃ part, Text.slice? 21 24 source.toList = some part := by
  have failed : parse 2 "# é\ncreate vpc a=\"ü\\é\"\r\n" =
      .error [⟨⟨.unknownEscape 'é', ⟨21, 24⟩⟩, 2⟩] := by
    decide +kernel
  obtain ⟨-, front, line, back, -, -, -, -, -, shown⟩ :=
    faults_within.1 2 _ _ failed _ List.mem_cons_self
  exact ⟨failed, shown⟩

end Script

end Runbook
