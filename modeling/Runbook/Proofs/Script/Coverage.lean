import Runbook.Proofs.Script.Cursor

set_option autoImplicit false

namespace Runbook.Script

inductive Token.Shown : Token → List Char → Prop
  | word {text : List Char} (isWord' : isWord text = true) : Shown (.word (String.ofList text)) text
  | equals : Shown .equals ['=']
  | hole {front key back : List Char} (nonempty : key ≠ []) (trimmed : Text.trimChars key = key)
      (unclosed : '\x7d' ∉ front ++ (key ++ back)) (before : ∀ c ∈ front, Text.isSpace c = true)
      (behind : ∀ c ∈ back, Text.isSpace c = true) :
      Shown (.hole (String.ofList key)) ('\x7b' :: (front ++ (key ++ back) ++ ['\x7d']))
  | quoted {items : List Quoted.Item} {text : List Char}
      (denotes : List.Forall₂ Quoted.Item.Denotes items text) :
      Shown (.quoted (String.ofList text)) ('"' :: (items.flatMap Quoted.Item.chars ++ ['"']))

theorem Token.Shown.ne_nil {token : Token} {text : List Char} (shown : token.Shown text) :
    text ≠ [] := by
  cases shown with
  | word isWord' =>
    rintro rfl
    cases isWord'
  | equals | hole | quoted => exact List.cons_ne_nil _ _

def Token.Ends (token : Token) (after : List Char) : Prop :=
  ∀ word, token = .word word → after.takeWhile isWordPart = []

theorem readHole_shown {position : Nat} {rest after : List Char} {lexeme : Lexeme}
    (done : readHole position rest = .ok (lexeme, after)) :
    ∃ text, '\x7b' :: rest = text ++ after ∧ lexeme.token.Shown text ∧ lexeme.token.Ends after := by
  by_cases closed : '\x7d' ∈ rest
  next =>
    obtain ⟨inner, behind, rfl, unclosed⟩ := List.eq_append_cons_of_mem closed
    rw [readHole_closed unclosed] at done
    split at done
    next => cases done
    next named =>
      cases done
      obtain ⟨front, back, parts, space, space'⟩ := Text.exists_trimmed inner
      have shown : (Token.hole (String.ofList (Text.trimChars inner))).Shown
          ('\x7b' :: (inner ++ ['\x7d'])) := by
        conv in inner ++ _ => rw [parts]
        exact .hole (by simpa using named) (Text.trimChars_trimChars inner) (parts ▸ unclosed)
          space space'
      exact ⟨_, by simp, shown, fun word same => by cases same⟩
  next =>
    rw [readHole_open closed] at done
    cases done

theorem readLexeme_shown {position : Nat} {c : Char} {rest after : List Char} {lexeme : Lexeme}
    (ink : Text.isBlank c = false) (open' : c ≠ '#')
    (done : readLexeme position c rest = .ok (lexeme, after)) :
    ∃ text, c :: rest = text ++ after ∧ lexeme.token.Shown text ∧ lexeme.token.Ends after := by
  unfold readLexeme at done
  split at done
  next equals =>
    cases done
    subst equals
    exact ⟨['='], rfl, .equals, fun word same => by cases same⟩
  next noEquals =>
    split at done
    next quote =>
      subst quote
      obtain ⟨reading, found, same⟩ := map_eq_ok_iff.mp done
      obtain ⟨rfl, rfl⟩ := Prod.mk.inj same
      obtain ⟨items, closed, denotes⟩ := Quoted.exists_items found
      exact ⟨_, by simp [closed], .quoted denotes, fun word same => by cases same⟩
    next noQuote =>
      split at done
      next brace =>
        subst brace
        exact readHole_shown done
      next noBrace =>
        split at done
        next => cases done
        next noClose =>
          cases done
          have parts : ∀ d ∈ c :: rest.takeWhile isWordPart, isWordPart d = true :=
            List.forall_mem_cons.mpr
              ⟨isWordPart_iff.mpr ⟨ink, noEquals, noQuote, noBrace, noClose⟩,
                fun d member => List.mem_takeWhile_imp member⟩
          have stops : (rest.dropWhile isWordPart).takeWhile isWordPart = [] :=
            List.takeWhile_eq_nil_iff.mpr (List.dropWhile_get_zero_not _ _)
          exact ⟨_, by simp, .word (isWord_cons.mpr ⟨open', parts⟩), fun _ _ => stops⟩

inductive Tiles : Nat → List Char → List Lexeme → Prop
  | done (position : Nat) : Tiles position [] []
  | comment (position : Nat) (rest : List Char) : Tiles position ('#' :: rest) []
  | blank {position : Nat} {c : Char} {rest : List Char} {lexemes : List Lexeme}
      (isBlank : Text.isBlank c = true) (later : Tiles (position + 1) rest lexemes) :
      Tiles position (c :: rest) lexemes
  | token {position : Nat} {token : Token} {text rest : List Char} {lexemes : List Lexeme}
      (shown : token.Shown text) (ends : token.Ends rest)
      (later : Tiles (position + Text.utf8Length text) rest lexemes) :
      Tiles position (text ++ rest)
        (⟨token, ⟨position, position + Text.utf8Length text⟩⟩ :: lexemes)

theorem scan_tiles {position : Nat} {chars : List Char} {lexemes : List Lexeme}
    (done : scan position chars = .ok lexemes) : Tiles position chars lexemes := by
  fun_induction scan position chars generalizing lexemes with
  | case1 position =>
    cases done
    exact .done position
  | case2 position c rest blank ih => exact .blank blank (ih done)
  | case3 position rest =>
    cases done
    exact .comment position rest
  | case4 => cases done
  | case5 position c rest ink open' lexeme after found ih =>
    obtain ⟨others, scanned, rfl⟩ := map_eq_ok_iff.mp done
    have ink' : Text.isBlank c = false := by simpa using ink
    obtain ⟨body, rfl, covers⟩ := readLexeme_covers ink' found
    obtain ⟨text, parts, shown, ends⟩ := readLexeme_shown ink' open' found
    obtain rfl : c :: body = text := List.append_cancel_right parts
    obtain ⟨token, span⟩ := lexeme
    obtain rfl : span = _ := covers.span
    exact .token shown ends (ih scanned)

namespace Tiles

variable {position : Nat} {chars : List Char} {lexemes : List Lexeme}

theorem start_le (tiles : Tiles position chars lexemes) :
    ∀ lexeme ∈ lexemes, position ≤ lexeme.span.start := by
  induction tiles with
  | done | comment => simp
  | blank isBlank later ih => exact fun lexeme member => Nat.le_of_succ_le (ih lexeme member)
  | token shown ends later ih =>
    refine List.forall_mem_cons.mpr ⟨Nat.le_refl _, fun lexeme member => ?_⟩
    exact (Nat.le_add_right _ _).trans (ih lexeme member)

theorem pairwise (tiles : Tiles position chars lexemes) :
    lexemes.Pairwise fun earlier later => earlier.span.stop ≤ later.span.start := by
  induction tiles with
  | done | comment => exact .nil
  | blank isBlank later ih => exact ih
  | token shown ends later ih => exact List.pairwise_cons.mpr ⟨later.start_le, ih⟩

theorem shown (tiles : Tiles position chars lexemes) : ∀ lexeme ∈ lexemes,
    ∃ before text after, chars = before ++ (text ++ after) ∧
      lexeme.span.start = position + Text.utf8Length before ∧
      lexeme.span.stop = lexeme.span.start + Text.utf8Length text ∧ lexeme.token.Shown text := by
  induction tiles with
  | done | comment => simp
  | @blank position c rest lexemes isBlank later ih =>
    intro lexeme member
    obtain ⟨before, text, after, rfl, start, stop, shown⟩ := ih lexeme member
    refine ⟨c :: before, text, after, rfl, ?_, stop, shown⟩
    rw [start, Text.utf8Length, utf8Size_of_isBlank isBlank, Nat.add_assoc]
  | @token position token text rest lexemes shown ends later ih =>
    refine List.forall_mem_cons.mpr ⟨⟨[], text, rest, rfl, rfl, rfl, shown⟩, ?_⟩
    intro lexeme member
    obtain ⟨before, text', after, rfl, start, stop, shown'⟩ := ih lexeme member
    refine ⟨text ++ before, text', after, (List.append_assoc _ _ _).symm, ?_, stop, shown'⟩
    rw [start, Text.utf8Length_append, Nat.add_assoc]

end Tiles

def holders (lexemes : List Lexeme) (place : Nat) : List Lexeme :=
  lexemes.filter fun lexeme => lexeme.span.start ≤ place ∧ place < lexeme.span.stop

theorem holders_of_before {lexemes : List Lexeme} {place : Nat}
    (before : ∀ lexeme ∈ lexemes, place < lexeme.span.start) : holders lexemes place = [] := by
  refine List.filter_eq_nil_iff.mpr fun lexeme member => ?_
  have := before lexeme member
  simp only [decide_eq_true_eq]
  omega

-- A line is its tokens and the blanks around them, and then a comment, if any. A comment starts
-- with its mark, where a token could start: at no place that a word would have gone on to.
structure Accounted (position : Nat) (lexemes : List Lexeme) (front comment : List Char) :
    Prop where
  opened : comment = [] ∨ ∃ rest, comment = '#' :: rest ∧
    ∀ lexeme ∈ lexemes, ∀ word, lexeme.token = .word word →
      lexeme.span.stop ≠ position + Text.utf8Length front
  held : ∀ place byte, (Text.bytes front)[place]? = some byte →
    (∃ lexeme, holders lexemes (position + place) = [lexeme]) ∨
      holders lexemes (position + place) = [] ∧ Text.isBlank (.ofUInt8 byte) = true
  ignored : ∀ place, Text.utf8Length front ≤ place → holders lexemes (position + place) = []

theorem holders_cons {token : Token} {span : Span} {lexemes : List Lexeme} {place : Nat}
    (behind : span.stop ≤ place) :
    holders (⟨token, span⟩ :: lexemes) place = holders lexemes place :=
  List.filter_cons_of_neg (by simp [behind])

theorem Accounted.behind {position : Nat} {lexemes others : List Lexeme}
    {piece front comment : List Char}
    (accounted : Accounted (position + Text.utf8Length piece) others front comment)
    (opened : comment = [] ∨ ∃ rest, comment = '#' :: rest ∧
      ∀ lexeme ∈ lexemes, ∀ word, lexeme.token = .word word →
        lexeme.span.stop ≠ position + Text.utf8Length piece + Text.utf8Length front)
    (held : ∀ place byte, (Text.bytes piece)[place]? = some byte →
      (∃ lexeme, holders lexemes (position + place) = [lexeme]) ∨
        holders lexemes (position + place) = [] ∧ Text.isBlank (.ofUInt8 byte) = true)
    (same : ∀ place, position + Text.utf8Length piece ≤ place →
      holders lexemes place = holders others place) :
    Accounted position lexemes (piece ++ front) comment where
  opened := by rwa [Text.utf8Length_append, ← Nat.add_assoc]
  held place byte found := by
    rw [Text.bytes_append] at found
    by_cases within : place < (Text.bytes piece).length
    next =>
      rw [List.getElem?_append_left within] at found
      exact held place byte found
    next =>
      rw [List.getElem?_append_right (Nat.le_of_not_lt within)] at found
      obtain ⟨more, rfl⟩ := Nat.exists_eq_add_of_le (Nat.le_of_not_lt within)
      rw [Nat.add_sub_cancel_left] at found
      rw [Text.length_bytes, ← Nat.add_assoc, same _ (Nat.le_add_right _ _)]
      exact accounted.held more byte found
  ignored place beyond := by
    rw [Text.utf8Length_append] at beyond
    obtain ⟨more, rfl⟩ := Nat.exists_eq_add_of_le beyond
    rw [Nat.add_assoc, ← Nat.add_assoc position, same _ (Nat.le_add_right _ _)]
    exact accounted.ignored _ (Nat.le_add_right _ _)

theorem Tiles.account {position : Nat} {chars : List Char} {lexemes : List Lexeme}
    (tiles : Tiles position chars lexemes) :
    ∃ front comment, chars = front ++ comment ∧ Accounted position lexemes front comment := by
  induction tiles with
  | done position => exact ⟨[], [], rfl, .inl rfl, by simp [Text.bytes], fun _ _ => rfl⟩
  | comment position rest =>
    exact ⟨[], '#' :: rest, rfl, .inr ⟨rest, rfl, by simp⟩, by simp [Text.bytes], fun _ _ => rfl⟩
  | @blank position c rest lexemes isBlank later ih =>
    obtain ⟨front, comment, rfl, accounted⟩ := ih
    have size : Text.utf8Length [c] = 1 := utf8Size_of_isBlank isBlank
    rw [← size] at accounted
    refine ⟨[c] ++ front, comment, rfl, accounted.behind accounted.opened ?_ fun _ _ => rfl⟩
    intro place byte found
    obtain rfl : place = 0 := by
      have inside := (List.getElem?_eq_some_iff.mp found).1
      rw [Text.length_bytes, size] at inside
      omega
    obtain ⟨byte', first, alike⟩ := Text.exists_byte c []
    obtain rfl : byte' = byte := Option.some.inj (first.symm.trans found)
    refine .inr ⟨holders_of_before later.start_le, ?_⟩
    rw [Cursor.isBlank_alike alike, isBlank]
  | @token position token text rest lexemes shown ends later ih =>
    obtain ⟨front, comment, rfl, accounted⟩ := ih
    refine ⟨text ++ front, comment, by rw [List.append_assoc],
      accounted.behind (accounted.opened.imp_right ?_) ?_ fun place beyond => holders_cons beyond⟩
    · rintro ⟨rest, rfl, apart⟩
      refine ⟨rest, rfl, List.forall_mem_cons.mpr ⟨fun word isWord' meets => ?_, apart⟩⟩
      -- A word that ends at the mark would have taken it in.
      obtain rfl : front = [] := by
        by_contra something
        have := Text.utf8Length_pos something
        dsimp only at meets
        omega
      exact absurd (ends word isWord') (by simp [isWordPart, Text.isBlank])
    · intro place byte found
      have inside := (List.getElem?_eq_some_iff.mp found).1
      rw [Text.length_bytes] at inside
      have others : holders lexemes (position + place) = [] :=
        holders_of_before fun lexeme member =>
          (Nat.add_lt_add_left inside position).trans_le (later.start_le lexeme member)
      exact .inl ⟨_, (List.filter_cons_of_pos (by simp [inside])).trans (congrArg _ others)⟩

/-- A line that can be read is accounted for by the byte. Its tokens have bytes, stand one behind
the other and can be cut out of the line, each as a writing of itself; what is in none of them is
blank or in the comment. Reading by the byte comes to the same tokens. -/
theorem scan_accounts {offset : Nat} {line : List Char} {lexemes : List Lexeme}
    (done : scan offset line = .ok lexemes) :
    Cursor.tokens offset line 0 = some (.ok lexemes) ∧
    (∀ lexeme ∈ lexemes, offset ≤ lexeme.span.start ∧ lexeme.span.start < lexeme.span.stop ∧
      ∃ text, Text.slice? (lexeme.span.start - offset) (lexeme.span.stop - offset) line =
        some text ∧ lexeme.token.Shown text) ∧
    lexemes.Pairwise (fun earlier later => earlier.span.stop ≤ later.span.start) ∧
    ∃ front comment, line = front ++ comment ∧ Accounted offset lexemes front comment := by
  have tiles := scan_tiles done
  refine ⟨?_, fun lexeme member => ?_, tiles.pairwise, tiles.account⟩
  · rw [Cursor.tokens_eq_scan (Nat.add_zero offset).symm .whole, done]
  · obtain ⟨before, text, after, rfl, start, stop, shown⟩ := tiles.shown lexeme member
    have something := Text.utf8Length_pos shown.ne_nil
    refine ⟨by omega, by omega, text, ?_, shown⟩
    exact Text.slice?_eq_some_iff.mpr ⟨before, after, rfl, by omega, by omega⟩

theorem scan_accounts_comment :
    let line := "é#1=\x7b key\t\x7d\"#\\u\x7be9\x7d\" # = \"".toList
    let lexemes : List Lexeme := [⟨.word "é#1", ⟨7, 11⟩⟩, ⟨.equals, ⟨11, 12⟩⟩,
      ⟨.hole "key", ⟨12, 19⟩⟩, ⟨.quoted "#é", ⟨19, 28⟩⟩]
    scan 7 line = .ok lexemes ∧
    ∃ front comment, line = front ++ comment ∧ Accounted 7 lexemes front comment := by
  have done : scan 7 "é#1=\x7b key\t\x7d\"#\\u\x7be9\x7d\" # = \"".toList = .ok
      [⟨.word "é#1", ⟨7, 11⟩⟩, ⟨.equals, ⟨11, 12⟩⟩, ⟨.hole "key", ⟨12, 19⟩⟩,
        ⟨.quoted "#é", ⟨19, 28⟩⟩] := by
    decide +kernel
  exact ⟨done, (scan_accounts done).2.2.2⟩

end Runbook.Script
