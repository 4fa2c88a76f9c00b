import Runbook.Proofs.Script.Literal
import Runbook.Proofs.Script.Surface
import Runbook.Proofs.Text.Bytes

set_option autoImplicit false

namespace Runbook.Script

theorem readHole_open {position : Nat} {chars : List Char} (unclosed : '\x7d' ∉ chars) :
    readHole position chars =
      .error ⟨.unterminatedHole, ⟨position, position + 1 + Text.utf8Length chars⟩⟩ := by
  have inside := Text.bne_of_not_mem unclosed
  simp [readHole, List.takeWhile_eq_self_iff.mpr inside, List.dropWhile_eq_nil_iff.mpr inside]

theorem readHole_closed {position : Nat} {inner after : List Char} (unclosed : '\x7d' ∉ inner) :
    let span : Span := ⟨position, position + 1 + Text.utf8Length inner + 1⟩
    readHole position (inner ++ '\x7d' :: after) =
      if (Text.trimChars inner).isEmpty then .error ⟨.emptyHole, span⟩
      else .ok (⟨.hole (String.ofList (Text.trimChars inner)), span⟩, after) := by
  simp [readHole, Text.takeWhile_bne unclosed, Text.dropWhile_bne unclosed]

structure Covers (position : Nat) (c : Char) (body : List Char) (lexeme : Lexeme)
    (after : List Char) : Prop where
  span : lexeme.span = ⟨position, position + Text.utf8Length (c :: body)⟩
  last : ∃ front last, c :: body = front ++ [last] ∧ Text.isBlank last = false
  alone : ∀ kept, kept <+: after → readLexeme position c (body ++ kept) = .ok (lexeme, kept)

theorem readHole_covers {position : Nat} {rest after : List Char} {lexeme : Lexeme}
    (done : readHole position rest = .ok (lexeme, after)) :
    ∃ body, rest = body ++ after ∧ Covers position '\x7b' body lexeme after := by
  by_cases closed : '\x7d' ∈ rest
  next =>
    obtain ⟨inner, behind, rfl, unclosed⟩ := List.eq_append_cons_of_mem closed
    rw [readHole_closed unclosed] at done
    split at done
    next => cases done
    next named =>
      cases done
      refine ⟨inner ++ ['\x7d'], by simp, ?_, ⟨'\x7b' :: inner, '\x7d', rfl, by decide⟩, ?_⟩
      · rw [Text.utf8Length_enclosed, ← Nat.add_assoc, ← Nat.add_assoc]
        rfl
      · intro kept _
        rw [List.append_assoc, List.singleton_append, readLexeme, if_neg (by decide),
          if_neg (by decide), if_pos rfl, readHole_closed unclosed, if_neg named]
  next =>
    rw [readHole_open closed] at done
    cases done

theorem quoted_covers {position : Nat} {rest : List Char} {reading : Quoted.Reading}
    (done : Quoted.read position (position + 1) .plain rest = .ok reading) :
    ∃ body, rest = body ++ reading.rest ∧
      Covers position '"' body ⟨.quoted (String.ofList reading.text), ⟨position, reading.stop⟩⟩
        reading.rest := by
  obtain ⟨items, rfl, denotes⟩ := Quoted.exists_items done
  rw [Quoted.read_of_items denotes] at done
  obtain ⟨text, stop, after⟩ := reading
  cases done
  refine ⟨items.flatMap Quoted.Item.chars ++ ['"'], by simp, ?_,
    ⟨'"' :: _, '"', rfl, by decide⟩, ?_⟩
  · rw [Text.utf8Length_enclosed, ← Nat.add_assoc, ← Nat.add_assoc]
    rfl
  · intro kept _
    rw [List.append_assoc, List.singleton_append, readLexeme, if_neg (by decide), if_pos rfl,
      Quoted.read_of_items denotes]
    rfl

theorem readLexeme_covers {position : Nat} {c : Char} {rest after : List Char} {lexeme : Lexeme}
    (ink : Text.isBlank c = false) (done : readLexeme position c rest = .ok (lexeme, after)) :
    ∃ body, rest = body ++ after ∧ Covers position c body lexeme after := by
  unfold readLexeme at done
  split at done
  next equals =>
    cases done
    subst equals
    exact ⟨[], rfl, rfl, ⟨[], '=', rfl, by decide⟩, fun kept _ => rfl⟩
  next noEquals =>
    split at done
    next quote =>
      subst quote
      obtain ⟨reading, found, same⟩ := map_eq_ok_iff.mp done
      obtain ⟨rfl, rfl⟩ := Prod.mk.inj same
      exact quoted_covers found
    next noQuote =>
      split at done
      next brace =>
        subst brace
        exact readHole_covers done
      next noBrace =>
        split at done
        next => cases done
        next noClose =>
          cases done
          have parts : ∀ d ∈ rest.takeWhile isWordPart, isWordPart d = true :=
            fun d member => List.all_eq_true.mp List.all_takeWhile d member
          refine ⟨rest.takeWhile isWordPart, List.takeWhile_append_dropWhile.symm, rfl, ?_, ?_⟩
          · refine ⟨_, _, (List.dropLast_append_getLast (List.cons_ne_nil c _)).symm, ?_⟩
            rcases List.mem_cons.mp (List.getLast_mem (List.cons_ne_nil c _)) with same | later
            · rwa [same]
            · exact (isWordPart_iff.mp (parts _ later)).1
          · intro kept part
            have stops : (rest.dropWhile isWordPart).takeWhile isWordPart = [] :=
              List.takeWhile_eq_nil_iff.mpr (List.dropWhile_get_zero_not _ _)
            have stops' := stops_of_prefix part stops
            have left : kept.dropWhile isWordPart = kept := by
              simpa [stops'] using List.takeWhile_append_dropWhile (p := isWordPart) (l := kept)
            rw [readLexeme, if_neg noEquals, if_neg noQuote, if_neg noBrace, if_neg noClose,
              List.takeWhile_append_of_pos parts, List.dropWhile_append_of_pos parts, stops', left,
              List.append_nil]

theorem utf8Size_of_isBlank {c : Char} (blank : Text.isBlank c = true) : c.utf8Size = 1 := by
  simp only [Text.isBlank, Bool.or_eq_true, beq_iff_eq] at blank
  rcases blank with (((rfl | rfl) | rfl) | rfl) | rfl <;> rfl

theorem scan_of_blanks {blanks chars : List Char} (position : Nat)
    (blank : ∀ c ∈ blanks, Text.isBlank c = true) :
    scan position (blanks ++ chars) = scan (position + Text.utf8Length blanks) chars := by
  induction blanks generalizing position with
  | nil => rfl
  | cons c rest ih =>
    obtain ⟨here, later⟩ := List.forall_mem_cons.mp blank
    rw [List.cons_append, scan_of_blank here, ih _ later, Text.utf8Length, utf8Size_of_isBlank here,
      Nat.add_assoc]

structure Extent (position : Nat) (lead body : List Char) (lexemes : List Lexeme) : Prop where
  blank : ∀ c ∈ lead, Text.isBlank c = true
  last : ∃ front last, body = front ++ [last] ∧ Text.isBlank last = false
  start : lexemes.head?.map (·.span.start) = some (position + Text.utf8Length lead)
  stop : lexemes.getLast?.map (·.span.stop) = some (position + Text.utf8Length (lead ++ body))
  scanned : scan (position + Text.utf8Length lead) body = .ok lexemes

namespace Extent

variable {position : Nat} {c : Char} {lead body : List Char} {lexemes : List Lexeme}

theorem behind (blank : Text.isBlank c = true)
    (extent : Extent (position + 1) lead body lexemes) :
    Extent position (c :: lead) body lexemes := by
  have size := utf8Size_of_isBlank blank
  refine ⟨List.forall_mem_cons.mpr ⟨blank, extent.blank⟩, extent.last, ?_, ?_, ?_⟩
  · rw [extent.start, Text.utf8Length, size, Nat.add_assoc]
  · rw [extent.stop, List.cons_append, Text.utf8Length, size, Nat.add_assoc]
  · rw [← extent.scanned, Text.utf8Length, size, Nat.add_assoc]

theorem single {lexeme : Lexeme} {after : List Char} (ink : ¬ Text.isBlank c = true)
    (open' : c ≠ '#') (covers : Covers position c body lexeme after) :
    Extent position [] (c :: body) [lexeme] := by
  refine ⟨by simp, covers.last, by simp [covers.span, Text.utf8Length],
    by simp [covers.span], ?_⟩
  have alone := covers.alone [] List.nil_prefix
  rw [List.append_nil] at alone
  change scan position (c :: body) = _
  rw [scan_of_ink ink open', alone]
  change (scan lexeme.span.stop []).map _ = _
  rw [scan]
  rfl

theorem cons {lexeme : Lexeme} {front trail : List Char} (ink : ¬ Text.isBlank c = true)
    (open' : c ≠ '#') (covers : Covers position c front lexeme (lead ++ (body ++ trail)))
    (nonempty : lexemes ≠ []) (extent : Extent lexeme.span.stop lead body lexemes) :
    Extent position [] (c :: (front ++ (lead ++ body))) (lexeme :: lexemes) := by
  have stop : lexeme.span.stop = position + Text.utf8Length (c :: front) := by rw [covers.span]
  have kept : lead ++ body <+: lead ++ (body ++ trail) := by
    rw [← List.append_assoc]
    exact List.prefix_append _ _
  refine ⟨by simp, ?_, by simp [covers.span, Text.utf8Length], ?_, ?_⟩
  · obtain ⟨inner, last, shape, ink⟩ := extent.last
    exact ⟨c :: (front ++ (lead ++ inner)), last, by simp [shape], ink⟩
  · rw [List.getLast?_cons_of_ne_nil nonempty, extent.stop, stop]
    simp [Text.utf8Length, Nat.add_assoc]
  · change scan position (c :: _) = _
    rw [scan_of_ink ink open', covers.alone _ kept]
    change (scan lexeme.span.stop (lead ++ body)).map _ = _
    rw [scan_of_blanks _ extent.blank, extent.scanned]
    rfl

end Extent

theorem scan_extent {position : Nat} {chars : List Char} {lexemes : List Lexeme}
    (done : scan position chars = .ok lexemes) (nonempty : lexemes ≠ []) :
    ∃ lead body trail, chars = lead ++ (body ++ trail) ∧ Extent position lead body lexemes := by
  fun_induction scan position chars generalizing lexemes with
  | case1 =>
    cases done
    exact absurd rfl nonempty
  | case2 position c rest blank ih =>
    obtain ⟨lead, body, trail, rfl, extent⟩ := ih done nonempty
    exact ⟨c :: lead, body, trail, rfl, extent.behind blank⟩
  | case3 =>
    cases done
    exact absurd rfl nonempty
  | case4 => cases done
  | case5 position c rest ink open' lexeme after found ih =>
    obtain ⟨front, rfl, covers⟩ := readLexeme_covers (by simpa using ink) found
    obtain ⟨others, later, rfl⟩ := map_eq_ok_iff.mp done
    by_cases more : others = []
    next =>
      subst more
      exact ⟨[], c :: front, after, rfl, .single ink open' covers⟩
    next =>
      obtain ⟨lead, body, trail, rfl, extent⟩ := ih later more
      exact ⟨[], c :: (front ++ (lead ++ body)), trail, by simp, extent.cons ink open' covers more⟩

theorem readLine_extent {position : Nat} {line : List Char} {statement : Statement}
    (done : readLine position line = .ok (some statement)) :
    ∃ lead body trail, withoutLineEnds line = lead ++ (body ++ trail) ∧ body ≠ [] ∧
      statement.span =
        (⟨0, Text.utf8Length body⟩ : Span).shift (position + Text.utf8Length lead) ∧
      readLine 0 body = .ok (some { statement with span := ⟨0, Text.utf8Length body⟩ }) := by
  obtain ⟨lexemes, scanned, read⟩ := bind_eq_ok_iff.mp done
  have nonempty : lexemes ≠ [] := by
    rintro rfl
    cases read
  obtain ⟨lead, body, trail, shape, extent⟩ := scan_extent scanned nonempty
  obtain ⟨-, -, -, spans⟩ := statementOf?_derives read
  obtain ⟨front, last, ends, ink⟩ := extent.last
  have place : statement.span =
      (⟨0, Text.utf8Length body⟩ : Span).shift (position + Text.utf8Length lead) := by
    have start := Option.some.inj (spans.start.symm.trans extent.start)
    have stop := Option.some.inj (spans.stop.symm.trans extent.stop)
    rw [Text.utf8Length_append, ← Nat.add_assoc] at stop
    obtain ⟨_, _, ⟨_, _⟩⟩ := statement
    exact congr (congrArg Span.mk start) stop
  have whole : withoutLineEnds body = body := by
    rw [ends]
    exact List.rdropWhile_concat_neg _ _ _ (by simp_all [Text.isBlank])
  have further : readLine (position + Text.utf8Length lead) body = .ok (some statement) := by
    rw [readLine, whole, extent.scanned]
    exact read
  rw [← Nat.add_zero (position + Text.utf8Length lead), readLine_shift] at further
  refine ⟨lead, body, trail, shape, by simp [ends], place, ?_⟩
  rcases reading : readLine 0 body with fault | _ | alone <;> rw [reading] at further
  · cases further
  · cases further
  · obtain rfl : alone.shift _ = statement := by simpa using further
    rw [← Span.shift_injective _ place]
    rfl

theorem parseChars_of_readLine (file : Nat) {line : List Char} {statement : Statement}
    (unbroken : '\n' ∉ line) (nonempty : line ≠ [])
    (done : readLine 0 line = .ok (some statement)) :
    parseChars file line = .ok ⟨[statement], file⟩ := by
  have inside : ∀ c ∈ line, (c == '\n') = false :=
    fun c member => beq_eq_false_iff_ne.mpr fun same => unbroken (same ▸ member)
  rw [parseChars_of_line file (Text.cutAfter_of_inside inside nonempty), done]
  rfl

theorem source_of_lines {source line : List Char} {front back : List (List Char)}
    (cut : Text.lines source = front ++ line :: back) :
    ∃ after, source = front.flatten ++ (withoutLineEnds line ++ after) := by
  obtain ⟨ending, whole⟩ := List.rdropWhile_prefix (fun c => c == '\n' || c == '\r') line
  refine ⟨ending ++ back.flatten, ?_⟩
  calc
    source = (Text.lines source).flatten := (Text.flatten_cutAfter _ _).symm
    _ = front.flatten ++ (line ++ back.flatten) := by rw [cut, List.flatten_append]; rfl
    _ = front.flatten ++ (withoutLineEnds line ++ (ending ++ back.flatten)) := by
      rw [← List.append_assoc (withoutLineEnds line)]
      exact congrArg (fun line => front.flatten ++ (line ++ back.flatten)) whole.symm

theorem readLine_bounds {position : Nat} {line : List Char} {statement : Statement}
    (done : readLine position line = .ok (some statement)) :
    position ≤ statement.span.start ∧ statement.span.start < statement.span.stop ∧
      statement.span.stop ≤ position + Text.utf8Length line := by
  obtain ⟨lead, body, trail, shape, nonempty, place, -⟩ := readLine_extent done
  obtain ⟨ending, whole⟩ := List.rdropWhile_prefix (fun c => c == '\n' || c == '\r') line
  have length : Text.utf8Length line = Text.utf8Length lead +
      (Text.utf8Length body + Text.utf8Length trail) + Text.utf8Length ending := by
    rw [← Text.utf8Length_append, ← Text.utf8Length_append, ← shape, ← Text.utf8Length_append]
    exact congrArg _ whole.symm
  have positive := Text.utf8Length_pos nonempty
  simp only [place, Span.shift]
  omega

theorem pairwise_accepted (position : Nat) (lines : List (List Char)) :
    ((readLines position lines).filterMap acceptedOf?).Pairwise fun earlier later =>
      earlier.span.start < later.span.start ∧ earlier.span.stop ≤ later.span.start := by
  induction lines generalizing position with
  | nil => exact .nil
  | cons line rest ih =>
    cases accepted : acceptedOf? (readLine position line) with
    | none =>
      rw [readLines, List.filterMap_cons_none accepted]
      exact ih _
    | some earlier =>
      rw [readLines, List.filterMap_cons_some accepted]
      refine List.pairwise_cons.mpr ⟨fun later member => ?_, ih _⟩
      obtain ⟨reading, member, accepted'⟩ := List.mem_filterMap.mp member
      obtain ⟨front, line', back, -, rfl⟩ := exists_line_of_mem_readLines member
      have here := readLine_bounds (acceptedOf?_eq_some_iff.mp accepted)
      have there := readLine_bounds (acceptedOf?_eq_some_iff.mp accepted')
      omega

/-- The span of a statement is that of its own text. Spans are not empty, they are in the text, on
character boundaries and within a line, and they come one behind the other; and what a span holds
is parsed, without anything around it, as the same statement, which then spans it all. -/
theorem parse_spans {file : Nat} {source : String} {script : Script}
    (done : parse file source = .ok script) :
    (script.statements.Pairwise fun earlier later =>
      earlier.span.start < later.span.start ∧ earlier.span.stop ≤ later.span.start) ∧
    ∀ statement ∈ script.statements,
      statement.span.start < statement.span.stop ∧
      ∃ part, Text.slice? statement.span.start statement.span.stop source.toList = some part ∧
        '\n' ∉ part ∧
        let span : Span := ⟨0, statement.span.stop - statement.span.start⟩
        ∀ other, parse other (String.ofList part) = .ok ⟨[{ statement with span }], other⟩ := by
  constructor
  next =>
    rw [statements_of_parseChars done]
    exact pairwise_accepted 0 _
  intro statement member
  obtain ⟨front, line, back, cut, read⟩ := exists_line_of_statement done member
  obtain ⟨after, whole⟩ := source_of_lines cut
  have listed : line ∈ Text.lines source.toList := by simp [cut]
  have unbroken := newline_not_mem_withoutLineEnds listed
  obtain ⟨lead, body, trail, shape, nonempty, place, alone⟩ := readLine_extent read
  rw [shape] at whole unbroken
  have inside : '\n' ∉ body := fun newline => unbroken (by simp [newline])
  refine ⟨(readLine_bounds read).2.1, body, ?_, inside, fun other => ?_⟩
  · refine Text.slice?_eq_some_iff.mpr ⟨front.flatten ++ lead, trail ++ after, ?_, ?_, ?_⟩
    · simpa using whole
    · rw [place, Text.utf8Length_append]
      rfl
    · rw [place]
      rfl
  · have size : statement.span.stop - statement.span.start = Text.utf8Length body := by
      rw [place]
      exact Nat.add_sub_add_left _ _ _
    rw [parse, String.toList_ofList, size]
    exact parseChars_of_readLine other inside nonempty alone

theorem parse_spans_surrounded :
    let source := "# ü\n  v = read vpc n=\"é\"\t# é\r\n"
    let call : Call := ⟨"read", "vpc", .ofList [("n", .given (.text "é"))]⟩
    parse 4 source = .ok ⟨[⟨some "v", call, ⟨7, 26⟩⟩], 4⟩ ∧
    ∃ part, Text.slice? 7 26 source.toList = some part ∧ '\n' ∉ part ∧
      ∀ other, parse other (String.ofList part) = .ok ⟨[⟨some "v", call, ⟨0, 19⟩⟩], other⟩ := by
  have parsed : parse 4 "# ü\n  v = read vpc n=\"é\"\t# é\r\n" =
      .ok ⟨[⟨some "v", ⟨"read", "vpc", .ofList [("n", .given (.text "é"))]⟩, ⟨7, 26⟩⟩], 4⟩ := by
    decide +kernel
  exact ⟨parsed, ((parse_spans parsed).2 _ List.mem_cons_self).2⟩

end Runbook.Script
