import Runbook.Proofs.Script.Extent

set_option autoImplicit false

namespace Runbook.Script

def Remains (base : Nat) (line : List Char) (place : Nat) (rest : List Char) : Prop :=
  ∃ before, line = before ++ rest ∧ place = base + Text.utf8Length before

def IsBoundary (base : Nat) (line : List Char) (place : Nat) : Prop :=
  ∃ rest, Remains base line place rest

structure Within (base : Nat) (line : List Char) (span : Span) : Prop where
  start : IsBoundary base line span.start
  stop : IsBoundary base line span.stop
  ordered : span.start ≤ span.stop

section

variable {base place : Nat} {line rest : List Char}

theorem Remains.whole : Remains base line base line := ⟨[], rfl, rfl⟩

theorem Remains.isBoundary (remains : Remains base line place rest) : IsBoundary base line place :=
  ⟨rest, remains⟩

theorem Remains.drop (part : List Char) (remains : Remains base line place (part ++ rest)) :
    Remains base line (place + Text.utf8Length part) rest := by
  obtain ⟨before, rfl, rfl⟩ := remains
  exact ⟨before ++ part, by simp, by rw [Text.utf8Length_append, Nat.add_assoc]⟩

theorem Remains.tail {c : Char} (remains : Remains base line place (c :: rest)) :
    Remains base line (place + c.utf8Size) rest :=
  Remains.drop [c] remains

theorem Remains.within (part : List Char) (remains : Remains base line place (part ++ rest)) :
    Within base line ⟨place, place + Text.utf8Length part⟩ :=
  ⟨remains.isBoundary, (remains.drop part).isBoundary, Nat.le_add_right _ _⟩

end

namespace Quoted

def Mode.Anchored (base : Nat) (line : List Char) (position : Nat) : Mode → Prop
  | .plain => True
  | .escaped start => IsBoundary base line start ∧ position = start + 1
  | .unbraced start | .braced start _ =>
    IsBoundary base line start ∧ IsBoundary base line (start + 2)

theorem badCode_within {base start : Nat} {line : List Char} (first : IsBoundary base line start)
    (last : IsBoundary base line (start + 2)) : Within base line (badCode start).span :=
  ⟨first, last, Nat.le_add_right _ _⟩

theorem read_within {base opening position : Nat} {line chars : List Char} {mode : Mode}
    {fault : Fault} (opened : IsBoundary base line opening) (ordered : opening ≤ position)
    (anchored : mode.Anchored base line position) (remains : Remains base line position chars)
    (failed : read opening position mode chars = .error fault) : Within base line fault.span := by
  fun_induction read opening position mode chars with
  | case1 | case2 =>
    cases failed
    exact ⟨opened, remains.isBoundary, ordered⟩
  | case3 | case4 | case12 | case14 =>
    cases failed
    exact badCode_within anchored.1 anchored.2
  | case5 => cases failed
  | case6 position rest unquoted ih =>
    exact ih (Nat.le_succ_of_le ordered) ⟨remains.isBoundary, rfl⟩ remains.tail failed
  | case7 position c rest unquoted bare ih =>
    exact ih (Nat.le_add_right_of_le ordered) trivial remains.tail (map_eq_error_iff.mp failed)
  | case8 position start rest ih =>
    obtain ⟨first, rfl⟩ := anchored
    exact ih (Nat.le_succ_of_le ordered) ⟨first, remains.tail.isBoundary⟩ remains.tail failed
  | case9 position start c rest unmarked plain found ih =>
    exact ih (Nat.le_add_right_of_le ordered) trivial remains.tail (map_eq_error_iff.mp failed)
  | case10 position start c rest unmarked unknown =>
    cases failed
    obtain ⟨first, rfl⟩ := anchored
    exact ⟨first, remains.tail.isBoundary, Nat.le_add_right_of_le (Nat.le_succ start)⟩
  | case11 position start rest ih =>
    exact ih (Nat.le_succ_of_le ordered) anchored remains.tail failed
  | case13 position start code rest plain decoded ih =>
    exact ih (Nat.le_succ_of_le ordered) trivial remains.tail (map_eq_error_iff.mp failed)
  | case15 position start code c rest inside ih =>
    exact ih (Nat.le_add_right_of_le ordered) anchored remains.tail failed

end Quoted

theorem readHole_within {base position : Nat} {line rest : List Char} {fault : Fault}
    (remains : Remains base line position ('\x7b' :: rest))
    (failed : readHole position rest = .error fault) : Within base line fault.span := by
  by_cases closed : '\x7d' ∈ rest
  next =>
    obtain ⟨inner, after, rfl, unclosed⟩ := List.eq_append_cons_of_mem closed
    rw [readHole_closed unclosed] at failed
    split at failed
    next =>
      cases failed
      rw [List.append_cons] at remains
      have within := Remains.within ('\x7b' :: (inner ++ ['\x7d'])) remains
      rw [Text.utf8Length_enclosed, ← Nat.add_assoc, ← Nat.add_assoc] at within
      exact within
    next => cases failed
  next =>
    rw [readHole_open closed] at failed
    cases failed
    rw [← List.append_nil ('\x7b' :: rest)] at remains
    have within := remains.within ('\x7b' :: rest)
    rw [Text.utf8Length, ← Nat.add_assoc] at within
    exact within

theorem readLexeme_within {base position : Nat} {line rest : List Char} {c : Char} {fault : Fault}
    (remains : Remains base line position (c :: rest))
    (failed : readLexeme position c rest = .error fault) : Within base line fault.span := by
  unfold readLexeme at failed
  split at failed
  next => cases failed
  next =>
    split at failed
    next quote =>
      subst quote
      have anchored : Quoted.Mode.plain.Anchored base line (position + 1) := trivial
      exact Quoted.read_within remains.isBoundary (Nat.le_succ position) anchored remains.tail
        (map_eq_error_iff.mp failed)
    next =>
      split at failed
      next brace =>
        subst brace
        exact readHole_within remains failed
      next =>
        split at failed
        next closing =>
          subst closing
          cases failed
          exact Remains.within ['\x7d'] remains
        next => cases failed

theorem scan_within {base position : Nat} {line chars : List Char} {fault : Fault}
    (remains : Remains base line position chars) (failed : scan position chars = .error fault) :
    Within base line fault.span := by
  fun_induction scan position chars with
  | case1 => cases failed
  | case2 position c rest blank ih =>
    have size := utf8Size_of_isBlank blank
    exact ih (size ▸ remains.tail) failed
  | case3 => cases failed
  | case4 position c rest ink open' other found =>
    cases failed
    exact readLexeme_within remains found
  | case5 position c rest ink open' lexeme after found ih =>
    obtain ⟨body, rfl, covers⟩ := readLexeme_covers (by simpa using ink) found
    refine ih ?_ (map_eq_error_iff.mp failed)
    rw [covers.span]
    exact remains.drop (c :: body)

structure Placed (base : Nat) (line : List Char) (lexemes : List Lexeme) : Prop where
  within : ∀ lexeme ∈ lexemes, Within base line lexeme.span
  ordered : lexemes.Pairwise fun earlier later => earlier.span.start ≤ later.span.start

theorem Placed.sublist {base : Nat} {line : List Char} {lexemes part : List Lexeme}
    (placed : Placed base line lexemes) (sublist : part.Sublist lexemes) : Placed base line part :=
  ⟨fun lexeme member => placed.within lexeme (sublist.subset member),
    placed.ordered.sublist sublist⟩

theorem Placed.tail {base : Nat} {line : List Char} {lexeme : Lexeme} {lexemes : List Lexeme}
    (placed : Placed base line (lexeme :: lexemes)) : Placed base line lexemes :=
  placed.sublist (List.sublist_cons_self lexeme lexemes)

theorem scan_placed {base position : Nat} {line chars : List Char} {lexemes : List Lexeme}
    (remains : Remains base line position chars) (done : scan position chars = .ok lexemes) :
    Placed base line lexemes ∧ ∀ lexeme ∈ lexemes, position ≤ lexeme.span.start := by
  fun_induction scan position chars generalizing lexemes with
  | case1 =>
    cases done
    exact ⟨⟨by simp, .nil⟩, by simp⟩
  | case2 position c rest blank ih =>
    have size := utf8Size_of_isBlank blank
    obtain ⟨placed, behind⟩ := ih (size ▸ remains.tail) done
    exact ⟨placed, fun lexeme member => Nat.le_of_succ_le (behind lexeme member)⟩
  | case3 =>
    cases done
    exact ⟨⟨by simp, .nil⟩, by simp⟩
  | case4 => cases done
  | case5 position c rest ink open' lexeme after found ih =>
    obtain ⟨body, rfl, covers⟩ := readLexeme_covers (by simpa using ink) found
    obtain ⟨others, later, rfl⟩ := map_eq_ok_iff.mp done
    have within := remains.within (c :: body)
    have further := remains.drop (c :: body)
    rw [← covers.span] at within
    have start : lexeme.span.start = position := by rw [covers.span]
    have stop : lexeme.span.stop = position + Text.utf8Length (c :: body) := by rw [covers.span]
    obtain ⟨placed, behind⟩ := ih (stop ▸ further) later
    have ordered : ∀ other ∈ others, position ≤ other.span.start :=
      fun other member => start ▸ Nat.le_trans within.ordered (behind other member)
    refine ⟨⟨List.forall_mem_cons.mpr ⟨within, placed.within⟩, ?_⟩, ?_⟩
    · exact List.pairwise_cons.mpr ⟨start.symm ▸ ordered, placed.ordered⟩
    · exact List.forall_mem_cons.mpr ⟨Nat.le_of_eq start.symm, ordered⟩

section Lexemes

variable {base stop : Nat} {line : List Char} {lexemes : List Lexeme} {fault : Fault}

theorem readWord_within {role : Role} (placed : Placed base line lexemes)
    (ended : IsBoundary base line stop) (failed : readWord role stop lexemes = .error fault) :
    Within base line fault.span := by
  unfold readWord at failed
  split at failed
  next => cases failed
  next lexeme rest _ =>
    cases failed
    exact placed.within lexeme List.mem_cons_self
  next =>
    cases failed
    exact ⟨ended, ended, Nat.le_refl stop⟩

theorem addArgument_within {arguments : Dict String Argument} {parameter : String}
    {name value : Lexeme} (placed : Placed base line [name, value])
    (failed : addArgument arguments parameter name value = .error fault) :
    Within base line fault.span := by
  have first := placed.within name (by simp)
  have second := placed.within value (by simp)
  unfold addArgument argumentOf at failed
  cases token : value.token <;> simp only [token] at failed
  case equals =>
    cases failed
    exact second
  all_goals
    split at failed
    next =>
      cases failed
      have ordered := List.pairwise_pair.mp placed.ordered
      exact ⟨first.start, second.stop, Nat.le_trans ordered second.ordered⟩
    next => cases failed

theorem readArguments_within {arguments : Dict String Argument} (placed : Placed base line lexemes)
    (failed : readArguments arguments lexemes = .error fault) : Within base line fault.span := by
  fun_induction readArguments arguments lexemes with
  | case1 => cases failed
  | case2 arguments name text isWord parameter =>
    cases failed
    exact placed.within name List.mem_cons_self
  | case3 arguments name text isWord parameter span =>
    cases failed
    exact placed.within name List.mem_cons_self
  | case4 arguments name text isWord parameter span value others other added =>
    cases failed
    have pair : [name, value].Sublist (name :: ⟨.equals, span⟩ :: value :: others) :=
      .cons_cons _ (.cons _ (.cons_cons _ (List.nil_sublist others)))
    exact addArgument_within (placed.sublist pair) added
  | case5 arguments name text isWord parameter span value others more added ih =>
    exact ih placed.tail.tail.tail failed
  | case6 arguments name text isWord parameter value others alone followed other added =>
    cases failed
    have pair : [name, value].Sublist (name :: value :: others) := List.sublist_append_left _ others
    exact addArgument_within (placed.sublist pair) added
  | case7 arguments name text isWord parameter value others alone followed more added ih =>
    exact ih placed.tail.tail failed
  | case8 arguments name rest wordless =>
    cases failed
    exact placed.within name List.mem_cons_self

theorem readCall_within (placed : Placed base line lexemes) (ended : IsBoundary base line stop)
    (failed : readCall stop lexemes = .error fault) : Within base line fault.span := by
  rcases bind_eq_error_iff.mp failed with atAction | ⟨⟨action, afterAction⟩, first, behindAction⟩
  · exact readWord_within placed ended atAction
  obtain ⟨_, rfl⟩ := readWord_ok_iff.mp first
  rcases bind_eq_error_iff.mp behindAction with atKind | ⟨⟨kind, afterKind⟩, second, behindKind⟩
  · exact readWord_within placed.tail ended atKind
  obtain ⟨_, rfl⟩ := readWord_ok_iff.mp second
  rcases bind_eq_error_iff.mp behindKind with atArguments | ⟨arguments, -, done⟩
  · exact readArguments_within placed.tail.tail atArguments
  · cases done

theorem readName_within {lexeme : Lexeme} (within : Within base line lexeme.span)
    (failed : readName lexeme = .error fault) : Within base line fault.span := by
  unfold readName at failed
  split at failed
  next =>
    split at failed
    next => cases failed
    next =>
      cases failed
      exact within
  next =>
    cases failed
    exact within

theorem statementOf?_within (placed : Placed base line lexemes)
    (failed : statementOf? lexemes = .error fault) : Within base line fault.span := by
  cases lexemes with
  | nil => cases failed
  | cons first rest =>
    have ended : IsBoundary base line (spanOf first rest).stop :=
      (placed.within _ (List.getLast_mem (List.cons_ne_nil first rest))).stop
    simp only [statementOf?] at failed
    split at failed
    next span body =>
      rcases bind_eq_error_iff.mp failed with failed | ⟨name, -, failed⟩
      · exact readName_within (placed.within first List.mem_cons_self) failed
      rcases bind_eq_error_iff.mp failed with failed | ⟨call, -, failed⟩
      · exact readCall_within placed.tail.tail ended failed
      · cases failed
    next =>
      rcases bind_eq_error_iff.mp failed with failed | ⟨call, -, failed⟩
      · exact readCall_within placed ended failed
      · cases failed

end Lexemes

theorem readLine_within {position : Nat} {line : List Char} {fault : Fault}
    (failed : readLine position line = .error fault) :
    Within position (withoutLineEnds line) fault.span := by
  rcases bind_eq_error_iff.mp failed with failed | ⟨lexemes, scanned, failed⟩
  · exact scan_within .whole failed
  · exact statementOf?_within (scan_placed .whole scanned).1 failed

theorem Within.bounds {base : Nat} {line : List Char} {span : Span}
    (within : Within base line span) :
    base ≤ span.start ∧ span.start ≤ span.stop ∧ span.stop ≤ base + Text.utf8Length line := by
  obtain ⟨_, _, -, start⟩ := within.start
  obtain ⟨rest, before, rfl, stop⟩ := within.stop
  refine ⟨start ▸ Nat.le_add_right _ _, within.ordered, ?_⟩
  rw [stop, Text.utf8Length_append]
  omega

theorem Within.shown {before line after : List Char} {span : Span}
    (within : Within (Text.utf8Length before) line span) :
    ∃ part, Text.slice? span.start span.stop (before ++ (line ++ after)) = some part := by
  obtain ⟨rest, first, shape, start⟩ := within.start
  obtain ⟨rest', second, shape', stop⟩ := within.stop
  have ordered := within.ordered
  rw [start, stop, ← Text.utf8Length_append, ← Text.utf8Length_append] at ordered
  rw [start, stop, ← Text.utf8Length_append, ← Text.utf8Length_append]
  refine Text.exists_slice? ⟨rest ++ after, ?_⟩ ⟨rest' ++ after, ?_⟩ ordered
  · simp [shape]
  · simp [shape']

end Runbook.Script
