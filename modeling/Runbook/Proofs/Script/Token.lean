import Runbook.Script.Token
import Runbook.Proofs.Script.Quoted
import Runbook.Proofs.Text.Lines

set_option autoImplicit false

namespace Runbook.Script

theorem isWordPart_iff {c : Char} :
    isWordPart c = true ↔
      Text.isBlank c = false ∧ c ≠ '=' ∧ c ≠ '"' ∧ c ≠ '\x7b' ∧ c ≠ '\x7d' := by
  simp [isWordPart, and_assoc]

def delimiters : List Char :=
  [' ', '\t', '\n', '\x0c', '\r', '=', '"', '\x7b', '\x7d', '#']

theorem mem_delimiters_iff {c : Char} : c ∈ delimiters ↔ isWordPart c = false ∨ c = '#' := by
  simp only [delimiters, isWordPart, Text.isBlank, List.mem_cons, List.not_mem_nil, or_false,
    Bool.not_eq_false', Bool.or_eq_true, beq_iff_eq, or_assoc]

def isWord : List Char → Bool
  | [] => false
  | c :: rest => c != '#' && (c :: rest).all isWordPart

theorem isWord_cons {c : Char} {rest : List Char} :
    isWord (c :: rest) = true ↔ c ≠ '#' ∧ ∀ d ∈ c :: rest, isWordPart d = true := by
  simp [isWord]

theorem isWordPart_of_mem {word : List Char} (isWord' : isWord word = true) {c : Char}
    (member : c ∈ word) : isWordPart c = true := by
  cases word with
  | nil => cases member
  | cons first rest => exact (isWord_cons.mp isWord').2 c member

theorem isWord_of_disjoint {word : List Char} (nonempty : word ≠ [])
    (free : ∀ c ∈ word, c ∉ delimiters) : isWord word = true := by
  cases word with
  | nil => exact absurd rfl nonempty
  | cons c rest =>
    refine isWord_cons.mpr ⟨fun same => ?_, fun d member => ?_⟩
    · exact free c List.mem_cons_self (mem_delimiters_iff.mpr (.inr same))
    · refine (Bool.not_eq_false _).mp fun ends => ?_
      exact free d member (mem_delimiters_iff.mpr (.inl ends))

structure IsKey (key : List Char) : Prop where
  nonempty : key ≠ []
  trimmed : Text.trimChars key = key
  unclosed : '\x7d' ∉ key
  unbroken : '\n' ∉ key

def Token.WellFormed : Token → Prop
  | .word text => isWord text.toList = true
  | .hole key => IsKey key.toList
  | .quoted _ | .equals => True

theorem exists_of_tokens {lexemes : List Lexeme} {token : Token} {tokens : List Token}
    (same : lexemes.map (·.token) = token :: tokens) :
    ∃ span rest, lexemes = ⟨token, span⟩ :: rest ∧ rest.map (·.token) = tokens := by
  obtain ⟨first, rest, rfl, isToken, others⟩ := List.map_eq_cons_iff.mp same
  exact ⟨first.span, rest, by rw [← isToken], others⟩

def Scans (chars : List Char) (tokens : List Token) : Prop :=
  ∀ position, ∃ lexemes, scan position chars = .ok lexemes ∧ lexemes.map (·.token) = tokens

namespace Scans

theorem nil : Scans [] [] := fun _ => ⟨[], by rw [scan], rfl⟩

theorem blank {c : Char} {rest : List Char} {tokens : List Token} (isBlank : Text.isBlank c = true)
    (scans : Scans rest tokens) : Scans (c :: rest) tokens := by
  intro position
  obtain ⟨lexemes, done, same⟩ := scans (position + 1)
  exact ⟨lexemes, by rw [scan, if_pos isBlank, done], same⟩

theorem lexeme {c : Char} {rest after : List Char} {token : Token} {tokens : List Token}
    (ink : Text.isBlank c = false) (open' : c ≠ '#')
    (reads : ∀ position, ∃ span, readLexeme position c rest = .ok (⟨token, span⟩, after))
    (scans : Scans after tokens) : Scans (c :: rest) (token :: tokens) := by
  intro position
  obtain ⟨span, found⟩ := reads position
  obtain ⟨lexemes, done, same⟩ := scans span.stop
  refine ⟨⟨token, span⟩ :: lexemes, ?_, by rw [List.map_cons, same]⟩
  rw [scan, if_neg (by simp [ink]), if_neg open']
  split
  next fault failed => simp [found] at failed
  next lexeme' after' found' =>
    rw [found] at found'
    cases found'
    rw [done]
    rfl

theorem equals {after : List Char} {tokens : List Token} (scans : Scans after tokens) :
    Scans ('=' :: after) (.equals :: tokens) :=
  scans.lexeme (by decide) (by decide) fun _ => ⟨_, rfl⟩

theorem quoted (chars : List Char) {after : List Char} {tokens : List Token}
    (scans : Scans after tokens) :
    Scans (Quoted.write chars ++ after) (.quoted (String.ofList chars) :: tokens) := by
  rw [Quoted.write, List.cons_append, List.append_assoc, List.singleton_append]
  refine scans.lexeme (by decide) (by decide) fun position =>
    ⟨⟨position, position + 1 + Text.utf8Length (chars.flatMap Quoted.escape) + 1⟩, ?_⟩
  rw [readLexeme, if_neg (by decide), if_pos rfl, Quoted.read_write]
  rfl

theorem braces {inner after : List Char} {tokens : List Token} (unclosed : '\x7d' ∉ inner)
    (nonempty : Text.trimChars inner ≠ []) (scans : Scans after tokens) :
    Scans ('\x7b' :: (inner ++ '\x7d' :: after))
      (.hole (String.ofList (Text.trimChars inner)) :: tokens) := by
  refine scans.lexeme (by decide) (by decide) fun position =>
    ⟨⟨position, position + 1 + Text.utf8Length inner + 1⟩, ?_⟩
  have inside : ∀ c ∈ inner, (c != '\x7d') = true := by
    intro c member
    exact bne_iff_ne.mpr fun same => unclosed (same ▸ member)
  have named : (Text.trimChars inner).isEmpty = false := by simpa using nonempty
  rw [readLexeme, if_neg (by decide), if_neg (by decide), if_pos rfl, readHole,
    List.takeWhile_append_of_pos inside, List.dropWhile_append_of_pos inside]
  simp [named]

theorem word {word after : List Char} {tokens : List Token} (isWord' : isWord word = true)
    (stops : after.takeWhile isWordPart = []) (scans : Scans after tokens) :
    Scans (word ++ after) (.word (String.ofList word) :: tokens) := by
  cases word with
  | nil => simp [isWord] at isWord'
  | cons c rest =>
    obtain ⟨open', parts⟩ := isWord_cons.mp isWord'
    obtain ⟨first, others⟩ := List.forall_mem_cons.mp parts
    obtain ⟨ink, noEquals, noQuote, noBrace, noClose⟩ := isWordPart_iff.mp first
    have left : after.dropWhile isWordPart = after := by
      simpa [stops] using List.takeWhile_append_dropWhile (p := isWordPart) (l := after)
    rw [List.cons_append]
    refine scans.lexeme ink open' fun position =>
      ⟨⟨position, position + Text.utf8Length (c :: rest)⟩, ?_⟩
    rw [readLexeme, if_neg noEquals, if_neg noQuote, if_neg noBrace, if_neg noClose,
      List.takeWhile_append_of_pos others, List.dropWhile_append_of_pos others, stops, left,
      List.append_nil]

end Scans

theorem Quoted.read_suffix {opening position : Nat} {mode : Quoted.Mode} {chars : List Char}
    {reading : Quoted.Reading} (done : Quoted.read opening position mode chars = .ok reading) :
    reading.rest <:+ chars := by
  fun_induction Quoted.read opening position mode chars generalizing reading <;>
    grind [map_eq_ok_iff, Quoted.Reading.cons]

theorem readHole_wellFormed {position : Nat} {chars after : List Char} {lexeme : Lexeme}
    (unbroken : '\n' ∉ chars) (done : readHole position chars = .ok (lexeme, after)) :
    lexeme.token.WellFormed ∧ after <:+ chars := by
  simp only [readHole] at done
  split at done
  next => simp at done
  next closing rest remaining =>
    split at done
    next => simp at done
    next nonempty =>
      simp only [Except.ok.injEq, Prod.mk.injEq] at done
      obtain ⟨rfl, rfl⟩ := done
      have inner := List.takeWhile_sublist (l := chars) (· != '\x7d')
      refine ⟨?_, ?_⟩
      · simp only [Token.WellFormed, String.toList_ofList]
        refine ⟨by simpa using nonempty, Text.trimChars_trimChars _, ?_, ?_⟩
        · intro member
          have kept := List.all_eq_true.mp List.all_takeWhile _ (Text.mem_of_mem_trimChars member)
          simp at kept
        · exact fun member => unbroken (inner.subset (Text.mem_of_mem_trimChars member))
      · exact (List.suffix_cons _ _).trans (remaining ▸ List.dropWhile_suffix _)

theorem readLexeme_wellFormed {position : Nat} {c : Char} {rest after : List Char} {lexeme : Lexeme}
    (ink : Text.isBlank c = false) (open' : c ≠ '#') (unbroken : '\n' ∉ rest)
    (done : readLexeme position c rest = .ok (lexeme, after)) :
    lexeme.token.WellFormed ∧ after <:+ rest := by
  unfold readLexeme at done
  split at done
  next =>
    simp only [Except.ok.injEq, Prod.mk.injEq] at done
    obtain ⟨rfl, rfl⟩ := done
    exact ⟨trivial, List.suffix_refl _⟩
  next noEquals =>
    split at done
    next =>
      cases found : Quoted.read position (position + 1) .plain rest with
      | error fault => simp [found, Except.map] at done
      | ok reading =>
        simp only [found, Except.map, Except.ok.injEq, Prod.mk.injEq] at done
        obtain ⟨rfl, rfl⟩ := done
        exact ⟨trivial, Quoted.read_suffix found⟩
    next noQuote =>
      split at done
      next => exact readHole_wellFormed unbroken done
      next noBrace =>
        split at done
        next => simp at done
        next noClose =>
          simp only [Except.ok.injEq, Prod.mk.injEq] at done
          obtain ⟨rfl, rfl⟩ := done
          refine ⟨?_, List.dropWhile_suffix _⟩
          simp only [Token.WellFormed, String.toList_ofList]
          refine isWord_cons.mpr ⟨open', List.forall_mem_cons.mpr ⟨?_, ?_⟩⟩
          · exact isWordPart_iff.mpr ⟨ink, noEquals, noQuote, noBrace, noClose⟩
          · exact fun d member => List.all_eq_true.mp List.all_takeWhile d member

theorem scan_wellFormed {position : Nat} {chars : List Char} {lexemes : List Lexeme}
    (unbroken : '\n' ∉ chars) (done : scan position chars = .ok lexemes) :
    ∀ lexeme ∈ lexemes, lexeme.token.WellFormed := by
  fun_induction scan position chars generalizing lexemes with
  | case1 =>
    cases done
    simp
  | case2 position c rest blank ih =>
    exact ih (fun member => unbroken (List.mem_cons_of_mem _ member)) done
  | case3 =>
    cases done
    simp
  | case4 => cases done
  | case5 position c rest ink open' lexeme after found ih =>
    have later : '\n' ∉ rest := fun member => unbroken (List.mem_cons_of_mem _ member)
    obtain ⟨here, suffix⟩ := readLexeme_wellFormed (by simpa using ink) open' later found
    cases others : scan lexeme.span.stop after with
    | error fault => simp [others, Except.map] at done
    | ok tokens =>
      simp only [others, Except.map, Except.ok.injEq] at done
      subst done
      refine List.forall_mem_cons.mpr ⟨here, ih (fun member => later (suffix.subset member)) others⟩

end Runbook.Script
