import Runbook.Proofs.Script.Grammar
import Runbook.Proofs.Script.Statement
import Runbook.Proofs.Text.Casing

set_option autoImplicit false

namespace Runbook.Script

theorem IsKeyword.lowercase {text : String} (isWord' : isWord text.toList = true) :
    IsKeyword (Text.lowercase text) := by
  refine ⟨?_, Text.lowercase_lowercase text⟩
  rw [Text.lowercase, String.toList_ofList]
  -- Lowercasing leads to no delimiter, so one in the result would have been in the word.
  have kept : delimiters.all Text.unreached.contains = true := by decide
  cases chars : text.toList with
  | nil => simp [chars, isWord] at isWord'
  | cons c rest =>
    rw [chars] at isWord'
    obtain ⟨open', parts⟩ := isWord_cons.mp isWord'
    obtain ⟨first, others, same, lowered⟩ := Text.lowerAfter_cons [] c rest
    have head : Text.lowerChars (c :: rest) = first :: (others ++ Text.lowerAfter [c] rest) := same
    rw [head]
    refine isWord_cons.mpr ⟨?_, fun d member => ?_⟩
    · rintro rfl
      exact open' ((lowered '#' List.mem_cons_self).2 (by decide)).symm
    · rw [← head] at member
      refine (Bool.not_eq_false _).mp fun ends => ?_
      have delimiter := List.all_eq_true.mp kept d (mem_delimiters_iff.mpr (.inl ends))
      have before := (Text.mem_lowerAfter member).2 (List.contains_iff_mem.mp delimiter)
      simp [parts d before] at ends

theorem Operand.writable {operand : Operand} (wellFormed : operand.token.WellFormed) :
    operand.argument.Writable := by
  cases operand with
  | word text =>
    simp only [argument, Value.ofLiteral, Value.ofChars]
    split
    next name =>
      split
      next isName => simpa [Argument.Writable] using isName
      next => trivial
    next =>
      split
      next => trivial
      next =>
        split
        next => trivial
        next => split <;> trivial
  | quoted text => trivial
  | hole key => exact wellFormed

theorem Setting.writable {setting : Setting}
    (wellFormed : ∀ token ∈ setting.tokens, token.WellFormed) :
    IsKeyword setting.parameter ∧ setting.operand.argument.Writable := by
  obtain ⟨name, joined, operand⟩ := setting
  have word : Token.word name ∈ tokens ⟨name, joined, operand⟩ := by
    cases joined <;> simp [tokens]
  have value : operand.token ∈ tokens ⟨name, joined, operand⟩ := by
    cases joined <;> simp [tokens]
  exact ⟨.lowercase (wellFormed _ word), Operand.writable (wellFormed _ value)⟩

theorem Sentence.writable {sentence : Sentence}
    (wellFormed : ∀ token ∈ sentence.callTokens, token.WellFormed)
    (distinct : (sentence.settings.map Setting.parameter).Nodup) : sentence.call.Writable := by
  simp only [callTokens, List.forall_mem_cons] at wellFormed
  obtain ⟨action, kind, settings⟩ := wellFormed
  refine ⟨.lowercase action, .lowercase kind, ?_⟩
  rintro ⟨parameter, argument⟩ member
  rw [← Setting.map_fst_entry] at distinct
  have given := (Dict.get?_ofList_iff distinct).mp (Dict.mem_entries_iff.mp member)
  obtain ⟨setting, among, entry⟩ := List.mem_map.mp given
  rw [← entry]
  exact Setting.writable fun token inside =>
    settings token (List.mem_flatMap.mpr ⟨setting, among, inside⟩)

theorem statementOf?_writable {lexemes : List Lexeme} {statement : Statement}
    (wellFormed : ∀ lexeme ∈ lexemes, lexeme.token.WellFormed)
    (done : statementOf? lexemes = .ok (some statement)) : statement.Writable := by
  obtain ⟨sentence, derives, denotes, -⟩ := statementOf?_derives done
  obtain ⟨name, call⟩ := (Sentence.denotes_iff derives.distinct).mp denotes
  have tokens : ∀ token ∈ sentence.tokens, token.WellFormed := by
    rw [← derives.form]
    intro token member
    obtain ⟨lexeme, among, rfl⟩ := List.mem_map.mp member
    exact wellFormed lexeme among
  refine ⟨fun other named => derives.name other (name.symm.trans named), ?_⟩
  rw [call]
  refine Sentence.writable (fun token member => tokens token ?_) derives.distinct
  unfold Sentence.tokens
  split
  next => exact member
  next => exact List.mem_cons_of_mem _ (List.mem_cons_of_mem _ member)

theorem parse_writable {file : Nat} {source : String} {script : Script}
    (done : parse file source = .ok script) :
    ∀ statement ∈ script.statements, statement.Writable := by
  intro statement member
  obtain ⟨front, line, back, cut, accepted⟩ := exists_line_of_statement done member
  obtain ⟨lexemes, scanned, read⟩ := bind_eq_ok_iff.mp accepted
  have isLine : line ∈ Text.lines source.toList := by simp [cut]
  exact statementOf?_writable
    (scan_wellFormed (newline_not_mem_withoutLineEnds isLine) scanned) read

end Runbook.Script
