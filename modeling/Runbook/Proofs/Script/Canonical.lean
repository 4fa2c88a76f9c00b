import Runbook.Proofs.Number.Reread
import Runbook.Proofs.Script.RoundTrip

set_option autoImplicit false

namespace Runbook

namespace Layout

theorem isReported_visible {c : Char} (reported : isReported c = true) :
    32 < c.toNat ∧ c.toNat < 127 := by
  rcases Bool.or_eq_true_iff.mp reported with digit | sign
  next =>
    simp only [Char.isDigit, Bool.and_eq_true, decide_eq_true_eq] at digit
    have range : 48 ≤ c.toNat ∧ c.toNat ≤ 57 := digit
    omega
  next =>
    have visible : "-.infNa".toList.all (fun c => decide (32 < c.toNat ∧ c.toNat < 127)) = true := by
      decide
    simpa using List.all_eq_true.mp visible c (List.contains_iff_mem.mp sign)

theorem needsQuotes_reported {chars : List Char} (nonempty : chars ≠ [])
    (reported : chars.all isReported = true) (isText : (Value.ofChars chars).isText = true) :
    Argument.needsQuotes chars = false := by
  have free : ("\"\x7b\x7d=#$".toList.all fun c => !isReported c) = true := by decide
  have absent : ∀ c ∈ chars, c ∉ "\"\x7b\x7d=#$".toList := by
    intro c member special
    simpa [List.all_eq_true.mp reported c member] using List.all_eq_true.mp free c special
  have visible : ∀ c ∈ chars, Text.isSpace c = false ∧ Text.isControl c = false := by
    intro c member
    have range := isReported_visible (List.all_eq_true.mp reported c member)
    simp [Text.isSpace, Text.isControl, Text.within, Text.spaceRanges]
    omega
  have plain : ∀ c ∈ chars, (Text.isSpace c || Text.isControl c || c == '"' || c == '\x7b' ||
      c == '\x7d' || c == '=' || c == '#') = false := by
    intro c member
    have other : c ≠ '"' ∧ c ≠ '\x7b' ∧ c ≠ '\x7d' ∧ c ≠ '=' ∧ c ≠ '#' ∧ c ≠ '$' := by
      simpa using absent c member
    simp [visible c member, other]
  have unnamed : (chars.head? == some '$') = false := by
    refine beq_eq_false_iff_ne.mpr fun led => ?_
    exact absent '$' (List.mem_of_mem_head? led) (by decide)
  have inked : chars.isEmpty = false := List.isEmpty_eq_false_iff.mpr nonempty
  rw [Argument.needsQuotes, inked, unnamed, isText, List.any_eq_false.mpr fun c member => ?_]
  next => rfl
  next => simp only [plain c member, Bool.false_eq_true, not_false_eq_true]

end Layout

theorem Number.needsQuotes_toText {n : Number}
    (isText : Value.ofLiteral n.toText = .text n.toText) :
    Argument.needsQuotes n.toText.toList = false := by
  have chars : n.toText.toList = reportLayout.writeChars n := by
    rw [toText, Layout.write, String.toList_ofList]
  obtain ⟨nonempty, reported⟩ := Layout.reported_chars n
  rw [← chars] at nonempty reported
  rw [Value.ofLiteral] at isText
  exact Layout.needsQuotes_reported nonempty reported (by rw [isText]; rfl)

namespace Argument

theorem toChars_reread (argument : Argument) : argument.reread.toChars = argument.toChars := by
  cases argument with
  | hole key => rfl
  | given value =>
    cases value with
    | text content => rfl
    | flag on => rfl
    | reference name => rfl
    | number n =>
      rcases n.reread with text | ⟨again, number, same⟩
      next =>
        have bare := Number.needsQuotes_toText text
        simp only [reread, text, toChars, bare]
        rfl
      next => simp only [reread, number, toChars, Value.toText, same]

end Argument

namespace Statement

theorem RereadAs.toChars_eq {first second : Statement} (reread : first.RereadAs second) :
    second.toChars = first.toChars := by
  have call : second.call.toChars = first.call.toChars := by
    simp only [Call.toChars, reread.action, reread.kind, reread.arguments, Dict.map,
      List.flatMap_map, Argument.toChars_reread]
  simp only [toChars, reread.name, call]

end Statement

namespace Script

theorem toChars_of_reread {first second : List Statement}
    (reread : List.Forall₂ Statement.RereadAs first second) (file again : Nat) :
    toChars ⟨second, again⟩ = toChars ⟨first, file⟩ := by
  induction reread with
  | nil => rfl
  | cons here later ih =>
    simp only [toChars, List.flatMap_cons, here.toChars_eq] at ih ⊢
    rw [ih]

/-- The text of a script that was read is accepted, and read again it has the same text. -/
theorem toText_canonical {file again : Nat} {source : String} {script : Script}
    (parsed : parse file source = .ok script) :
    ∃ reread, parse again script.toText = .ok reread ∧ reread.toText = script.toText := by
  obtain ⟨reread, read, statements⟩ := parse_toText (parse_writable parsed) again
  exact ⟨reread, read, congrArg String.ofList (toChars_of_reread statements _ _)⟩

def numbered : Script where
  statements := [⟨none, ⟨"create", "vpc", .ofList [
    ("high", .given (.ofLiteral "1e300")), ("low", .given (.ofLiteral "-0")),
    ("size", .given (.ofLiteral "1e15"))]⟩, ⟨0, 38⟩⟩]
  file := 0

theorem toText_canonical_numbered :
    parse 0 "CREATE vpc Size=1e15 low=-0 high 1e300" = .ok numbered ∧
      ∃ reread, parse 0 numbered.toText = .ok reread ∧ reread.toText = numbered.toText := by
  have parsed : parse 0 "CREATE vpc Size=1e15 low=-0 high 1e300" = .ok numbered := by
    decide +kernel
  exact ⟨parsed, toText_canonical parsed⟩

end Script

end Runbook
