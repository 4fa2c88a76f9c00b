import Runbook.Json.Read

set_option autoImplicit false

namespace Runbook.Json

def prepend (unit : Nat) (read : List Nat × List Char) : List Nat × List Char :=
  (unit :: read.1, read.2)

theorem units?_quote (after : List Char) : units? ('"' :: after) = some ([], after) := by
  rw [units?]

theorem units?_short {mark plain : Char} (short : shortEscape? mark = some plain)
    (after : List Char) :
    units? ('\\' :: mark :: after) = (units? after).map (prepend plain.toNat) := by
  have other : mark ≠ 'u' := by
    rintro rfl
    cases short
  rw [units?, short]
  · cases units? after <;> rfl
  · rintro _ _ _ _ _ same
    exact absurd same other

theorem units?_plain {c : Char} (visible : ¬ c.toNat < 0x20) (noQuote : c ≠ '"')
    (noBackslash : c ≠ '\\') (after : List Char) :
    units? (c :: after) = (units? after).map (prepend c.toNat) := by
  rw [units?, if_neg (by simp [visible, noBackslash])]
  · cases units? after <;> rfl
  all_goals simp [noQuote, noBackslash]

theorem hexUnit?_hexPair {code : Nat} (small : code < 0x20) :
    hexUnit? '0' '0' (code / 16 % 16).digitChar (code % 16).digitChar = some code := by
  revert code
  decide

theorem units?_escapeChar (c : Char) (after : List Char) :
    units? (escapeChar c ++ after) = (units? after).map (prepend c.toNat) := by
  unfold escapeChar
  split
  · exact units?_short rfl after
  · exact units?_short rfl after
  · exact units?_short rfl after
  · exact units?_short rfl after
  · exact units?_short rfl after
  · exact units?_short rfl after
  · exact units?_short rfl after
  next noQuote noBackslash _ _ _ _ _ =>
    split
    next hidden =>
      simp only [hexPair, List.cons_append, List.nil_append]
      rw [units?, hexUnit?_hexPair hidden]
      cases units? after <;> rfl
    next visible => exact units?_plain visible noQuote noBackslash after

theorem units?_escaped (chars after : List Char) :
    units? (chars.flatMap escapeChar ++ '"' :: after) = some (chars.map Char.toNat, after) := by
  induction chars with
  | nil => exact units?_quote after
  | cons c rest ih =>
    rw [List.flatMap_cons, List.append_assoc, units?_escapeChar, ih]
    rfl

theorem not_surrogate (c : Char) : isLeading c.toNat = false ∧ isTrailing c.toNat = false := by
  have valid : c.toNat < 0xD800 ∨ 0xDFFF < c.toNat ∧ c.toNat < 0x110000 := c.valid
  simp only [isLeading, isTrailing, Bool.and_eq_false_iff, decide_eq_false_iff_not]
  omega

theorem charsOfUnits?_toNat (chars : List Char) :
    charsOfUnits? (chars.map Char.toNat) = some chars := by
  induction chars with
  | nil => rfl
  | cons c rest ih =>
    obtain ⟨leading, trailing⟩ := not_surrogate c
    cases rest with
    | nil => simp [charsOfUnits?, leading, trailing, Char.ofNat_toNat]
    | cons d others =>
      rw [List.map_cons] at ih
      simp [charsOfUnits?, leading, trailing, ih, Char.ofNat_toNat]

theorem token?_quote (numeral? : List Char → Option Number) (content : String)
    (after : List Char) :
    token? numeral? '"' (content.toList.flatMap escapeChar ++ '"' :: after) =
      some (.value (.text content), after) := by
  simp [token?, units?_escaped, charsOfUnits?_toNat]

end Runbook.Json
