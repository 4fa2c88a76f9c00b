import Runbook.Value
import Runbook.Proofs.Number.Grammar
import Runbook.Proofs.Number.Nearest

set_option autoImplicit false

namespace Runbook

namespace Numeral

def size (numeral : Numeral) : ℚ :=
  (Decimal.natOfDigits numeral.whole +
    Decimal.natOfDigits (numeral.fraction.getD []) / 10 ^ (numeral.fraction.getD []).length) *
      10 ^ numeral.exponent

theorem size_decimal (numeral : Numeral) : numeral.decimal.size = numeral.size := by
  rw [Decimal.size, decimal, size, Decimal.natOfDigits_append, zpow_sub₀ (by norm_num),
    zpow_natCast]
  push_cast
  field_simp

theorem number_eq_finite_iff {numeral : Numeral} {magnitude : Magnitude} :
    numeral.number = .finite (isNegative numeral.sign) magnitude ↔
      Magnitude.Rounds numeral.size magnitude := by
  rw [number, Decimal.toNumber_eq_finite_iff, size_decimal]

theorem exists_of_isFinite {numeral : Numeral} (finite : numeral.number.isFinite = true) :
    ∃ magnitude, numeral.number = .finite (isNegative numeral.sign) magnitude := by
  unfold number Decimal.toNumber at *
  split at finite
  next bounded => exact ⟨_, dif_pos bounded⟩
  next => cases finite

end Numeral

namespace Value

/-- A number is spelt by a canonical numeral that it is nearest to. The numeral has a point or a
power of ten, or fifteen digits at most. -/
def SpellsNumber (chars : List Char) (n : Number) : Prop :=
  ∃ (numeral : Numeral) (magnitude : Magnitude), numeral.Written chars ∧ numeral.Canonical ∧
    (numeral.fraction = none → numeral.power = none → numeral.whole.length ≤ 15) ∧
    Magnitude.Rounds numeral.size magnitude ∧
    n = .finite (numeral.sign == some '-') magnitude

theorem ofCanonical?_eq_some_iff {chars : List Char} {numeral : Numeral} {n : Number}
    (read : Numeral.ofChars? chars = some numeral) :
    Number.ofCanonical? chars = some n ↔ numeral.Canonical ∧
      ∃ magnitude, Magnitude.Rounds numeral.size magnitude ∧
        n = .finite (Numeral.isNegative numeral.sign) magnitude := by
  simp only [Number.ofCanonical?, read, Bool.and_eq_true, Option.ite_none_right_eq_some,
    Option.some.injEq, Numeral.isCanonical_iff]
  constructor
  next =>
    rintro ⟨⟨canonical, finite⟩, rfl⟩
    obtain ⟨magnitude, number⟩ := Numeral.exists_of_isFinite finite
    exact ⟨canonical, magnitude, Numeral.number_eq_finite_iff.mp number, number⟩
  next =>
    rintro ⟨canonical, magnitude, rounds, rfl⟩
    have number := Numeral.number_eq_finite_iff.mpr rounds
    exact ⟨⟨canonical, by rw [number, Number.isFinite]⟩, number⟩

theorem numberOfLiteral?_eq_some_iff {chars : List Char} {n : Number} :
    numberOfLiteral? chars = some n ↔ SpellsNumber chars n := by
  have kept (numeral : Numeral) :
      (numeral.isWhole && decide (exactDigits < numeral.whole.length)) = false ↔
        (numeral.fraction = none → numeral.power = none → numeral.whole.length ≤ 15) := by
    simp [Numeral.isWhole]
    rfl
  constructor
  next =>
    intro literal
    unfold numberOfLiteral? at literal
    split at literal
    next => cases literal
    next numeral read =>
      split at literal
      next => cases literal
      next short =>
        obtain ⟨canonical, magnitude, rounds, number⟩ := (ofCanonical?_eq_some_iff read).mp literal
        exact ⟨numeral, magnitude, Numeral.ofChars?_eq_some_iff.mp read, canonical,
          (kept numeral).mp (Bool.eq_false_of_not_eq_true short), rounds, number⟩
  next =>
    rintro ⟨numeral, magnitude, written, canonical, short, rounds, number⟩
    have read := Numeral.ofChars?_eq_some_iff.mpr written
    simp only [numberOfLiteral?, read, (kept numeral).mpr short]
    exact (ofCanonical?_eq_some_iff read).mpr ⟨canonical, magnitude, rounds, number⟩

theorem numberOfLiteral?_marked (rest : List Char) : numberOfLiteral? ('$' :: rest) = none := by
  have unread : Numeral.ofChars? ('$' :: rest) = none := by
    simp [Numeral.ofChars?, Numeral.splitSign, Numeral.splitDigits, Numeral.splitFraction,
      Text.isDigit]
  rw [numberOfLiteral?, unread]

/-- The spellings of values: a name behind its mark, a canonical numeral, and two words. Texts have
no spelling of their own. -/
def Spells (literal : String) : Value → Prop
  | .reference name => literal = "$" ++ name ∧ Text.isName name.toList = true
  | .number n => SpellsNumber literal.toList n
  | .flag on => literal = if on then "true" else "false"
  | .text _ => False

theorem ofLiteral_of_spells {literal : String} {value : Value} (spells : Spells literal value) :
    ofLiteral literal = value := by
  cases value with
  | reference name =>
    obtain ⟨rfl, named⟩ := spells
    have chars : ("$" ++ name).toList = '$' :: name.toList := String.toList_append
    rw [ofLiteral, chars, ofChars, if_pos named, String.ofList_toList]
  | number n =>
    have read := numberOfLiteral?_eq_some_iff.mpr spells
    unfold ofLiteral ofChars
    split
    next name chars =>
      rw [chars, numberOfLiteral?_marked] at read
      cases read
    next => rw [read]
  | flag on =>
    obtain rfl : literal = if on then "true" else "false" := spells
    cases on <;> decide
  | text content => exact spells.elim

theorem ofLiteral_cases (literal : String) :
    Spells literal (ofLiteral literal) ∨ ofLiteral literal = .text literal := by
  have whole : String.ofList literal.toList = literal := String.ofList_toList
  unfold ofLiteral ofChars
  split
  next name chars =>
    split
    next named =>
      refine .inl ⟨?_, by rwa [String.toList_ofList]⟩
      rw [← String.toList_inj, chars, String.toList_append, String.toList_ofList,
        String.toList_ofList, List.singleton_append]
    next => exact .inr (congrArg Value.text whole)
  next =>
    split
    next number => exact .inl (numberOfLiteral?_eq_some_iff.mp number)
    next =>
      split
      next on => exact .inl (String.toList_inj.mp on)
      next =>
        split
        next off => exact .inl (String.toList_inj.mp off)
        next => exact .inr (congrArg Value.text whole)

/-- A literal stands for the value that it spells, and for itself as a text if it spells none. -/
theorem ofLiteral_eq_iff (literal : String) (value : Value) : ofLiteral literal = value ↔
    Spells literal value ∨ (value = .text literal ∧ ∀ other, ¬ Spells literal other) := by
  constructor
  next =>
    rintro rfl
    rcases ofLiteral_cases literal with spells | text
    next => exact .inl spells
    next =>
      refine .inr ⟨text, fun other spells => ?_⟩
      -- A spelling would make the literal a text, and texts have none.
      rw [← ofLiteral_of_spells spells, text] at spells
      exact spells
  next =>
    rintro (spells | ⟨rfl, unspelt⟩)
    next => exact ofLiteral_of_spells spells
    next => exact (ofLiteral_cases literal).resolve_left (unspelt _)

end Value

end Runbook
