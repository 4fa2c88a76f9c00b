import Runbook.Proofs.Number.Whole

set_option autoImplicit false

namespace Runbook

open Decimal Layout

namespace Value

section Digits

variable {digits : List Char} (nonempty : digits ≠ []) (all : ∀ c ∈ digits, c.isDigit = true)
  (negative : Bool)

include all

theorem isReported_of_digits : (signed negative digits).all isReported = true := by
  have digits' : digits.all isReported = true :=
    List.all_eq_true.mpr fun c member => by rw [isReported, all c member, Bool.true_or]
  cases negative with
  | true => rw [signed, if_pos rfl, List.all_cons, digits']; decide
  | false => exact digits'

theorem natOfDigits_short (short : digits.length ≤ 15) : natOfDigits digits < 2 ^ 53 :=
  calc natOfDigits digits
    _ < 10 ^ digits.length := natOfDigits_lt all
    _ ≤ 10 ^ 15 := Nat.pow_le_pow_right (by decide) short
    _ ≤ 2 ^ 53 := by decide

include nonempty

theorem numberOfLiteral?_digits : numberOfLiteral? (signed negative digits) =
    if Numeral.unpadded digits = true ∧ digits.length ≤ 15 then
      some (toNumber negative ⟨natOfDigits digits, 0⟩)
    else none := by
  have read : Numeral.ofChars? (signed negative digits) =
      some (Numeral.fixed negative digits none) := by
    have fixed := @Numeral.ofChars?_fixed digits none nonempty all (by simp) negative
    rwa [Numeral.pointed, List.append_nil] at fixed
  have canonical : (Numeral.fixed negative digits none).isCanonical = Numeral.unpadded digits := by
    cases negative <;> simp [Numeral.isCanonical, Numeral.fixed]
  have number : (Numeral.fixed negative digits none).number =
      toNumber negative ⟨natOfDigits digits, 0⟩ := by
    have sign : Numeral.isNegative (Numeral.fixed negative digits none).sign = negative := by
      cases negative <;> rfl
    rw [Numeral.number, sign, Numeral.decimal]
    simp [Numeral.fixed, Numeral.exponent]
  have long : ((Numeral.fixed negative digits none).isWhole &&
      decide (exactDigits < (Numeral.fixed negative digits none).whole.length)) =
        decide (15 < digits.length) := rfl
  simp only [numberOfLiteral?, Number.ofCanonical?, read, long, canonical, number]
  by_cases short : digits.length ≤ 15
  next =>
    have finite : (toNumber negative ⟨natOfDigits digits, 0⟩).isFinite = true := by
      rw [toNumber_whole ((natOfDigits_short all short).le.trans (by decide)), Number.isFinite]
    simp [short, finite, not_lt.mpr short]
  next => simp [short, not_le.mp short]

theorem ofChars_digits : ofChars (signed negative digits) =
    if Numeral.unpadded digits = true ∧ digits.length ≤ 15 then
      .number (toNumber negative ⟨natOfDigits digits, 0⟩)
    else .text (String.ofList (signed negative digits)) := by
  rw [ofChars_reported (isReported_of_digits all negative),
    numberOfLiteral?_digits nonempty all negative]
  by_cases kept : Numeral.unpadded digits = true ∧ digits.length ≤ 15
  next => rw [if_pos kept, if_pos kept]
  next => rw [if_neg kept, if_neg kept]

end Digits

theorem toDigits_of_unpadded {digits : List Char} (all : ∀ c ∈ digits, c.isDigit = true)
    (unpadded : Numeral.unpadded digits = true) :
    Nat.toDigits 10 (natOfDigits digits) = digits := by
  rcases Numeral.unpadded_iff.mp unpadded with rfl | ⟨first, rest, rfl, nonzero⟩
  next => rfl
  next => exact toDigits_natOfDigits nonzero all

theorem toList_toString (n : Int) :
    (toString n).toList = Layout.signed (decide (n < 0)) (Nat.toDigits 10 n.natAbs) := by
  cases n with
  | ofNat number =>
    have natural : toString (Int.ofNat number) = Nat.repr number := rfl
    have sign : decide (Int.ofNat number < 0) = false := by simp
    rw [natural, Nat.repr_eq_ofList_toDigits, String.toList_ofList, sign]
    rfl
  | negSucc number =>
    have negated : toString (Int.negSucc number) = "-" ++ Nat.repr (number + 1) := rfl
    have sign : decide (Int.negSucc number < 0) = true := by simp
    rw [negated, Nat.repr_eq_ofList_toDigits, String.toList_append, String.toList_ofList,
      String.toList_ofList, sign]
    rfl

theorem unpadded_toDigits (number : Nat) : Numeral.unpadded (Nat.toDigits 10 number) = true := by
  by_cases zero : number = 0
  next =>
    subst zero
    rfl
  next =>
    obtain ⟨count, parts⟩ := Layout.significant_append_zeros (Nat.toDigits 10 number)
    have significant := Layout.significant_toDigits zero
    cases led : Layout.significant (Nat.toDigits 10 number) with
    | nil => exact absurd led significant.nonempty
    | cons first rest =>
      rw [led, List.cons_append] at parts
      have nonzero : first ≠ '0' := fun same => significant.first rest (same ▸ led)
      exact Numeral.unpadded_iff.mpr (.inr ⟨first, _, parts, nonzero⟩)

theorem ofLiteral_toString (n : Int) : ofLiteral (toString n) =
    if n.natAbs < 10 ^ 15 then .number (Number.ofInt n) else .text (toString n) := by
  have short : (Nat.toDigits 10 n.natAbs).length ≤ 15 ↔ n.natAbs < 10 ^ 15 :=
    Decimal.digitCount_le_iff (by decide)
  have digits : ∀ c ∈ Nat.toDigits 10 n.natAbs, c.isDigit = true :=
    fun _ => Nat.isDigit_of_mem_toDigits (by decide) (by decide)
  have whole : String.ofList (Layout.signed (decide (n < 0)) (Nat.toDigits 10 n.natAbs)) =
      toString n := by rw [← toList_toString, String.ofList_toList]
  rw [ofLiteral, toList_toString, ofChars_digits Nat.toDigits_ne_nil digits, whole,
    Decimal.natOfDigits_toDigits]
  simp only [unpadded_toDigits, short, true_and, Number.ofInt]

/-- A run of digits, signed or not, is written as it was read. Only the sign of zero is lost. -/
theorem toText_ofLiteral_digits {literal : String} {negative : Bool} {digits : List Char}
    (spelling : literal.toList = signed negative digits) (nonempty : digits ≠ [])
    (all : ∀ c ∈ digits, c.isDigit = true) (zero : literal ≠ "-0") :
    (ofLiteral literal).toText = literal := by
  have whole : String.ofList (signed negative digits) = literal := by
    rw [← spelling, String.ofList_toList]
  rw [ofLiteral, spelling, ofChars_digits nonempty all negative]
  split
  next kept =>
    obtain ⟨unpadded, short⟩ := kept
    have digits' := toDigits_of_unpadded all unpadded
    have sign : (negative && natOfDigits digits != 0) = negative := by
      cases negative with
      | false => rfl
      | true =>
        rw [Bool.true_and, bne_iff_ne]
        intro none
        rw [none, Nat.toDigits_zero] at digits'
        rw [← digits'] at whole
        exact zero whole.symm
    rw [toText, toText_whole (natOfDigits_short all short), sign, digits', whole]
  next => exact whole

theorem toText_ofLiteral_account :
    let digits := "123456789012345".toList
    "-123456789012345".toList = signed true digits ∧ digits ≠ [] ∧
      (∀ c ∈ digits, c.isDigit = true) ∧ "-123456789012345" ≠ "-0" ∧
      (ofLiteral "-123456789012345").toText = "-123456789012345" := by
  intro digits
  have spelling : "-123456789012345".toList = signed true digits := by decide
  have nonempty : digits ≠ [] := by decide
  have all : ∀ c ∈ digits, c.isDigit = true := by simp [digits]
  have zero : "-123456789012345" ≠ "-0" := by decide
  exact ⟨spelling, nonempty, all, zero, toText_ofLiteral_digits spelling nonempty all zero⟩

end Value

end Runbook
