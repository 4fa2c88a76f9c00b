import Runbook.Value
import Runbook.Proofs.Number.Layout
import Runbook.Proofs.Number.Reading

set_option autoImplicit false

namespace Runbook

open Magnitude

namespace Magnitude

def IsLong (rank : Nat) : Prop := unity ∣ units rank ∧ 10 ^ 15 * unity ≤ units rank

instance (rank : Nat) : Decidable (IsLong rank) := inferInstanceAs (Decidable (_ ∧ _))

theorem not_isLong_zero : ¬ IsLong 0 := by
  rintro ⟨-, large⟩
  rw [units_of_lt octave_pos] at large
  have positive : 0 < 10 ^ 15 * unity := Nat.mul_pos (by decide) unity_pos
  omega

theorem isLong_whole_iff {number : Nat} (nonzero : number ≠ 0)
    (bounded : Decimal.rank ⟨number, 0⟩ < count) :
    IsLong (Decimal.rank ⟨number, 0⟩) ↔ 15 < Decimal.digitCount number := by
  rw [← not_le, Decimal.digitCount_le_iff (by decide), not_lt]
  rcases Nat.lt_or_ge number (2 ^ 53) with short | long
  next =>
    have units := Decimal.units_rank_short nonzero bounded short
    rw [IsLong, units, Nat.mul_le_mul_right_iff unity_pos]
    exact and_iff_right (Nat.dvd_mul_left _ _)
  next =>
    obtain ⟨whole, large⟩ := Decimal.units_rank_long bounded long
    have least : 10 ^ 15 * unity ≤ 2 ^ 53 * unity := Nat.mul_le_mul_right _ (by decide)
    exact iff_of_true ⟨whole, least.trans large⟩ (le_trans (by decide) long)

theorem coefficient_shortest_ne_zero (tie : Tie) {rank : Nat} (positive : 0 < rank)
    (bounded : rank < count) : (shortest tie rank).coefficient ≠ 0 := by
  intro zero
  have reads := rank_shortest tie positive bounded
  rw [Decimal.rank, if_pos zero] at reads
  exact positive.ne reads

theorem isLong_iff (tie : Tie) {rank : Nat} (positive : 0 < rank) (bounded : rank < count) :
    IsLong rank ↔ ((shortest tie rank).digits.length : Int) ≤ (shortest tie rank).point ∧
      15 < (shortest tie rank).point := by
  have nonzero := coefficient_shortest_ne_zero tie positive bounded
  have reads := rank_shortest tie positive bounded
  have counted (fits : ((shortest tie rank).digits.length : Int) ≤ (shortest tie rank).point) :
      IsLong rank ↔ 15 < (shortest tie rank).point := by
    obtain ⟨number, nonzero', size, same⟩ := Decimal.exists_whole nonzero fits
    rw [reads] at same
    have whole := isLong_whole_iff nonzero' (same.symm ▸ bounded)
    rw [same] at whole
    rw [whole, ← size]
    exact Int.ofNat_lt.symm
  constructor
  next =>
    intro long
    obtain ⟨number, whole⟩ := long.1
    rw [Nat.mul_comm] at whole
    have fits := (isWhole_shortest tie positive bounded whole).length_le nonzero
    exact ⟨fits, (counted fits).mp long⟩
  next =>
    rintro ⟨fits, many⟩
    exact (counted fits).mpr many

end Magnitude

theorem Decimal.toNumber_of_rank {decimal : Decimal} {magnitude : Magnitude} (negative : Bool)
    (same : decimal.rank = magnitude.rank) :
    decimal.toNumber negative = .finite negative magnitude := by
  simp only [toNumber, same, magnitude.bounded, dif_pos]

namespace Layout

theorem writeMagnitude_report {rank : Nat} (nonzero : rank ≠ 0) :
    Number.reportLayout.writeMagnitude rank =
      plain false (shortest .up rank).digits (shortest .up rank).point := by
  simp only [writeMagnitude, if_neg nonzero, Number.reportLayout, if_true, Decimal.digits,
    Decimal.point, Decimal.digitCount]

theorem number_numeral {digits : List Char} {point : Int} {magnitude : Magnitude}
    (significant : Significant digits) (negative : Bool)
    (same : Decimal.rank ⟨Decimal.natOfDigits digits, point - digits.length⟩ = magnitude.rank) :
    (numeral negative digits point).number = .finite negative magnitude := by
  have rank := (rank_numeral significant negative point).trans same
  have sign : Numeral.isNegative (numeral negative digits point).sign = negative := by
    cases negative <;> rfl
  rw [Numeral.number, sign, Decimal.toNumber_of_rank negative rank]

theorem length_wholePart {digits : List Char} {point : Int} (nonempty : digits ≠ [])
    (fits : (digits.length : Int) ≤ point) : (wholePart digits point).length = point := by
  have size := List.length_pos_iff.mpr nonempty
  have positive : ¬ point ≤ 0 := by omega
  rw [wholePart, if_neg positive, List.length_append, List.length_take, length_zeros]
  omega

end Layout

open Layout

namespace Value

theorem numberOfLiteral?_plain {digits : List Char} {point : Int} {magnitude : Magnitude}
    (significant : Significant digits) (negative : Bool)
    (same : Decimal.rank ⟨Decimal.natOfDigits digits, point - digits.length⟩ = magnitude.rank) :
    numberOfLiteral? (signed negative (plain false digits point)) =
      if digits.length ≤ point ∧ 15 < point then none else some (.finite negative magnitude) := by
  have read := ofChars?_plain significant negative point
  have canonical : Number.ofCanonical? (signed negative (plain false digits point)) =
      some (.finite negative magnitude) := by
    have number := number_numeral significant negative same
    simp [Number.ofCanonical?, read, isCanonical_numeral significant, number, Number.isFinite]
  have long : ((numeral negative digits point).isWhole &&
      decide (exactDigits < (numeral negative digits point).whole.length)) =
        decide (digits.length ≤ point ∧ 15 < point) := by
    by_cases fits : (digits.length : Int) ≤ point
    next =>
      have size : ((numeral negative digits point).whole.length : Int) = point :=
        length_wholePart significant.nonempty fits
      have bound : exactDigits < (numeral negative digits point).whole.length ↔ 15 < point := by
        rw [exactDigits]
        omega
      simp only [isWhole_numeral, fits, bound, true_and, decide_true, Bool.true_and]
    next => simp only [isWhole_numeral, fits, false_and, decide_false, Bool.false_and]
  simp only [numberOfLiteral?, read, long, canonical, decide_eq_true_eq]

theorem ofChars_reported {chars : List Char} (reported : chars.all isReported = true) :
    ofChars chars =
      match numberOfLiteral? chars with
      | some n => .number n
      | none => .text (String.ofList chars) := by
  unfold ofChars
  split
  next name => simp [isReported] at reported
  next =>
    have notTrue : chars ≠ "true".toList := by
      rintro rfl
      exact absurd reported (by decide)
    have notFalse : chars ≠ "false".toList := by
      rintro rfl
      exact absurd reported (by decide)
    cases numberOfLiteral? chars with
    | some n => rfl
    | none => exact (if_neg notTrue).trans (if_neg notFalse)

theorem ofLiteral_toText (n : Number) : ofLiteral n.toText =
    match numberOfLiteral? (Number.reportLayout.writeChars n) with
    | some again => .number again
    | none => .text n.toText := by
  rw [ofLiteral, Number.toText, write, String.toList_ofList, ofChars_reported (reported_chars n).2]

end Value

namespace Number

def IsLong : Number → Prop
  | .finite _ magnitude => Magnitude.IsLong magnitude.rank
  | _ => False

instance (n : Number) : Decidable n.IsLong :=
  match n with
  | .finite _ magnitude => inferInstanceAs (Decidable (Magnitude.IsLong magnitude.rank))
  | .infinite _ => .isFalse id
  | .nan => .isFalse id

theorem writeChars_finite (negative : Bool) {magnitude : Magnitude} (nonzero : magnitude.rank ≠ 0) :
    reportLayout.writeChars (.finite negative magnitude) =
      signed negative
        (plain false (Magnitude.shortest .up magnitude.rank).digits
          (Magnitude.shortest .up magnitude.rank).point) := by
  have sign : (negative && (reportLayout.zeroSign || magnitude.rank != 0)) = negative := by
    simp [nonzero]
  rw [writeChars, sign, writeMagnitude_report nonzero]

theorem numberOfLiteral?_report (negative : Bool) {magnitude : Magnitude}
    (nonzero : magnitude.rank ≠ 0) :
    Value.numberOfLiteral? (reportLayout.writeChars (.finite negative magnitude)) = none ∧
        Magnitude.IsLong magnitude.rank ∨
      Value.numberOfLiteral? (reportLayout.writeChars (.finite negative magnitude)) =
          some (.finite negative magnitude) ∧
        ¬ Magnitude.IsLong magnitude.rank := by
  have positive := Nat.pos_of_ne_zero nonzero
  have coefficient := coefficient_shortest_ne_zero .up positive magnitude.bounded
  have significant : Significant (shortest .up magnitude.rank).digits :=
    significant_toDigits coefficient
  have same := (Decimal.rank_digits _).trans (rank_shortest .up positive magnitude.bounded)
  rw [writeChars_finite negative nonzero, Value.numberOfLiteral?_plain significant negative same,
    isLong_iff .up positive magnitude.bounded]
  split
  next long => exact .inl ⟨rfl, long⟩
  next short => exact .inr ⟨rfl, short⟩

theorem same_self {n : Number} (finite : n.isFinite = true) : n.same n = true := by
  cases n with
  | finite negative magnitude => simp [same]
  | infinite negative => cases finite
  | nan => cases finite

theorem writeChars_zero (negative : Bool) {magnitude : Magnitude} (zero : magnitude.rank = 0) :
    reportLayout.writeChars (.finite negative magnitude) = ['0'] := by
  simp [writeChars, zero, reportLayout, signed, writeMagnitude]

theorem reread_finite {n : Number} (finite : n.isFinite = true) :
    (Value.ofLiteral n.toText = .text n.toText ∧ n.IsLong) ∨
      ∃ again, Value.ofLiteral n.toText = .number again ∧ again.same n = true ∧
        again.toText = n.toText ∧ ¬ n.IsLong := by
  cases n with
  | infinite negative => cases finite
  | nan => cases finite
  | finite negative magnitude =>
    rw [Value.ofLiteral_toText]
    by_cases zero : magnitude.rank = 0
    next =>
      have chars := writeChars_zero negative zero
      have read : Value.numberOfLiteral? ['0'] = some .zero := by decide +kernel
      have report : Number.zero.toText = toText (.finite negative magnitude) := by
        rw [toText, toText, write, write, chars, Number.zero, writeChars_zero false rfl]
      refine .inr ⟨.zero, by rw [chars, read], ?_, report, ?_⟩
      next => simp [same, zero, Number.zero]
      next =>
        rw [IsLong, zero]
        exact not_isLong_zero
    next =>
      rcases numberOfLiteral?_report negative zero with ⟨read, long⟩ | ⟨read, short⟩
      next => exact .inl ⟨by rw [read], long⟩
      next => exact .inr ⟨_, by rw [read], same_self rfl, rfl, short⟩

theorem reread (n : Number) : Value.ofLiteral n.toText = .text n.toText ∨
    ∃ again, Value.ofLiteral n.toText = .number again ∧ again.toText = n.toText := by
  cases n with
  | finite negative magnitude =>
    rcases reread_finite (n := .finite negative magnitude) rfl with
      ⟨text, -⟩ | ⟨again, number, -, report, -⟩
    next => exact .inl text
    next => exact .inr ⟨again, number, report⟩
  | infinite negative => cases negative <;> exact .inl (by decide +kernel)
  | nan => exact .inl (by decide +kernel)

end Number

namespace Value

theorem isFinite_of_number {chars : List Char} {n : Number} (read : ofChars chars = .number n) :
    n.isFinite = true := by
  have literal : numberOfLiteral? chars = some n := by
    unfold ofChars at read
    split at read
    next => split at read <;> cases read
    next =>
      split at read
      next found => rw [found, Value.number.inj read]
      next =>
        split at read
        next => cases read
        next => split at read <;> cases read
  have canonical : Number.ofCanonical? chars = some n := by
    unfold numberOfLiteral? at literal
    split at literal
    next => cases literal
    next =>
      split at literal
      next => cases literal
      next => exact literal
  unfold Number.ofCanonical? at canonical
  split at canonical
  next => cases canonical
  next =>
    split at canonical
    next accepted =>
      cases canonical
      exact (Bool.and_eq_true_iff.mp accepted).2
    next => cases canonical

/-- A number that a literal stands for is read back from its report as an equal number, unless it
is a whole number of sixteen digits or more; the report of such a one is read as a text. -/
theorem number_reread {literal : String} {n : Number} (read : ofLiteral literal = .number n) :
    (¬ n.IsLong → ∃ again, ofLiteral n.toText = .number again ∧ again.same n = true) ∧
      (n.IsLong → ofLiteral n.toText = .text n.toText) := by
  rcases Number.reread_finite (isFinite_of_number read) with ⟨text, long⟩ | ⟨again, number, same, -, short⟩
  next => exact ⟨fun short => absurd long short, fun _ => text⟩
  next => exact ⟨fun _ => ⟨again, number, same⟩, fun long => absurd long short⟩

theorem number_reread_fraction :
    ofLiteral "-250e-2" = .number (Decimal.toNumber true ⟨25, -1⟩) ∧
      ¬ (Decimal.toNumber true ⟨25, -1⟩).IsLong ∧
      ∃ again, ofLiteral (Decimal.toNumber true ⟨25, -1⟩).toText = .number again ∧
        again.same (Decimal.toNumber true ⟨25, -1⟩) = true := by
  have read : ofLiteral "-250e-2" = .number (Decimal.toNumber true ⟨25, -1⟩) := by decide +kernel
  have short : ¬ (Decimal.toNumber true ⟨25, -1⟩).IsLong := by decide +kernel
  exact ⟨read, short, (number_reread read).1 short⟩

theorem quadrillion_reread :
    ofLiteral "1e15" = .number (Number.ofNat (10 ^ 15)) ∧
      ¬ ∃ again, ofLiteral (Number.ofNat (10 ^ 15)).toText = .number again ∧
        again.same (Number.ofNat (10 ^ 15)) = true := by
  have read : ofLiteral "1e15" = .number (Number.ofNat (10 ^ 15)) := by decide +kernel
  have text : ofLiteral (Number.ofNat (10 ^ 15)).toText = .text "1000000000000000" := by
    decide +kernel
  refine ⟨read, ?_⟩
  rintro ⟨again, number, -⟩
  cases text.symm.trans number

end Value

end Runbook
