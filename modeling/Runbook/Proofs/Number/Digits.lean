import Runbook.Number.Layout
import Runbook.Proofs.Number.Shortest
import Runbook.Proofs.Text.Lines

set_option autoImplicit false

namespace Runbook

theorem Text.isDigit_eq (c : Char) : Text.isDigit c = c.isDigit := by
  simp only [Text.isDigit, Char.isDigit, Bool.and_eq_decide, decide_eq_true_eq, ge_iff_le]
  rfl

theorem Layout.length_zeros (count : Nat) : (zeros count).length = count :=
  List.length_replicate

namespace Decimal

theorem natOfDigits_eq (digits : List Char) : natOfDigits digits = Nat.ofDigitChars 10 digits 0 :=
  Nat.ofDigitChars_eq_foldl.symm

theorem natOfDigits_toDigits (number : Nat) : natOfDigits (Nat.toDigits 10 number) = number := by
  rw [natOfDigits_eq, Nat.ofDigitChars_ten_toDigits]

theorem natOfDigits_append (front back : List Char) :
    natOfDigits (front ++ back) = natOfDigits front * 10 ^ back.length + natOfDigits back := by
  simp only [natOfDigits_eq]
  rw [Nat.ofDigitChars_append, Nat.ofDigitChars_eq_ofDigitChars_zero, Nat.mul_comm]

theorem natOfDigits_zeros (count : Nat) : natOfDigits (Layout.zeros count) = 0 := by
  rw [natOfDigits_eq, Layout.zeros, Nat.ofDigitChars_replicate_zero, Nat.mul_zero]

theorem natOfDigits_append_zeros (digits : List Char) (count : Nat) :
    natOfDigits (digits ++ Layout.zeros count) = natOfDigits digits * 10 ^ count := by
  rw [natOfDigits_append, natOfDigits_zeros, Layout.length_zeros, Nat.add_zero]

theorem natOfDigits_zeros_append (count : Nat) (digits : List Char) :
    natOfDigits (Layout.zeros count ++ digits) = natOfDigits digits := by
  rw [natOfDigits_append, natOfDigits_zeros, Nat.zero_mul, Nat.zero_add]

theorem digitValue_bounds {c : Char} (digit : c.isDigit = true) :
    digitValue c < 10 ∧ (c ≠ '0' → digitValue c ≠ 0) := by
  simp only [Char.isDigit, Bool.and_eq_true, decide_eq_true_eq] at digit
  have range : 48 ≤ c.toNat ∧ c.toNat ≤ 57 := digit
  have base : '0'.toNat = 48 := rfl
  rw [digitValue, base]
  refine ⟨by omega, fun nonzero => ?_⟩
  have other : c.toNat ≠ 48 := fun same => nonzero (Char.toNat_inj.mp same)
  omega

theorem natOfDigits_singleton (c : Char) : natOfDigits [c] = digitValue c := by
  simp [natOfDigits]

theorem natOfDigits_lt {digits : List Char} (all : ∀ c ∈ digits, c.isDigit = true) :
    natOfDigits digits < 10 ^ digits.length := by
  induction digits using List.reverseRecOn with
  | nil => decide
  | append_singleton front last ih =>
    have front' := ih fun c member => all c (List.mem_append_left _ member)
    have last' := (digitValue_bounds (all last (by simp))).1
    rw [natOfDigits_append, natOfDigits_singleton, List.length_append, List.length_singleton,
      pow_one, pow_succ]
    omega

theorem toDigits_digitValue {c : Char} (digit : c.isDigit = true) :
    Nat.toDigits 10 (digitValue c) = [c] := by
  have small := (digitValue_bounds digit).1
  simp only [Char.isDigit, Bool.and_eq_true, decide_eq_true_eq] at digit
  have range : 48 ≤ c.toNat ∧ c.toNat ≤ 57 := digit
  have base : '0'.toNat = 48 := rfl
  have same : (digitValue c).digitChar = c := by
    rw [← Char.toNat_inj, Nat.toNat_digitChar_of_lt_ten small, digitValue, base]
    omega
  rw [Nat.toDigits_of_lt_base small, same]

theorem toDigits_natOfDigits {first : Char} {rest : List Char} (nonzero : first ≠ '0')
    (all : ∀ c ∈ first :: rest, c.isDigit = true) :
    Nat.toDigits 10 (natOfDigits (first :: rest)) = first :: rest := by
  induction rest using List.reverseRecOn with
  | nil => rw [natOfDigits_singleton, toDigits_digitValue (all first List.mem_cons_self)]
  | append_singleton front last ih =>
    rw [← List.cons_append] at all
    have front' := ih fun c member => all c (List.mem_append_left _ member)
    have last' := all last (by simp)
    have positive : 0 < natOfDigits (first :: front) := by
      refine Nat.pos_of_ne_zero fun zero => nonzero ?_
      rw [zero, Nat.toDigits_zero] at front'
      exact (List.cons.inj front').1.symm
    rw [← List.cons_append, natOfDigits_append, natOfDigits_singleton, List.length_singleton,
      pow_one, Nat.mul_comm, ← Nat.toDigits_append_toDigits (by decide) positive
        (digitValue_bounds last').1, front', toDigits_digitValue last']

end Decimal

open Decimal

namespace Layout

structure Significant (digits : List Char) : Prop where
  nonempty : digits ≠ []
  all : ∀ c ∈ digits, c.isDigit = true
  first : ∀ rest, digits ≠ '0' :: rest
  last : ∀ front, digits ≠ front ++ ['0']

theorem significant_append_zeros (digits : List Char) :
    ∃ count, digits = significant digits ++ zeros count := by
  induction digits using List.reverseRecOn with
  | nil => exact ⟨0, rfl⟩
  | append_singleton front last ih =>
    unfold significant at *
    rw [Text.dropEnd_eq_rdropWhile] at *
    by_cases zero : last = '0'
    next =>
      obtain ⟨count, same⟩ := ih
      refine ⟨count + 1, ?_⟩
      rw [List.rdropWhile_concat_pos _ _ _ (by simp [zero]), zeros, List.replicate_succ', zero,
        ← List.append_assoc]
      exact congrArg (· ++ ['0']) same
    next => exact ⟨0, by simp [List.rdropWhile_concat_neg, zero, zeros]⟩

theorem significant_toDigits {number : Nat} (nonzero : number ≠ 0) :
    Significant (significant (Nat.toDigits 10 number)) := by
  obtain ⟨count, parts⟩ := significant_append_zeros (Nat.toDigits 10 number)
  have value := natOfDigits_toDigits number
  have inside : ∀ c ∈ significant (Nat.toDigits 10 number), c ∈ Nat.toDigits 10 number := by
    intro c member
    rw [parts]
    exact List.mem_append_left _ member
  have digits : ∀ c ∈ Nat.toDigits 10 number, c.isDigit = true :=
    fun c => Nat.isDigit_of_mem_toDigits (by decide) (by decide)
  refine ⟨?nonempty, fun c member => digits c (inside c member), ?first, ?last⟩
  case nonempty =>
    intro empty
    rw [parts, empty, List.nil_append, natOfDigits_zeros] at value
    exact nonzero value.symm
  case first =>
    -- A number is at least the power of ten that its first digit counts.
    intro rest led
    have whole : Nat.toDigits 10 number = '0' :: (rest ++ zeros count) := by
      rw [parts, led, List.cons_append]
    have least := pow_le_of_digitCount nonzero
    have below : natOfDigits (rest ++ zeros count) < 10 ^ (rest ++ zeros count).length :=
      natOfDigits_lt fun c member => digits c (whole ▸ List.mem_cons_of_mem _ member)
    have same : natOfDigits (rest ++ zeros count) = number := by
      rw [← value, whole]
      exact (natOfDigits_zeros_append 1 _).symm
    rw [digitCount, whole, List.length_cons, Nat.add_sub_cancel] at least
    omega
  case last =>
    intro front ended
    have settled := List.rdropWhile_idempotent (· == '0') (Nat.toDigits 10 number)
    rw [significant, Text.dropEnd_eq_rdropWhile] at ended
    rw [ended, List.rdropWhile_concat_pos _ _ _ (by decide)] at settled
    have shorter := (List.rdropWhile_prefix (· == '0') front).length_le
    rw [settled, List.length_append, List.length_singleton] at shorter
    omega

end Layout

namespace Decimal

variable {decimal : Decimal}

def digits (decimal : Decimal) : List Char := Layout.significant (Nat.toDigits 10 decimal.coefficient)

def point (decimal : Decimal) : Int := digitCount decimal.coefficient + decimal.exponent

theorem coefficient_eq (decimal : Decimal) : ∃ count : Nat,
    decimal.coefficient = natOfDigits decimal.digits * 10 ^ count ∧
      decimal.point = decimal.digits.length + (decimal.exponent + count) := by
  obtain ⟨count, parts⟩ := Layout.significant_append_zeros (Nat.toDigits 10 decimal.coefficient)
  refine ⟨count, ?_, ?_⟩
  next =>
    rw [digits, ← natOfDigits_append_zeros, ← parts, natOfDigits_toDigits]
  next =>
    rw [point, digits, digitCount]
    conv_lhs => rw [parts, List.length_append, Layout.length_zeros]
    push_cast
    ring

theorem rank_digits (decimal : Decimal) :
    rank ⟨natOfDigits decimal.digits, decimal.point - decimal.digits.length⟩ = decimal.rank := by
  obtain ⟨count, coefficient, point⟩ := decimal.coefficient_eq
  rw [point, add_sub_cancel_left, ← rank_mul_pow, ← coefficient]

theorem exists_whole (nonzero : decimal.coefficient ≠ 0)
    (fits : (decimal.digits.length : Int) ≤ decimal.point) :
    ∃ number : Nat, number ≠ 0 ∧ digitCount number = decimal.point ∧
      rank ⟨number, 0⟩ = decimal.rank := by
  obtain ⟨count, coefficient, point⟩ := decimal.coefficient_eq
  obtain ⟨places, extent⟩ := Int.eq_ofNat_of_zero_le (show 0 ≤ decimal.exponent + count by omega)
  have nonzero' : natOfDigits decimal.digits ≠ 0 := by
    intro zero
    rw [zero, Nat.zero_mul] at coefficient
    exact nonzero coefficient
  have size := digitCount_mul_pow nonzero' count
  rw [← coefficient] at size
  refine ⟨natOfDigits decimal.digits * 10 ^ places, ?nonzero, ?size, ?rank⟩
  case nonzero => exact Nat.mul_ne_zero nonzero' (Nat.pow_pos (by decide)).ne'
  case size =>
    rw [digitCount_mul_pow nonzero', Decimal.point, size]
    omega
  case rank =>
    rw [rank_mul_pow, ← rank_digits decimal, point, extent, add_sub_cancel_left, Int.zero_add]

theorem IsWhole.length_le (whole : decimal.IsWhole) (nonzero : decimal.coefficient ≠ 0) :
    (decimal.digits.length : Int) ≤ decimal.point := by
  obtain ⟨count, coefficient, point⟩ := decimal.coefficient_eq
  have significant : Layout.Significant decimal.digits := Layout.significant_toDigits nonzero
  by_contra longer
  have more : count + 1 ≤ (-decimal.exponent).toNat := by omega
  have divides : 10 ∣ natOfDigits decimal.digits := by
    have powers : 10 * 10 ^ count ∣ natOfDigits decimal.digits * 10 ^ count := by
      rw [← pow_succ', ← coefficient]
      exact (Nat.pow_dvd_pow 10 more).trans whole
    exact Nat.dvd_of_mul_dvd_mul_right (Nat.pow_pos (by decide)) powers
  rcases List.eq_nil_or_concat' decimal.digits with empty | ⟨front, last, ended⟩
  next => exact significant.nonempty empty
  next =>
    obtain ⟨small, other⟩ := digitValue_bounds (significant.all last (by simp [ended]))
    have nonzero' := other fun zero => significant.last front (zero ▸ ended)
    rw [ended, natOfDigits_append, natOfDigits_singleton, List.length_singleton, pow_one] at divides
    omega

end Decimal

end Runbook
