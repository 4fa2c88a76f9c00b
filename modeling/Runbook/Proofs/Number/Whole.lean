import Runbook.Proofs.Number.Nearest
import Runbook.Proofs.Number.Reread

set_option autoImplicit false

namespace Runbook

open Magnitude

namespace Decimal

theorem pow_lt_overflow : 2 ^ 64 < overflow := by
  rw [overflow, lt_sub_iff_add_lt]
  calc (2 : ℚ) ^ 64 + 2 ^ 970
    _ < 2 ^ 970 + 2 ^ 970 := add_lt_add_left (pow_lt_pow_right₀ one_lt_two (by decide)) _
    _ = 2 ^ 971 := by rw [pow_succ 2 970, mul_two]
    _ ≤ 2 ^ 1024 := pow_le_pow_right₀ one_le_two (by decide)

theorem rank_whole_lt {number : Nat} (fits : number ≤ 2 ^ 64) : rank ⟨number, 0⟩ < count := by
  have size : size ⟨number, 0⟩ = number := by rw [size, zpow_zero, mul_one]
  have fits' : (number : ℚ) ≤ 2 ^ 64 := by exact_mod_cast fits
  rcases rank_nearest ⟨number, 0⟩ with ⟨-, bounded, -⟩ | ⟨beyond, -⟩
  next => exact bounded
  next => exact absurd (pow_lt_overflow.trans_le (beyond.trans_eq size)) (not_lt.mpr fits')

theorem rank_zero : rank ⟨0, 0⟩ = 0 := by rw [rank, if_pos rfl]

theorem rank_whole_pos {number : Nat} (nonzero : number ≠ 0) (short : number < 2 ^ 53) :
    0 < rank ⟨number, 0⟩ := by
  have value := units_rank_short nonzero (rank_whole_lt (short.le.trans (by decide))) short
  refine Nat.pos_of_ne_zero fun none => ?_
  rw [none, units_of_lt octave_pos] at value
  exact Nat.mul_ne_zero nonzero unity_pos.ne' value.symm

theorem eq_of_rank_eq {number other : Nat} (nonzero : number ≠ 0) (short : number < 2 ^ 53)
    (same : rank ⟨other, 0⟩ = rank ⟨number, 0⟩) : other = number := by
  have bounded : rank ⟨number, 0⟩ < count := rank_whole_lt (short.le.trans (by decide))
  have value := units_rank_short nonzero bounded short
  have positive := rank_whole_pos nonzero short
  have nonzero' : other ≠ 0 := by
    rintro rfl
    rw [← same, rank_zero] at positive
    exact Nat.lt_irrefl 0 positive
  rw [← same] at value bounded
  rcases Nat.lt_or_ge other (2 ^ 53) with short' | long
  next =>
    rw [units_rank_short nonzero' bounded short'] at value
    exact Nat.eq_of_mul_eq_mul_right unity_pos value
  next =>
    have large := (units_rank_long bounded long).2
    rw [value] at large
    exact absurd (Nat.le_of_mul_le_mul_right large unity_pos) (not_le.mpr short)

end Decimal

open Decimal

namespace Layout

theorem plain_of_fits {digits : List Char} {point : Int} (nonempty : digits ≠ [])
    (fits : (digits.length : Int) ≤ point) :
    plain false digits point = digits ++ zeros (point.toNat - digits.length) := by
  have size := List.length_pos_iff.mpr nonempty
  rw [plain, if_neg (by omega), if_pos (by omega)]
  simp

theorem plain_whole {decimal : Decimal} (nonzero : decimal.coefficient ≠ 0)
    (fits : (decimal.digits.length : Int) ≤ decimal.point) :
    ∃ number, plain false decimal.digits decimal.point = Nat.toDigits 10 number ∧
      rank ⟨number, 0⟩ = decimal.rank := by
  have significant : Significant decimal.digits := significant_toDigits nonzero
  have plain' := plain_of_fits significant.nonempty fits
  generalize places : decimal.point.toNat - decimal.digits.length = count at plain'
  refine ⟨natOfDigits (decimal.digits ++ zeros count), ?digits, ?rank⟩
  case digits =>
    rw [plain']
    cases led : decimal.digits with
    | nil => exact absurd led significant.nonempty
    | cons first rest =>
      have nonzero' : first ≠ '0' := fun zero => significant.first rest (zero ▸ led)
      rw [List.cons_append, toDigits_natOfDigits nonzero']
      intro c member
      rw [← List.cons_append, ← led] at member
      rcases List.mem_append.mp member with front | padding
      next => exact significant.all c front
      next =>
        rw [List.eq_of_mem_replicate padding]
        rfl
  case rank =>
    have extent : (0 : Int) + count = decimal.point - decimal.digits.length := by omega
    rw [natOfDigits_append_zeros, rank_mul_pow, extent, rank_digits]

theorem writeMagnitude_whole {number : Nat} (short : number < 2 ^ 53) :
    Number.reportLayout.writeMagnitude (rank ⟨number, 0⟩) = Nat.toDigits 10 number := by
  by_cases zero : number = 0
  next =>
    rw [zero, rank_zero, writeMagnitude, if_pos rfl, Nat.toDigits_zero]
    rfl
  next =>
    have bounded : rank ⟨number, 0⟩ < count := rank_whole_lt (short.le.trans (by decide))
    have positive := rank_whole_pos zero short
    have nonzero := coefficient_shortest_ne_zero .up positive bounded
    have whole := isWhole_shortest .up positive bounded (units_rank_short zero bounded short)
    obtain ⟨other, digits, rank⟩ := plain_whole nonzero (whole.length_le nonzero)
    rw [rank_shortest .up positive bounded] at rank
    rw [writeMagnitude_report positive.ne', digits, eq_of_rank_eq zero short rank]

end Layout

namespace Decimal

theorem toNumber_congr {decimal other : Decimal} (same : decimal.rank = other.rank)
    (negative : Bool) : decimal.toNumber negative = other.toNumber negative := by
  simp only [toNumber, same]

theorem toNumber_whole {number : Nat} (fits : number ≤ 2 ^ 64) (negative : Bool) :
    toNumber negative ⟨number, 0⟩ = .finite negative ⟨rank ⟨number, 0⟩, rank_whole_lt fits⟩ :=
  dif_pos (rank_whole_lt fits)

theorem toText_whole {number : Nat} (short : number < 2 ^ 53) (negative : Bool) :
    (toNumber negative ⟨number, 0⟩).toText =
      String.ofList (Layout.signed (negative && number != 0) (Nat.toDigits 10 number)) := by
  have zero : (rank ⟨number, 0⟩ != 0) = (number != 0) := by
    by_cases zero : number = 0
    next => rw [zero, rank_zero]
    next => rw [bne_iff_ne.mpr zero, bne_iff_ne.mpr (rank_whole_pos zero short).ne']
  rw [toNumber_whole (short.le.trans (by decide)), Number.toText, Layout.write, Layout.writeChars,
    Layout.writeMagnitude_whole short, zero]
  rfl

end Decimal

end Runbook
