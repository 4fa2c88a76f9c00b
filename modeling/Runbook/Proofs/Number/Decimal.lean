import Runbook.Proofs.Number.Rounding

set_option autoImplicit false

namespace Runbook

namespace Magnitude

def unity : Nat := 2 ^ unitExponent

theorem unity_eq : unity = 2 ^ 1074 := by rw [unity, unitExponent]

theorem unity_pos : 0 < unity := Nat.two_pow_pos _

end Magnitude

open Magnitude

namespace Decimal

theorem digitCount_pos (number : Nat) : 0 < digitCount number := Nat.length_toDigits_pos

theorem lt_pow_digitCount (number : Nat) : number < 10 ^ digitCount number :=
  (Nat.length_toDigits_le_iff (by decide) (digitCount_pos number)).mp le_rfl

theorem digitCount_le_iff {number size : Nat} (positive : 0 < size) :
    digitCount number ≤ size ↔ number < 10 ^ size :=
  Nat.length_toDigits_le_iff (by decide) positive

theorem pow_le_of_digitCount {number : Nat} (nonzero : number ≠ 0) :
    10 ^ (digitCount number - 1) ≤ number := by
  by_contra less
  have positive := digitCount_pos number
  rcases Nat.eq_or_lt_of_le positive with one | more
  next =>
    rw [← one] at less
    simp at less
    omega
  next =>
    have fewer := (digitCount_le_iff (by omega)).mpr (Nat.lt_of_not_le less)
    omega

theorem digitCount_eq {number size : Nat} (low : 10 ^ size ≤ number)
    (high : number < 10 ^ (size + 1)) : digitCount number = size + 1 := by
  have upper := (digitCount_le_iff (Nat.succ_pos size)).mpr high
  refine Nat.le_antisymm upper (Nat.lt_of_not_le fun fewer => ?_)
  have below := (lt_pow_digitCount number).trans_le (Nat.pow_le_pow_right (by decide) fewer)
  omega

theorem digitCount_mul_pow {number : Nat} (nonzero : number ≠ 0) (zeros : Nat) :
    digitCount (number * 10 ^ zeros) = digitCount number + zeros := by
  have size : digitCount number - 1 + 1 = digitCount number := Nat.sub_add_cancel (digitCount_pos _)
  have low : 10 ^ (digitCount number - 1 + zeros) ≤ number * 10 ^ zeros := by
    rw [pow_add]
    exact Nat.mul_le_mul_right _ (pow_le_of_digitCount nonzero)
  have high : number * 10 ^ zeros < 10 ^ (digitCount number - 1 + zeros + 1) := by
    rw [Nat.add_right_comm, size, pow_add]
    exact Nat.mul_lt_mul_of_pos_right (lt_pow_digitCount number) (Nat.pow_pos (by decide))
  rw [digitCount_eq low high, Nat.add_right_comm, size]

theorem exactRank_eq (decimal : Decimal) : decimal.exactRank =
    rankOfRatio (decimal.coefficient * 10 ^ decimal.exponent.toNat * unity)
      (10 ^ (-decimal.exponent).toNat) := by
  rw [exactRank, Nat.pow_eq, Nat.pow_eq, Nat.pow_eq, unity]

theorem exactRank_mul_pow (coefficient zeros : Nat) (exponent : Int) :
    exactRank ⟨coefficient * 10 ^ zeros, exponent⟩ = exactRank ⟨coefficient, exponent + zeros⟩ := by
  rw [exactRank_eq, exactRank_eq]
  refine rankOfRatio_congr (Nat.pow_pos (by decide)) (Nat.pow_pos (by decide)) ?_
  have places : zeros + exponent.toNat + (-(exponent + zeros)).toNat =
      (exponent + zeros).toNat + (-exponent).toNat := by omega
  calc coefficient * 10 ^ zeros * 10 ^ exponent.toNat * unity * 10 ^ (-(exponent + zeros)).toNat
    _ = coefficient * 10 ^ (zeros + exponent.toNat + (-(exponent + zeros)).toNat) * unity := by ring
    _ = coefficient * 10 ^ ((exponent + zeros).toNat + (-exponent).toNat) * unity := by rw [places]
    _ = coefficient * 10 ^ (exponent + zeros).toNat * unity * 10 ^ (-exponent).toNat := by ring

theorem rank_mul_pow (coefficient zeros : Nat) (exponent : Int) :
    rank ⟨coefficient * 10 ^ zeros, exponent⟩ = rank ⟨coefficient, exponent + zeros⟩ := by
  rcases eq_or_ne coefficient 0 with rfl | nonzero
  next => simp [rank]
  next =>
    have nonzero' : coefficient * 10 ^ zeros ≠ 0 :=
      Nat.mul_ne_zero nonzero (Nat.pow_pos (by decide)).ne'
    have height : (digitCount (coefficient * 10 ^ zeros) : Int) + exponent =
        digitCount coefficient + (exponent + zeros) := by
      rw [digitCount_mul_pow nonzero]
      push_cast
      ring
    simp only [rank, nonzero, nonzero', height, exactRank_mul_pow]

theorem units_bound : 2 ^ (1024 + unitExponent) ≤ 10 ^ 309 * unity := by decide +kernel

theorem unity_lt : unity < 10 ^ 324 := by decide +kernel

theorem height_lt {coefficient magnitude : Nat} {exponent : Int}
    (value : coefficient * 10 ^ exponent.toNat * unity = magnitude * 10 ^ (-exponent).toNat)
    (nonzero : coefficient ≠ 0) (bounded : magnitude < 2 ^ (1024 + unitExponent)) :
    (digitCount coefficient + exponent : Int) < 310 := by
  by_contra high
  have size := digitCount_pos coefficient
  have places : 309 + (-exponent).toNat ≤ digitCount coefficient - 1 + exponent.toNat := by omega
  have large : 10 ^ 309 * unity * 10 ^ (-exponent).toNat ≤ magnitude * 10 ^ (-exponent).toNat :=
    calc 10 ^ 309 * unity * 10 ^ (-exponent).toNat
      _ = 10 ^ (309 + (-exponent).toNat) * unity := by rw [pow_add, Nat.mul_right_comm]
      _ ≤ 10 ^ (digitCount coefficient - 1 + exponent.toNat) * unity :=
        Nat.mul_le_mul_right _ (Nat.pow_le_pow_right (by decide) places)
      _ = 10 ^ (digitCount coefficient - 1) * 10 ^ exponent.toNat * unity := by rw [pow_add]
      _ ≤ coefficient * 10 ^ exponent.toNat * unity :=
        Nat.mul_le_mul_right _ (Nat.mul_le_mul_right _ (pow_le_of_digitCount nonzero))
      _ = magnitude * 10 ^ (-exponent).toNat := value
  have least := Nat.le_of_mul_le_mul_right large (Nat.pow_pos (by decide))
  exact absurd (units_bound.trans least) (not_le.mpr bounded)

theorem lt_height {coefficient magnitude : Nat} {exponent : Int}
    (value : coefficient * 10 ^ exponent.toNat * unity = magnitude * 10 ^ (-exponent).toNat)
    (positive : 0 < magnitude) : -324 < (digitCount coefficient + exponent : Int) := by
  by_contra low
  have places : digitCount coefficient + exponent.toNat + 324 ≤ (-exponent).toNat := by omega
  have small : 10 ^ (digitCount coefficient + exponent.toNat) * 10 ^ 324 <
      10 ^ (digitCount coefficient + exponent.toNat) * unity :=
    calc 10 ^ (digitCount coefficient + exponent.toNat) * 10 ^ 324
      _ = 10 ^ (digitCount coefficient + exponent.toNat + 324) := (pow_add _ _ _).symm
      _ ≤ 10 ^ (-exponent).toNat := Nat.pow_le_pow_right (by decide) places
      _ ≤ magnitude * 10 ^ (-exponent).toNat := Nat.le_mul_of_pos_left _ positive
      _ = coefficient * 10 ^ exponent.toNat * unity := value.symm
      _ < 10 ^ digitCount coefficient * 10 ^ exponent.toNat * unity :=
        Nat.mul_lt_mul_of_pos_right (Nat.mul_lt_mul_of_pos_right (lt_pow_digitCount _)
          (Nat.pow_pos (by decide))) unity_pos
      _ = 10 ^ (digitCount coefficient + exponent.toNat) * unity := by rw [pow_add]
  have less : 10 ^ 324 < unity := Nat.lt_of_mul_lt_mul_left small
  exact Nat.lt_irrefl _ (less.trans unity_lt)

theorem rank_eq_of_units {coefficient rank : Nat} {exponent : Int} (positive : 0 < rank)
    (bounded : rank < count)
    (value : coefficient * 10 ^ exponent.toNat * unity = units rank * 10 ^ (-exponent).toNat) :
    Decimal.rank ⟨coefficient, exponent⟩ = rank := by
  have nonzero : coefficient ≠ 0 := by
    rintro rfl
    simp [(units_pos positive).ne'] at value
  have high := height_lt value nonzero (units_lt bounded)
  have low := lt_height value (units_pos positive)
  have exact : exactRank ⟨coefficient, exponent⟩ = rank := by
    rw [exactRank_eq, value]
    conv_rhs => rw [← rankOfRatio_units rank]
    exact rankOfRatio_congr (Nat.pow_pos (by decide)) Nat.one_pos (by ring)
  simp only [Decimal.rank, nonzero, if_false, not_le.mpr high, not_le.mpr low, exact]

theorem rank_whole {number : Nat} (nonzero : number ≠ 0) (bounded : rank ⟨number, 0⟩ < count) :
    rank ⟨number, 0⟩ = rankOfRatio (number * unity) 1 := by
  have exact : exactRank ⟨number, 0⟩ = rankOfRatio (number * unity) 1 := by
    rw [exactRank_eq]
    simp
  have low : ¬ ((digitCount number : Int) + 0 ≤ -324) := by omega
  have high : ¬ (310 ≤ (digitCount number : Int) + 0) := by
    intro high
    simp only [rank, nonzero, high, if_true, if_false] at bounded
    exact Nat.lt_irrefl _ bounded
  simp only [rank, nonzero, high, low, if_false, exact]

theorem octavesOf_whole {number : Nat} (nonzero : number ≠ 0) :
    octavesOf (number * unity) 1 = number.log2 + 1022 := by
  have positive : number * unity ≠ 0 := Nat.mul_ne_zero nonzero unity_pos.ne'
  have bits : (number * unity).log2 = number.log2 + 1074 := by
    rw [Nat.log2_eq_iff positive, Nat.add_right_comm, pow_add, pow_add, ← unity_eq]
    exact ⟨Nat.mul_le_mul_right _ (Nat.log2_self_le nonzero),
      Nat.mul_lt_mul_of_pos_right Nat.lt_log2_self unity_pos⟩
  rw [octavesOf, Nat.div_one, bits]
  omega

theorem units_rank_short {number : Nat} (nonzero : number ≠ 0)
    (bounded : rank ⟨number, 0⟩ < count) (short : number < 2 ^ 53) :
    units (rank ⟨number, 0⟩) = number * unity := by
  have bits : number.log2 < 53 := (Nat.log2_lt nonzero).mpr short
  have parts : number * unity = number * 2 ^ (1074 - (number.log2 + 1022)) *
      2 ^ (number.log2 + 1022) := by
    rw [Nat.mul_assoc, ← pow_add, Nat.sub_add_cancel (by omega), unity_eq]
  rw [rank_whole nonzero bounded, units_rankOfRatio, mantissaOf, octavesOf_whole nonzero,
    Nat.one_mul]
  conv_lhs => rw [parts]
  rw [roundDiv_mul (Nat.two_pow_pos _), ← parts]

theorem units_rank_long {number : Nat} (bounded : rank ⟨number, 0⟩ < count)
    (long : 2 ^ 53 ≤ number) :
    unity ∣ units (rank ⟨number, 0⟩) ∧ 2 ^ 53 * unity ≤ units (rank ⟨number, 0⟩) := by
  have nonzero : number ≠ 0 := by
    rintro rfl
    simp at long
  have bits : 53 ≤ number.log2 := (Nat.le_log2 nonzero).mpr long
  have octaves := octavesOf_whole nonzero
  have mantissa : octave ≤ mantissaOf (number * unity) 1 := le_mantissaOf (by omega)
  have fits : 1 + unitExponent ≤ number.log2 + 1022 := by
    rw [unitExponent]
    omega
  rw [rank_whole nonzero bounded, units_rankOfRatio, octaves]
  constructor
  next => exact Nat.dvd_mul_left_of_dvd (Nat.pow_dvd_pow 2 (Nat.le_of_add_left_le fits)) _
  next =>
    calc 2 ^ 53 * unity
      _ = 2 ^ 52 * 2 ^ (1 + unitExponent) := by
        rw [unity, pow_add 2 1, pow_one, ← Nat.mul_assoc, ← pow_succ]
      _ ≤ mantissaOf (number * unity) 1 * 2 ^ (number.log2 + 1022) :=
        Nat.mul_le_mul mantissa (Nat.pow_le_pow_right (by decide) fits)

end Decimal

end Runbook
