import Runbook.Number.Shortest
import Mathlib.Data.Nat.Log
import Mathlib.Tactic.Ring

set_option autoImplicit false

namespace Runbook

namespace Magnitude

theorem octave_eq : octave = 2 ^ 52 := rfl

theorem octave_pos : 0 < octave := by decide

theorem units_of_lt {rank : Nat} (low : rank < octave) : units rank = rank := by
  simp [units, Nat.div_eq_of_lt low]

theorem units_octaves {octaves mantissa : Nat} (low : octave ≤ mantissa)
    (high : mantissa ≤ 2 * octave) :
    units (octaves * octave + mantissa) = mantissa * 2 ^ octaves := by
  have place : (octaves * octave + mantissa) / octave = mantissa / octave + octaves := by
    rw [Nat.add_comm, Nat.add_mul_div_right _ _ octave_pos]
  rcases Nat.lt_or_eq_of_le high with inside | rfl
  next =>
    have one : mantissa / octave = 1 := by
      rw [octave_eq] at *
      omega
    rw [units, place, one, Nat.add_sub_cancel_left, Nat.add_sub_cancel_left, Nat.pow_eq]
  next =>
    have rest : octaves * octave + 2 * octave - (octaves + 1) * octave = octave := by
      rw [Nat.add_mul]
      omega
    have next : 2 + octaves - 1 = octaves + 1 := by omega
    rw [units, place, Nat.mul_div_cancel _ octave_pos, next, rest, Nat.pow_eq, pow_succ]
    ring

theorem units_scaled {octaves mantissa : Nat} (low : octaves = 0 ∨ octave ≤ mantissa)
    (high : mantissa ≤ 2 * octave) :
    units (octaves * octave + mantissa) = mantissa * 2 ^ octaves := by
  rcases Nat.lt_or_ge mantissa octave with small | large
  next =>
    obtain rfl : octaves = 0 := low.resolve_right (not_le.mpr small)
    simpa using units_of_lt small
  next => exact units_octaves large high

theorem rank_cases (rank : Nat) : rank < octave ∨
    ∃ octaves mantissa, rank = octaves * octave + mantissa ∧ octave ≤ mantissa ∧
      mantissa < 2 * octave := by
  rcases Nat.lt_or_ge rank octave with low | high
  next => exact .inl low
  next =>
    have positive : 1 ≤ rank / octave := (Nat.one_le_div_iff octave_pos).mpr high
    have parts := Nat.div_add_mod rank octave
    have rest := Nat.mod_lt rank octave_pos
    refine .inr ⟨rank / octave - 1, octave + rank % octave, ?_, by omega, by omega⟩
    have whole : (rank / octave - 1) * octave + octave = octave * (rank / octave) := by
      rw [← Nat.succ_mul, Nat.succ_eq_add_one, Nat.sub_add_cancel positive, Nat.mul_comm]
    omega

theorem octaves_le {octaves mantissa : Nat} (low : octaves = 0 ∨ octave ≤ mantissa)
    (bounded : octaves * octave + mantissa < count) : octaves ≤ 2045 := by
  by_contra many
  have beyond : 2046 * octave ≤ octaves * octave := Nat.mul_le_mul_right _ (by omega)
  rw [count, octave_eq] at *
  omega

theorem units_lt {rank : Nat} (bounded : rank < count) :
    units rank < 2 ^ (1024 + unitExponent) := by
  rcases rank_cases rank with low | ⟨octaves, mantissa, rfl, low, high⟩
  next =>
    rw [units_of_lt low]
    rw [octave_eq] at low
    exact low.trans_le (Nat.pow_le_pow_right (by decide) (by decide))
  next =>
    have few := octaves_le (.inr low) bounded
    have places : 53 + octaves ≤ 1024 + unitExponent := by
      rw [unitExponent]
      omega
    calc units (octaves * octave + mantissa)
      _ = mantissa * 2 ^ octaves := units_octaves low high.le
      _ < 2 * octave * 2 ^ octaves := Nat.mul_lt_mul_of_pos_right high (Nat.two_pow_pos _)
      _ = 2 ^ (53 + octaves) := by rw [octave_eq, ← pow_succ', ← pow_add]
      _ ≤ 2 ^ (1024 + unitExponent) := Nat.pow_le_pow_right (by decide) places

theorem units_pos {rank : Nat} (positive : 0 < rank) : 0 < units rank := by
  rcases rank_cases rank with low | ⟨octaves, mantissa, rfl, low, high⟩
  next => rwa [units_of_lt low]
  next =>
    rw [units_octaves low high.le]
    exact Nat.mul_pos (octave_pos.trans_le low) (Nat.two_pow_pos _)

end Magnitude

open Magnitude

namespace Decimal

theorem roundDiv_mul_right {factor : Nat} (positive : 0 < factor) (numerator denominator : Nat) :
    roundDiv (numerator * factor) (denominator * factor) = roundDiv numerator denominator := by
  have twice : 2 * (numerator * factor % (denominator * factor)) =
      2 * (numerator % denominator) * factor := by
    rw [Nat.mul_mod_mul_right, Nat.mul_assoc]
  have tie : (2 * (numerator % denominator) * factor == denominator * factor) =
      (2 * (numerator % denominator) == denominator) := by
    rw [Bool.eq_iff_iff, beq_iff_eq, beq_iff_eq, Nat.mul_left_inj positive.ne']
  simp only [roundDiv, Nat.mul_div_mul_right _ _ positive, twice, tie,
    Nat.mul_lt_mul_right positive]

theorem roundDiv_mul {denominator : Nat} (positive : 0 < denominator) (quotient : Nat) :
    roundDiv (quotient * denominator) denominator = quotient := by
  simp [roundDiv, Nat.mul_div_cancel _ positive, positive.ne]

theorem div_le_roundDiv (numerator denominator : Nat) :
    numerator / denominator ≤ roundDiv numerator denominator := by
  rw [roundDiv]
  split <;> omega

theorem roundDiv_le_succ (numerator denominator : Nat) :
    roundDiv numerator denominator ≤ numerator / denominator + 1 := by
  rw [roundDiv]
  split <;> omega

theorem rankOfRatio_mul_right {factor : Nat} (positive : 0 < factor) (numerator denominator : Nat) :
    rankOfRatio (numerator * factor) (denominator * factor) =
      rankOfRatio numerator denominator := by
  simp only [rankOfRatio, Nat.mul_div_mul_right _ _ positive]
  rw [Nat.mul_right_comm denominator factor, roundDiv_mul_right positive]

theorem rankOfRatio_congr {numerator denominator numerator' denominator' : Nat}
    (positive : 0 < denominator) (positive' : 0 < denominator')
    (same : numerator * denominator' = numerator' * denominator) :
    rankOfRatio numerator denominator = rankOfRatio numerator' denominator' := by
  rw [← rankOfRatio_mul_right positive' numerator, same, Nat.mul_comm denominator,
    rankOfRatio_mul_right positive]

def octavesOf (numerator denominator : Nat) : Nat := Nat.log2 (numerator / denominator) - 52

def mantissaOf (numerator denominator : Nat) : Nat :=
  roundDiv numerator (denominator * 2 ^ octavesOf numerator denominator)

theorem rankOfRatio_eq (numerator denominator : Nat) : rankOfRatio numerator denominator =
    octavesOf numerator denominator * octave + mantissaOf numerator denominator := rfl

theorem mantissaOf_le (numerator denominator : Nat) :
    mantissaOf numerator denominator ≤ 2 * octave := by
  refine (roundDiv_le_succ _ _).trans ?_
  rw [← Nat.div_div_eq_div_mul, Nat.succ_le_iff, Nat.div_lt_iff_lt_mul (Nat.two_pow_pos _)]
  have below : numerator / denominator < 2 ^ ((numerator / denominator).log2 + 1) :=
    Nat.lt_log2_self
  calc numerator / denominator
    _ < 2 ^ ((numerator / denominator).log2 + 1) := below
    _ ≤ 2 ^ (53 + octavesOf numerator denominator) :=
      Nat.pow_le_pow_right (by decide) (by rw [octavesOf]; omega)
    _ = 2 * octave * 2 ^ octavesOf numerator denominator := by
      rw [pow_add, octave_eq, ← pow_succ']

theorem octave_le_scaled {numerator denominator : Nat}
    (scaled : 0 < octavesOf numerator denominator) :
    octave ≤ numerator / (denominator * 2 ^ octavesOf numerator denominator) := by
  rw [octavesOf] at scaled
  have nonzero : numerator / denominator ≠ 0 := by
    intro zero
    simp [zero] at scaled
  rw [← Nat.div_div_eq_div_mul, Nat.le_div_iff_mul_le (Nat.two_pow_pos _), octave_eq, ← pow_add,
    octavesOf, Nat.add_sub_cancel' (by omega)]
  exact Nat.log2_self_le nonzero

theorem le_mantissaOf {numerator denominator : Nat} (scaled : 0 < octavesOf numerator denominator) :
    octave ≤ mantissaOf numerator denominator :=
  (octave_le_scaled scaled).trans (div_le_roundDiv _ _)

theorem units_rankOfRatio (numerator denominator : Nat) :
    units (rankOfRatio numerator denominator) =
      mantissaOf numerator denominator * 2 ^ octavesOf numerator denominator := by
  rw [rankOfRatio_eq]
  refine units_scaled ?_ (mantissaOf_le _ _)
  exact (Nat.eq_zero_or_pos (octavesOf numerator denominator)).imp_right le_mantissaOf

theorem rankOfRatio_units (rank : Nat) : rankOfRatio (units rank) 1 = rank := by
  rcases rank_cases rank with low | ⟨octaves, mantissa, rfl, low, high⟩
  next =>
    have none : octavesOf rank 1 = 0 := by
      have bits : rank.log2 ≤ 52 := by
        rw [octave_eq] at low
        rw [Nat.log2_eq_log_two]
        exact (Nat.log_mono_right low.le).trans_eq (Nat.log_pow one_lt_two 52)
      simp [octavesOf, bits]
    rw [units_of_lt low, rankOfRatio_eq, mantissaOf, none]
    simpa using roundDiv_mul one_pos rank
  next =>
    have positive : mantissa * 2 ^ octaves ≠ 0 :=
      (Nat.mul_pos (octave_pos.trans_le low) (Nat.two_pow_pos _)).ne'
    have bits : (mantissa * 2 ^ octaves).log2 = 52 + octaves := by
      rw [octave_eq] at low high
      rw [Nat.log2_eq_iff positive, Nat.add_right_comm, pow_add, pow_add]
      exact ⟨Nat.mul_le_mul_right _ low,
        Nat.mul_lt_mul_of_pos_right (by omega) (Nat.two_pow_pos _)⟩
    have scaled : octavesOf (mantissa * 2 ^ octaves) 1 = octaves := by
      rw [octavesOf, Nat.div_one, bits, Nat.add_sub_cancel_left]
    rw [units_octaves low high.le, rankOfRatio_eq, mantissaOf, scaled, Nat.one_mul,
      roundDiv_mul (Nat.two_pow_pos _)]

end Decimal

end Runbook
