import Runbook.Proofs.Number.Decimal
import Mathlib.Algebra.Order.Field.Basic
import Mathlib.Data.Rat.Cast.Order
import Mathlib.Order.Monotone.Basic
import Mathlib.Tactic.Linarith
import Mathlib.Tactic.NormNum
import Mathlib.Tactic.FieldSimp

set_option autoImplicit false

namespace Runbook

namespace Magnitude

theorem rank_parts (rank : Nat) : ∃ octaves mantissa, rank = octaves * octave + mantissa ∧
    (octaves = 0 ∨ octave ≤ mantissa) ∧ mantissa < 2 * octave := by
  rcases rank_cases rank with low | ⟨octaves, mantissa, parts, low, high⟩
  next => exact ⟨0, rank, by simp, .inl rfl, by omega⟩
  next => exact ⟨octaves, mantissa, parts, .inr low, high⟩

theorem units_strictMono : StrictMono units := by
  refine strictMono_nat_of_lt_succ fun rank => ?_
  obtain ⟨octaves, mantissa, rfl, low, high⟩ := rank_parts rank
  rw [Nat.add_assoc, units_scaled low high.le, units_scaled (low.imp_right Nat.le_succ_of_le) high]
  exact Nat.mul_lt_mul_of_pos_right (Nat.lt_succ_self _) (Nat.two_pow_pos _)

theorem cast_units_lt {first second : Nat} (less : first < second) :
    (units first : ℚ) < units second :=
  Nat.cast_lt.mpr (units_strictMono less)

theorem cast_units_le {first second : Nat} (atMost : first ≤ second) :
    (units first : ℚ) ≤ units second :=
  Nat.cast_le.mpr (units_strictMono.monotone atMost)

/-- The finite binary64 numbers that are not negative: 53 bits times a power of two. -/
def IsBinary64 (value : ℚ) : Prop :=
  ∃ (mantissa : Nat) (scale : Int), mantissa < 2 ^ 53 ∧ -1074 ≤ scale ∧ scale ≤ 971 ∧
    value = mantissa * 2 ^ scale

def value (magnitude : Magnitude) : ℚ := units magnitude.rank / unity

theorem exists_units {octaves mantissa : Nat} (short : mantissa < 2 * octave)
    (few : octaves ≤ 2045) : ∃ rank < count, units rank = mantissa * 2 ^ octaves := by
  induction octaves generalizing mantissa with
  | zero =>
    refine ⟨0 * octave + mantissa, ?_, units_scaled (.inl rfl) short.le⟩
    rw [count]
    omega
  | succ octaves ih =>
    rcases Nat.lt_or_ge mantissa octave with small | large
    next =>
      obtain ⟨rank, bounded, same⟩ := @ih (2 * mantissa) (by omega) (by omega)
      refine ⟨rank, bounded, ?_⟩
      rw [same, pow_succ]
      ring
    next =>
      refine ⟨(octaves + 1) * octave + mantissa, ?_, units_scaled (.inr large) short.le⟩
      have room : (octaves + 1) * octave ≤ 2045 * octave := Nat.mul_le_mul_right _ few
      rw [count]
      omega

theorem unity_ne_zero : (unity : ℚ) ≠ 0 := Nat.cast_ne_zero.mpr unity_pos.ne'

theorem pow_scale {octaves : Nat} {scale : Int} (places : scale = octaves - 1074) :
    (2 : ℚ) ^ scale = 2 ^ octaves / unity := by
  rw [places, zpow_sub₀ two_ne_zero, unity_eq]
  norm_cast

theorem isBinary64_iff {value : ℚ} :
    IsBinary64 value ↔ ∃ magnitude : Magnitude, magnitude.value = value := by
  constructor
  next =>
    rintro ⟨mantissa, scale, short, least, greatest, rfl⟩
    obtain ⟨octaves, places⟩ := Int.eq_ofNat_of_zero_le (show 0 ≤ scale + 1074 by omega)
    obtain ⟨rank, bounded, same⟩ := @exists_units octaves mantissa short (by omega)
    refine ⟨⟨rank, bounded⟩, ?_⟩
    rw [Magnitude.value, same, @pow_scale octaves scale (by omega)]
    push_cast
    ring
  next =>
    rintro ⟨⟨rank, bounded⟩, rfl⟩
    obtain ⟨octaves, mantissa, rfl, low, high⟩ := rank_parts rank
    have few := octaves_le low bounded
    refine ⟨mantissa, octaves - 1074, high, by omega, by omega, ?_⟩
    rw [Magnitude.value, units_scaled low high.le, pow_scale rfl]
    push_cast
    ring

def overflow : ℚ := 2 ^ 1024 - 2 ^ 970

/-- The magnitude to which a number that is not negative is rounded: no other one is nearer, and
if another is as near, its last bit is zero. -/
structure Rounds (size : ℚ) (magnitude : Magnitude) : Prop where
  finite : size < overflow
  nearest : ∀ other, IsBinary64 other → |magnitude.value - size| ≤ |other - size|
  even : ∀ other, IsBinary64 other → other ≠ magnitude.value →
    |magnitude.value - size| = |other - size| → Even magnitude.rank

theorem isBinary64_value (magnitude : Magnitude) : IsBinary64 magnitude.value :=
  isBinary64_iff.mpr ⟨magnitude, rfl⟩

theorem value_lt {first second : Magnitude} (less : first.rank < second.rank) :
    first.value < second.value :=
  div_lt_div_of_pos_right (cast_units_lt less) (Nat.cast_pos.mpr unity_pos)

-- Of two magnitudes that are as near there is one in between, and it would be nearer.
theorem Rounds.not_lt {size : ℚ} {first second : Magnitude} (rounds : Rounds size first)
    (rounds' : Rounds size second) : ¬ first.rank < second.rank := by
  intro less
  have apart := value_lt less
  have asNear : |first.value - size| = |second.value - size| :=
    le_antisymm (rounds.nearest _ (isBinary64_value second))
      (rounds'.nearest _ (isBinary64_value first))
  obtain ⟨half, even⟩ := rounds.even _ (isBinary64_value second) apart.ne' asNear
  obtain ⟨half', even'⟩ := rounds'.even _ (isBinary64_value first) apart.ne asNear.symm
  let middle : Magnitude := ⟨first.rank + 1, Nat.lt_of_le_of_lt less second.bounded⟩
  have lower : first.value < middle.value := value_lt (Nat.lt_succ_self first.rank)
  have upper : middle.value < second.value := value_lt (show first.rank + 1 < second.rank by omega)
  have nearer : |middle.value - size| < |first.value - size| := by
    refine abs_lt.mpr ⟨?_, ?_⟩
    next => linarith [neg_abs_le (first.value - size)]
    next =>
      rw [asNear]
      linarith [le_abs_self (second.value - size)]
  exact absurd (rounds.nearest _ (isBinary64_value middle)) (not_le.mpr nearer)

theorem Rounds.unique {size : ℚ} {first second : Magnitude} (rounds : Rounds size first)
    (rounds' : Rounds size second) : first = second := by
  have same : first.rank = second.rank :=
    Nat.le_antisymm (Nat.le_of_not_lt (rounds'.not_lt rounds))
      (Nat.le_of_not_lt (rounds.not_lt rounds'))
  cases first
  cases second
  exact Magnitude.mk.injEq .. ▸ same

-- A rank that its neighbours are no nearer than to a place on the scale of units, also beyond the
-- greatest magnitude. Of two that are as near, it is the even one.
structure Settles (rank : Nat) (place : ℚ) : Prop where
  above : 2 * place ≤ units rank + units (rank + 1)
  aboveTie : 2 * place = units rank + units (rank + 1) → Even rank
  below : ∀ before, rank = before + 1 → (units before + units rank : ℚ) ≤ 2 * place
  belowTie : ∀ before, rank = before + 1 →
    (units before + units rank : ℚ) = 2 * place → Even rank

section Distance

variable {first second place : ℚ}

theorem abs_sub_le_of_above (above : first ≤ second) (middle : 2 * place ≤ first + second) :
    |first - place| ≤ |second - place| :=
  abs_le.mpr
    ⟨by linarith [le_abs_self (second - place)], by linarith [le_abs_self (second - place)]⟩

theorem abs_sub_le_of_below (below : second ≤ first) (middle : second + first ≤ 2 * place) :
    |first - place| ≤ |second - place| :=
  abs_le.mpr ⟨by linarith [neg_abs_le (second - place)], by linarith [neg_abs_le (second - place)]⟩

theorem middle_of_abs_sub_eq (apart : first ≠ second)
    (asNear : |first - place| = |second - place|) : 2 * place = first + second := by
  rcases abs_eq_abs.mp asNear with same | opposite
  next => exact absurd (sub_left_injective same) apart
  next => linarith

end Distance

namespace Settles

variable {rank : Nat} {place : ℚ} (settles : Settles rank place)

include settles

theorem nearest (other : Nat) : |(units rank : ℚ) - place| ≤ |(units other : ℚ) - place| := by
  rcases lt_trichotomy rank other with less | rfl | more
  next =>
    have next : (units (rank + 1) : ℚ) ≤ units other := cast_units_le less
    exact abs_sub_le_of_above (cast_units_lt less).le
      (settles.above.trans (add_le_add_right next _))
  next => exact le_rfl
  next =>
    obtain ⟨before, rfl⟩ := Nat.exists_eq_succ_of_ne_zero (Nat.ne_zero_of_lt more)
    have previous : (units other : ℚ) ≤ units before := cast_units_le (Nat.le_of_lt_succ more)
    exact abs_sub_le_of_below (cast_units_lt more).le
      ((add_le_add_left previous _).trans (settles.below before rfl))

theorem even {other : Nat} (different : other ≠ rank)
    (asNear : |(units rank : ℚ) - place| = |(units other : ℚ) - place|) : Even rank := by
  have apart : (units rank : ℚ) ≠ units other :=
    Nat.cast_injective.ne (units_strictMono.injective.ne different.symm)
  have middle := middle_of_abs_sub_eq apart asNear
  rcases lt_or_gt_of_ne different with more | less
  next =>
    obtain ⟨before, rfl⟩ := Nat.exists_eq_succ_of_ne_zero (Nat.ne_zero_of_lt more)
    have previous : (units other : ℚ) ≤ units before := cast_units_le (Nat.le_of_lt_succ more)
    exact settles.belowTie before rfl (le_antisymm (settles.below before rfl) (by linarith))
  next =>
    have next : (units (rank + 1) : ℚ) ≤ units other := cast_units_le less
    exact settles.aboveTie (le_antisymm settles.above (by linarith))

end Settles

theorem count_parts : count = 2046 * octave + octave := by
  rw [count]
  ring

theorem last_parts : count - 1 = 2045 * octave + (2 * octave - 1) := by decide

theorem units_count : units count = 2 ^ 1024 * unity := by
  rw [count_parts, units_scaled (.inr le_rfl) (by decide), octave_eq, unity_eq, ← pow_add,
    ← pow_add]

theorem units_last : units (count - 1) + 2 ^ 2045 = 2 ^ 1024 * unity := by
  rw [last_parts, units_scaled (.inr (by decide)) (by decide), octave_eq, ← pow_succ',
    ← Nat.succ_mul, unity_eq, ← pow_add, Nat.succ_eq_add_one, Nat.sub_add_cancel (by decide),
    ← pow_add]

theorem units_last_add_units_count :
    (units (count - 1) + units count : ℚ) = 2 * (overflow * unity) := by
  have last : (units (count - 1) : ℚ) = 2 ^ 1024 * unity - 2 ^ 2045 := by
    have sum : ((units (count - 1) + 2 ^ 2045 : Nat) : ℚ) = (2 ^ 1024 * unity : Nat) :=
      congrArg Nat.cast units_last
    rw [Nat.cast_add, Nat.cast_mul, Nat.cast_pow, Nat.cast_pow, Nat.cast_ofNat] at sum
    rw [← sum, add_sub_cancel_right]
  have half : (2 : ℚ) ^ 2045 = 2 * (2 ^ 970 * unity) := by
    rw [unity_eq, Nat.cast_pow, Nat.cast_ofNat, ← pow_add, ← pow_succ']
  rw [last, half, units_count, overflow, Nat.cast_mul, Nat.cast_pow, Nat.cast_ofNat, sub_mul]
  generalize (2 : ℚ) ^ 1024 * unity = greatest
  generalize (2 : ℚ) ^ 970 * unity = step
  ring

theorem odd_last : ¬ Even (count - 1) := by decide

namespace Settles

variable {rank : Nat} {size : ℚ} (settles : Settles rank (size * unity))

include settles

theorem lt_count_iff : rank < count ↔ size < overflow := by
  have positive : (0 : ℚ) < unity := Nat.cast_pos.mpr unity_pos
  have middle := units_last_add_units_count
  have last : count - 1 + 1 = count := Nat.sub_add_cancel (by decide)
  constructor
  next =>
    intro bounded
    have rank' : (units rank : ℚ) ≤ units (count - 1) :=
      cast_units_le (Nat.le_sub_one_of_lt bounded)
    have next : (units (rank + 1) : ℚ) ≤ units count := cast_units_le bounded
    have above := settles.above
    refine lt_of_mul_lt_mul_right (lt_of_le_of_ne (by linarith) fun tie => ?_) positive.le
    -- At the overflow itself only the last rank is left, and that is odd.
    have same : (units rank : ℚ) = units (count - 1) := le_antisymm rank' (by linarith)
    obtain rfl : rank = count - 1 := units_strictMono.injective (Nat.cast_injective same)
    exact odd_last (settles.aboveTie (by rw [last, middle, tie]))
  next =>
    intro finite
    by_contra beyond
    obtain ⟨before, rfl⟩ := Nat.exists_eq_succ_of_ne_zero
      (show rank ≠ 0 by rintro rfl; exact beyond (by decide))
    have rank' : (units count : ℚ) ≤ units (before + 1) :=
      cast_units_le (Nat.le_of_not_lt beyond)
    have previous : (units (count - 1) : ℚ) ≤ units before := cast_units_le (by omega)
    have below := settles.below before rfl
    have inside := mul_lt_mul_of_pos_right finite positive
    linarith

end Settles

end Magnitude

open Magnitude

namespace Decimal

theorem roundDiv_cases (numerator denominator : Nat) :
    (roundDiv numerator denominator = numerator / denominator ∧
      2 * (numerator % denominator) ≤ denominator ∧
      (2 * (numerator % denominator) = denominator → Even (roundDiv numerator denominator))) ∨
    (roundDiv numerator denominator = numerator / denominator + 1 ∧
      denominator ≤ 2 * (numerator % denominator) ∧
      (denominator = 2 * (numerator % denominator) → Even (roundDiv numerator denominator))) := by
  simp only [roundDiv, Bool.or_eq_true, Bool.and_eq_true, decide_eq_true_eq, beq_iff_eq,
    Nat.even_iff]
  split
  next up => exact .inr ⟨rfl, by omega, by omega⟩
  next down => exact .inl ⟨rfl, by omega, by omega⟩

section Ratio

variable {numerator denominator : Nat}

theorem even_rankOfRatio (even : Even (mantissaOf numerator denominator)) :
    Even (rankOfRatio numerator denominator) := by
  have octave' : Even octave := by decide
  rw [rankOfRatio_eq]
  exact (octave'.mul_left _).add even

theorem le_units_rankOfRatio_succ :
    (mantissaOf numerator denominator + 1) * 2 ^ octavesOf numerator denominator ≤
      units (rankOfRatio numerator denominator + 1) := by
  have low := (Nat.eq_zero_or_pos (octavesOf numerator denominator)).imp_right
    (@le_mantissaOf numerator denominator)
  rw [rankOfRatio_eq]
  rcases Nat.lt_or_eq_of_le (mantissaOf_le numerator denominator) with inside | ended
  next => rw [Nat.add_assoc, units_scaled (low.imp_right Nat.le_succ_of_le) inside]
  next =>
    rw [ended]
    generalize octavesOf numerator denominator = octaves
    have place : octaves * octave + 2 * octave + 1 = (octaves + 1) * octave + (octave + 1) := by
      ring
    have most : octave + 1 ≤ 2 * octave := by decide
    rw [place, units_scaled (.inr (Nat.le_succ _)) most, pow_succ']
    nlinarith [Nat.two_pow_pos octaves]

theorem units_of_rankOfRatio_eq_succ {before : Nat}
    (rank : rankOfRatio numerator denominator = before + 1)
    (up : mantissaOf numerator denominator =
      numerator / (denominator * 2 ^ octavesOf numerator denominator) + 1) :
    units before = numerator / (denominator * 2 ^ octavesOf numerator denominator) *
      2 ^ octavesOf numerator denominator := by
  have low := (Nat.eq_zero_or_pos (octavesOf numerator denominator)).imp_right
    (@octave_le_scaled numerator denominator)
  have high := mantissaOf_le numerator denominator
  rw [up] at high
  rw [rankOfRatio_eq, up, ← Nat.add_assoc] at rank
  rw [← Nat.succ.inj rank, units_scaled low (Nat.le_of_succ_le high)]

section Place

variable (numerator : Nat) {denominator step : Nat} (positive : 0 < denominator)

include positive

theorem place_eq : (numerator / denominator : ℚ) =
    (numerator / (denominator * step) : Nat) * step +
      (numerator % (denominator * step) : Nat) / denominator := by
  have positive' : (0 : ℚ) < denominator := Nat.cast_pos.mpr positive
  conv_lhs => rw [← Nat.div_add_mod numerator (denominator * step)]
  push_cast
  field_simp

theorem rest_lt (some : 0 < step) :
    ((numerator % (denominator * step) : Nat) / denominator : ℚ) < step := by
  rw [div_lt_iff₀' (Nat.cast_pos.mpr positive)]
  exact_mod_cast Nat.mod_lt numerator (Nat.mul_pos positive some)

theorem twice_rest_le_iff {rest : Nat} :
    (2 * (rest / denominator) : ℚ) ≤ step ↔ 2 * rest ≤ denominator * step := by
  rw [← mul_div_assoc, div_le_iff₀' (Nat.cast_pos.mpr positive)]
  norm_cast

theorem le_twice_rest_iff {rest : Nat} :
    (step : ℚ) ≤ 2 * (rest / denominator) ↔ denominator * step ≤ 2 * rest := by
  rw [← mul_div_assoc, le_div_iff₀' (Nat.cast_pos.mpr positive)]
  norm_cast

end Place

theorem settles_rankOfRatio (positive : 0 < denominator) :
    Settles (rankOfRatio numerator denominator) (numerator / denominator) := by
  have value := units_rankOfRatio numerator denominator
  have next := @le_units_rankOfRatio_succ numerator denominator
  have before := @units_of_rankOfRatio_eq_succ numerator denominator
  have even := @even_rankOfRatio numerator denominator
  have some := Nat.two_pow_pos (octavesOf numerator denominator)
  rw [mantissaOf] at *
  generalize rankOfRatio numerator denominator = rank at *
  generalize 2 ^ octavesOf numerator denominator = step at *
  have cases := roundDiv_cases numerator (denominator * step)
  generalize roundDiv numerator (denominator * step) = mantissa at *
  have short := rest_lt numerator positive some
  rw [@place_eq numerator denominator step positive]
  generalize numerator / (denominator * step) = quotient at *
  generalize numerator % (denominator * step) = rest at *
  have least : (0 : ℚ) ≤ rest / denominator := div_nonneg (Nat.cast_nonneg _) (Nat.cast_nonneg _)
  have strict : (units rank : ℚ) < units (rank + 1) := cast_units_lt (Nat.lt_succ_self rank)
  have value' : (units rank : ℚ) = mantissa * step := by exact_mod_cast value
  have next' : ((mantissa + 1) * step : ℚ) ≤ units (rank + 1) := by exact_mod_cast next
  rcases cases with ⟨rfl, half, tie⟩ | ⟨rfl, half, tie⟩
  next =>
    have half' := (twice_rest_le_iff positive).mpr half
    have lower {previous : Nat} (follows : rank = previous + 1) :
        (units previous : ℚ) < units rank := cast_units_lt (follows ▸ Nat.lt_succ_self previous)
    refine ⟨by linarith, fun same => even (tie (half.antisymm ?_)),
      fun previous follows => by linarith [lower follows],
      fun previous follows same => by linarith [lower follows]⟩
    exact (le_twice_rest_iff positive).mp (by linarith)
  next =>
    have half' := (le_twice_rest_iff positive).mpr half
    push_cast at value'
    have lower {previous : Nat} (follows : rank = previous + 1) :
        (units previous : ℚ) = quotient * step := by exact_mod_cast before follows rfl
    refine ⟨by linarith, fun same => by linarith,
      fun previous follows => by linarith [lower follows],
      fun previous follows same => even (tie (half.antisymm ?_))⟩
    exact (twice_rest_le_iff positive).mp (by linarith [lower follows])

end Ratio

def size (decimal : Decimal) : ℚ := decimal.coefficient * 10 ^ decimal.exponent

theorem pow_exponent (exponent : Int) :
    (10 : ℚ) ^ exponent = 10 ^ exponent.toNat / 10 ^ (-exponent).toNat := by
  rw [← zpow_natCast, ← zpow_natCast, ← zpow_sub₀ (by norm_num)]
  congr 1
  omega

theorem settles_exactRank (decimal : Decimal) :
    Settles decimal.exactRank (decimal.size * unity) := by
  have settles : Settles decimal.exactRank _ := exactRank_eq decimal ▸
    settles_rankOfRatio (Nat.pow_pos (by decide))
  have place : decimal.size * unity =
      (decimal.coefficient * 10 ^ decimal.exponent.toNat * unity : Nat) /
        (10 ^ (-decimal.exponent).toNat : Nat) := by
    rw [size, pow_exponent]
    push_cast
    ring
  rwa [place]

theorem size_lt (decimal : Decimal) :
    decimal.size < 10 ^ (digitCount decimal.coefficient + decimal.exponent) := by
  have below : (decimal.coefficient : ℚ) < 10 ^ digitCount decimal.coefficient := by
    exact_mod_cast lt_pow_digitCount decimal.coefficient
  rw [size, zpow_add₀ (by norm_num), zpow_natCast]
  exact mul_lt_mul_of_pos_right below (zpow_pos (by norm_num) _)

variable {decimal : Decimal}

theorem le_size (nonzero : decimal.coefficient ≠ 0) :
    10 ^ (digitCount decimal.coefficient + decimal.exponent - 1) ≤ decimal.size := by
  have size' := digitCount_pos decimal.coefficient
  have least : (10 : ℚ) ^ (digitCount decimal.coefficient - 1) ≤ decimal.coefficient := by
    exact_mod_cast pow_le_of_digitCount nonzero
  have places : (digitCount decimal.coefficient + decimal.exponent - 1 : Int) =
      (digitCount decimal.coefficient - 1 : Nat) + decimal.exponent := by omega
  rw [size, places, zpow_add₀ (by norm_num), zpow_natCast]
  exact mul_le_mul_of_nonneg_right least (zpow_pos (by norm_num) _).le

theorem settles_zero {place : ℚ} (small : 2 * place < 1) : Settles 0 place := by
  have one : (units (0 + 1) : ℚ) = 1 := Nat.cast_eq_one.mpr (units_of_lt (by decide))
  have zero : (units 0 : ℚ) = 0 := Nat.cast_eq_zero.mpr (units_of_lt octave_pos)
  refine ⟨?_, fun _ => Even.zero, fun before follows => ?_, fun _ _ _ => Even.zero⟩
  next =>
    rw [one, zero]
    linarith
  next => cases follows

theorem overflow_lt_pow : overflow < 10 ^ 309 := by
  have scaled : 2 ^ 1024 * unity ≤ 10 ^ 309 * unity := by
    refine le_of_eq_of_le ?_ units_bound
    rw [unity, pow_add]
  have bound : 2 ^ 1024 ≤ 10 ^ 309 := Nat.le_of_mul_le_mul_right scaled unity_pos
  have bound' : ((2 ^ 1024 : Nat) : ℚ) ≤ (10 ^ 309 : Nat) := Nat.cast_le.mpr bound
  rw [Nat.cast_pow, Nat.cast_pow, Nat.cast_ofNat, Nat.cast_ofNat] at bound'
  exact (sub_lt_self _ (pow_pos two_pos _)).trans_le bound'

theorem twice_unity_lt : 2 * unity < 10 ^ 324 := by decide +kernel

theorem rank_eq_exactRank (nonzero : decimal.coefficient ≠ 0)
    (high : ¬ 310 ≤ (digitCount decimal.coefficient + decimal.exponent : Int))
    (low : ¬ (digitCount decimal.coefficient + decimal.exponent : Int) ≤ -324) :
    decimal.rank = decimal.exactRank := by
  simp only [rank, nonzero, high, low, if_false]

theorem rank_of_high (nonzero : decimal.coefficient ≠ 0)
    (high : 310 ≤ (digitCount decimal.coefficient + decimal.exponent : Int)) :
    decimal.rank = count ∧ overflow ≤ decimal.size := by
  refine ⟨by simp only [rank, nonzero, high, if_true, if_false], ?_⟩
  calc overflow
    _ ≤ 10 ^ (309 : Int) := overflow_lt_pow.le
    _ ≤ 10 ^ (digitCount decimal.coefficient + decimal.exponent - 1 : Int) :=
      zpow_le_zpow_right₀ (by norm_num) (by omega)
    _ ≤ decimal.size := le_size nonzero

theorem place_lt_of_low (low : (digitCount decimal.coefficient + decimal.exponent : Int) ≤ -324) :
    2 * (decimal.size * unity) < 1 := by
  have positive : (0 : ℚ) < unity := Nat.cast_pos.mpr unity_pos
  have least : ((2 * unity : Nat) : ℚ) < (10 ^ 324 : Nat) := Nat.cast_lt.mpr twice_unity_lt
  rw [Nat.cast_mul, Nat.cast_pow, Nat.cast_ofNat, Nat.cast_ofNat] at least
  have size : decimal.size < (10 ^ 324)⁻¹ :=
    calc decimal.size
      _ < 10 ^ (digitCount decimal.coefficient + decimal.exponent : Int) := size_lt decimal
      _ ≤ 10 ^ (-(324 : Nat) : Int) := zpow_le_zpow_right₀ (by norm_num) low
      _ = (10 ^ 324)⁻¹ := by rw [zpow_neg, zpow_natCast]
  calc 2 * (decimal.size * unity)
    _ = decimal.size * (2 * unity) := by ring
    _ < (10 ^ 324)⁻¹ * (2 * unity) := mul_lt_mul_of_pos_right size (by linarith)
    _ ≤ (10 ^ 324)⁻¹ * 10 ^ 324 :=
      mul_le_mul_of_nonneg_left least.le (inv_nonneg.mpr (pow_nonneg (by norm_num) _))
    _ = 1 := inv_mul_cancel₀ (pow_ne_zero _ (by norm_num))

theorem rank_nearest (decimal : Decimal) :
    (decimal.size < overflow ∧ decimal.rank < count ∧
        Settles decimal.rank (decimal.size * unity)) ∨
      (overflow ≤ decimal.size ∧ count ≤ decimal.rank) := by
  have settled (settles : Settles decimal.rank (decimal.size * unity)) :
      (decimal.size < overflow ∧ decimal.rank < count ∧
        Settles decimal.rank (decimal.size * unity)) ∨
      (overflow ≤ decimal.size ∧ count ≤ decimal.rank) := by
    rcases Nat.lt_or_ge decimal.rank count with finite | beyond
    next => exact .inl ⟨settles.lt_count_iff.mp finite, finite, settles⟩
    next =>
      have large : overflow ≤ decimal.size :=
        le_of_not_gt fun finite => beyond.not_gt (settles.lt_count_iff.mpr finite)
      exact .inr ⟨large, beyond⟩
  by_cases zero : decimal.coefficient = 0
  next =>
    refine settled ?_
    rw [rank, if_pos zero, size, zero, Nat.cast_zero, zero_mul, zero_mul]
    exact settles_zero (by rw [mul_zero]; exact one_pos)
  next =>
    by_cases high : 310 ≤ (digitCount decimal.coefficient + decimal.exponent : Int)
    next =>
      obtain ⟨rank, size⟩ := rank_of_high zero high
      exact .inr ⟨size, rank.ge⟩
    next =>
      refine settled ?_
      by_cases low : (digitCount decimal.coefficient + decimal.exponent : Int) ≤ -324
      next =>
        simp only [rank, zero, high, low, if_true, if_false]
        exact settles_zero (place_lt_of_low low)
      next =>
        rw [rank_eq_exactRank zero high low]
        exact settles_exactRank decimal

theorem rounds_of_settles {size : ℚ} {magnitude : Magnitude} (finite : size < overflow)
    (settles : Settles magnitude.rank (size * unity)) : Rounds size magnitude := by
  have distance (other : Magnitude) : |other.value - size| =
      |(units other.rank : ℚ) - size * unity| / unity := by
    have positive : (0 : ℚ) < unity := Nat.cast_pos.mpr unity_pos
    rw [value, ← abs_of_pos positive, ← abs_div, abs_of_pos positive, sub_div,
      mul_div_cancel_right₀ _ positive.ne']
  refine ⟨finite, fun value' binary => ?_, fun value' binary different asNear => ?_⟩
  next =>
    obtain ⟨other, rfl⟩ := isBinary64_iff.mp binary
    rw [distance, distance]
    exact div_le_div_of_nonneg_right (settles.nearest other.rank) (Nat.cast_nonneg _)
  next =>
    obtain ⟨other, rfl⟩ := isBinary64_iff.mp binary
    rw [distance, distance, div_left_inj' unity_ne_zero] at asNear
    refine settles.even (fun same => different ?_) asNear
    rw [value, value, same]

theorem toNumber_eq_finite_iff {magnitude : Magnitude} {negative : Bool} :
    decimal.toNumber negative = .finite negative magnitude ↔ Rounds decimal.size magnitude := by
  rcases rank_nearest decimal with ⟨finite, bounded, settles⟩ | ⟨beyond, large⟩
  next =>
    have rounds : Rounds decimal.size ⟨decimal.rank, bounded⟩ := rounds_of_settles finite settles
    rw [toNumber, dif_pos bounded, Number.finite.injEq, and_iff_right rfl]
    exact ⟨fun same => same ▸ rounds, rounds.unique⟩
  next =>
    rw [toNumber, dif_neg (not_lt.mpr large)]
    refine iff_of_false (fun same => by cases same) fun rounds => ?_
    exact absurd rounds.finite (not_lt.mpr beyond)

end Decimal

end Runbook
