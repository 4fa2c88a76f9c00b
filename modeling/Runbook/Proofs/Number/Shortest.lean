import Runbook.Proofs.Number.Decimal

set_option autoImplicit false

namespace Runbook

namespace Decimal

def IsWhole (decimal : Decimal) : Prop := 10 ^ (-decimal.exponent).toNat ∣ decimal.coefficient

end Decimal

namespace Magnitude

variable {rank : Nat}

theorem coefficient_exact (rank : Nat) :
    (exact rank).coefficient = units rank * 5 ^ unitExponent := by rw [exact, Nat.pow_eq]

theorem exponent_exact (rank : Nat) : (exact rank).exponent = -unitExponent := rfl

theorem rank_exact (positive : 0 < rank) (bounded : rank < count) : (exact rank).rank = rank := by
  have none : (-(unitExponent : Int)).toNat = 0 := by simp
  have all : (-(-(unitExponent : Int))).toNat = unitExponent := by simp
  rw [exact]
  apply Decimal.rank_eq_of_units positive bounded
  rw [none, all, Nat.pow_eq, pow_zero, Nat.mul_one, Nat.mul_assoc, unity, ← Nat.mul_pow]

theorem readsBack_iff {decimal : Decimal} : readsBack rank decimal = true ↔ decimal.rank = rank := by
  rw [readsBack, beq_iff_eq]

theorem shortestOf_eq (tie : Tie) (rank : Nat) (drops : List Nat) : shortestOf tie rank drops =
    (drops.findSome? fun dropped =>
      (neighbours tie rank dropped).find? (readsBack rank)).getD (exact rank) := rfl

theorem shortestOf_cases (tie : Tie) (rank : Nat) (drops : List Nat) :
    shortestOf tie rank drops = exact rank ∨
      ∃ before dropped after, drops = before ++ dropped :: after ∧
        shortestOf tie rank drops ∈ neighbours tie rank dropped ∧
        (shortestOf tie rank drops).rank = rank ∧
        ∀ earlier ∈ before, ∀ decimal ∈ neighbours tie rank earlier, decimal.rank ≠ rank := by
  cases found : drops.findSome? fun dropped =>
      (neighbours tie rank dropped).find? (readsBack rank) with
  | none => exact .inl (by rw [shortestOf_eq, found, Option.getD_none])
  | some decimal =>
    have chosen : shortestOf tie rank drops = decimal := by
      rw [shortestOf_eq, found, Option.getD_some]
    rw [chosen]
    obtain ⟨before, dropped, after, split', here, missed⟩ := List.findSome?_eq_some_iff.mp found
    have reads : decimal.rank = rank := readsBack_iff.mp (List.find?_some here)
    refine .inr ⟨before, dropped, after, split', List.mem_of_find?_eq_some here, reads, ?_⟩
    intro earlier among other member reads'
    exact List.find?_eq_none.mp (missed earlier among) other member (readsBack_iff.mpr reads')

theorem shortestOf_range (tie : Tie) (rank length limit : Nat) {chosen : Decimal}
    (search : chosen =
      shortestOf tie rank ((List.range limit).map fun kept => length - (kept + 1))) :
    chosen = exact rank ∨
      ∃ kept, 0 < kept ∧ chosen ∈ neighbours tie rank (length - kept) ∧ chosen.rank = rank ∧
        ∀ fewer, 0 < fewer → fewer < kept →
          ∀ decimal ∈ neighbours tie rank (length - fewer), decimal.rank ≠ rank := by
  subst search
  rcases shortestOf_cases tie rank ((List.range limit).map fun kept => length - (kept + 1)) with
    fallback | ⟨before, dropped, after, parts, among, reads, missed⟩
  next => exact .inl fallback
  next =>
    obtain ⟨front, back, range, rfl, tail⟩ := List.map_eq_append_iff.mp parts
    obtain ⟨kept, rest, rfl, rfl, rfl⟩ := List.map_eq_cons_iff.mp tail
    rw [List.range_eq_range', List.range'_eq_append_iff] at range
    obtain ⟨place, -, rfl, tail'⟩ := range
    obtain ⟨rfl, -⟩ := List.range'_eq_cons_iff.mp tail'.symm
    rw [Nat.zero_add, Nat.mul_one] at among
    refine .inr ⟨place + 1, Nat.succ_pos _, among, reads, fun fewer positive less => ?_⟩
    refine missed _ (List.mem_map.mpr ⟨fewer - 1, List.mem_range'_1.mpr (by omega), ?_⟩)
    rw [Nat.sub_add_cancel positive]

theorem shortest_cases (tie : Tie) (rank : Nat) : shortest tie rank = exact rank ∨
    ∃ kept, 0 < kept ∧
      shortest tie rank ∈
        neighbours tie rank (Decimal.digitCount (exact rank).coefficient - kept) ∧
      (shortest tie rank).rank = rank ∧
      ∀ fewer, 0 < fewer → fewer < kept →
        ∀ decimal ∈ neighbours tie rank (Decimal.digitCount (exact rank).coefficient - fewer),
          decimal.rank ≠ rank :=
  shortestOf_range tie rank _ 17 rfl

theorem rank_shortest (tie : Tie) (positive : 0 < rank) (bounded : rank < count) :
    (shortest tie rank).rank = rank := by
  rcases shortest_cases tie rank with fallback | ⟨kept, some, among, reads, shorter⟩
  next => rw [fallback, rank_exact positive bounded]
  next => exact reads

theorem exponent_of_mem_neighbours {tie : Tie} {dropped : Nat} {decimal : Decimal}
    (member : decimal ∈ neighbours tie rank dropped) :
    decimal.exponent = -unitExponent + dropped := by
  have exponent := exponent_exact rank
  unfold neighbours at member
  generalize exact rank = value at member exponent
  rw [← exponent]
  have either : ∀ first second : Decimal, decimal ∈ [first, second] →
      decimal = first ∨ decimal = second := by simp
  dsimp only at member
  split at member
  next => rw [List.mem_singleton.mp member]
  next => split at member <;> rcases either _ _ member with rfl | rfl <;> rfl

section Whole

variable {number : Nat}

theorem coefficient_whole (whole : units rank = number * unity) :
    (exact rank).coefficient = number * 10 ^ unitExponent := by
  rw [coefficient_exact, whole, unity, Nat.mul_assoc, ← Nat.mul_pow]

theorem neighbours_whole (tie : Tie) (whole : units rank = number * unity) :
    neighbours tie rank unitExponent = [⟨number, 0⟩] := by
  have coefficient := coefficient_whole whole
  have exponent := exponent_exact rank
  unfold neighbours
  generalize exact rank = value at coefficient exponent
  have rest : value.coefficient % 10 ^ unitExponent = 0 := by
    rw [coefficient, Nat.mul_mod_left]
  have quotient : value.coefficient / 10 ^ unitExponent = number := by
    rw [coefficient, Nat.mul_div_cancel _ (Nat.pow_pos (by decide))]
  have origin : value.exponent + unitExponent = 0 := by
    rw [exponent, Int.add_left_neg]
  simp only [Nat.pow_eq, rest, quotient, origin, if_true]

-- Stated of any unit, since the places of the exact decimal are too many to be computed with.
theorem places_of_kept {exponent : Int} {size unit kept : Nat}
    (value : exponent = -unit + (size + unit - kept : Nat)) (fits : kept ≤ size) :
    (-exponent).toNat = 0 := by omega

theorem isWhole_shortest (tie : Tie) (positive : 0 < rank) (bounded : rank < count)
    (whole : units rank = number * unity) : (shortest tie rank).IsWhole := by
  have nonzero : number ≠ 0 := by
    rintro rfl
    simp [(units_pos positive).ne'] at whole
  have length : Decimal.digitCount (exact rank).coefficient =
      Decimal.digitCount number + unitExponent := by
    rw [coefficient_whole whole, Decimal.digitCount_mul_pow nonzero]
  rcases shortest_cases tie rank with fallback | ⟨kept, some, among, reads, shorter⟩
  next =>
    rw [fallback, Decimal.IsWhole, coefficient_whole whole]
    have places : (-(exact rank).exponent).toNat = unitExponent := by simp [exponent_exact]
    rw [places]
    exact Nat.dvd_mul_left _ _
  next =>
    rw [length] at among shorter
    have exponent := exponent_of_mem_neighbours among
    by_cases fits : kept ≤ Decimal.digitCount number
    next =>
      rw [Decimal.IsWhole, places_of_kept exponent fits, pow_zero]
      exact Nat.one_dvd _
    next =>
      -- The number itself has fewer digits and reads back.
      have itself : Decimal.rank ⟨number, 0⟩ = rank := by
        apply Decimal.rank_eq_of_units positive bounded
        simp [whole]
      have refused := shorter _ (Decimal.digitCount_pos number) (Nat.lt_of_not_le fits) ⟨number, 0⟩
      rw [Nat.add_sub_cancel_left, neighbours_whole tie whole] at refused
      exact absurd itself (refused List.mem_cons_self)

end Whole

end Magnitude

end Runbook
