import Runbook.Number.Layout
import Mathlib.Data.List.DropRight

set_option autoImplicit false

namespace Runbook

namespace Layout

def isReported (c : Char) : Bool := c.isDigit || "-.infNa".toList.contains c

theorem isReported_zero : isReported '0' = true := by decide

theorem isReported_point : isReported '.' = true := by decide

theorem isReported_of_mem_toDigits {number : Nat} {c : Char} (member : c ∈ Nat.toDigits 10 number) :
    isReported c = true := by
  simp [isReported, Nat.isDigit_of_mem_toDigits (by decide) (by decide) member]

theorem isReported_of_mem_plain {digits : List Char} {point : Int} {c : Char}
    (reported : ∀ d ∈ digits, isReported d = true) (member : c ∈ plain false digits point) :
    isReported c = true := by
  have origin : c = '0' ∨ c = '.' ∨ c ∈ digits := by
    unfold plain at member
    split at member
    next =>
      simp only [zeros, List.mem_append, List.mem_cons, List.mem_replicate] at member
      tauto
    next =>
      split at member
      next =>
        simp only [zeros, List.mem_append, List.mem_replicate] at member
        simp at member
        tauto
      next =>
        simp only [List.mem_append, List.mem_singleton] at member
        rcases member with (front | point') | back
        · exact .inr (.inr (List.mem_of_mem_take front))
        · exact .inr (.inl point')
        · exact .inr (.inr (List.mem_of_mem_drop back))
  rcases origin with rfl | rfl | member'
  · exact isReported_zero
  · exact isReported_point
  · exact reported c member'

theorem plain_ne_nil (digits : List Char) (point : Int) : plain false digits point ≠ [] := by
  unfold plain
  split
  next => simp
  next positive =>
    split
    next =>
      intro empty
      have length := congrArg List.length empty
      simp only [zeros, List.length_append, List.length_replicate, List.length_nil] at length
      omega
    next => simp

theorem reported_magnitude {rank : Nat} (positive : rank ≠ 0) :
    ∃ digits point, Number.reportLayout.writeMagnitude rank = plain false digits point ∧
      ∀ d ∈ digits, isReported d = true := by
  simp only [writeMagnitude, if_neg positive, Number.reportLayout, if_true]
  refine ⟨_, _, rfl, fun d digit => ?_⟩
  exact isReported_of_mem_toDigits ((List.rdropWhile_prefix _ _).subset digit)

theorem reported_chars (n : Number) :
    Number.reportLayout.writeChars n ≠ [] ∧
      (Number.reportLayout.writeChars n).all isReported = true := by
  cases n with
  | finite negative magnitude =>
    have unsigned : Number.reportLayout.writeMagnitude magnitude.rank ≠ [] ∧
        (Number.reportLayout.writeMagnitude magnitude.rank).all isReported = true := by
      by_cases zero : magnitude.rank = 0
      · rw [zero]
        decide
      · obtain ⟨digits, point, same, reported⟩ := reported_magnitude zero
        rw [same]
        refine ⟨plain_ne_nil _ _, List.all_eq_true.mpr fun c member => ?_⟩
        exact isReported_of_mem_plain reported member
    simp only [writeChars, signed]
    split
    · exact ⟨by simp, by rw [List.all_cons, unsigned.2]; decide⟩
    · exact unsigned
  | infinite negative => cases negative <;> decide
  | nan => decide

end Layout

end Runbook
