import Runbook.Proofs.Number.Grammar

set_option autoImplicit false

namespace Runbook

namespace Numeral

def fixed (negative : Bool) (whole : List Char) (fraction : Option (List Char)) : Numeral :=
  ⟨if negative then some '-' else none, whole, fraction, none⟩

theorem ofChars?_fixed {whole : List Char} {fraction : Option (List Char)}
    (nonempty : whole ≠ []) (all : ∀ c ∈ whole, c.isDigit = true)
    (all' : ∀ digits ∈ fraction, ∀ c ∈ digits, c.isDigit = true) (negative : Bool) :
    ofChars? (Layout.signed negative (whole ++ pointed fraction)) =
      some (fixed negative whole fraction) := by
  refine ofChars?_eq_some_iff.mpr ⟨?_, all, all', .inl nonempty, [], .absent, ?_⟩
  next => cases negative <;> simp [fixed, IsSign]
  next => cases negative <;> simp [fixed, Layout.signed]

end Numeral

namespace Layout

open Numeral

def wholePart (digits : List Char) (point : Int) : List Char :=
  if point ≤ 0 then ['0'] else digits.take point.toNat ++ zeros (point.toNat - digits.length)

def fractionPart? (digits : List Char) (point : Int) : Option (List Char) :=
  if digits.length ≤ point then none
  else some (zeros (-point).toNat ++ digits.drop point.toNat)

theorem plain_eq {digits : List Char} (nonempty : digits ≠ []) (point : Int) :
    plain false digits point = wholePart digits point ++ pointed (fractionPart? digits point) := by
  have size := List.length_pos_iff.mpr nonempty
  by_cases small : point ≤ 0
  next =>
    have longer : ¬ (digits.length : Int) ≤ point := by omega
    have none : point.toNat = 0 := by omega
    simp [plain, wholePart, fractionPart?, pointed, small, longer, none]
  next =>
    have positive : (-point).toNat = 0 := by omega
    by_cases fits : (digits.length : Int) ≤ point
    next =>
      have fits' : digits.length ≤ point.toNat := by omega
      simp [plain, wholePart, fractionPart?, pointed, small, fits, fits', List.take_of_length_le]
    next =>
      have longer : ¬ digits.length ≤ point.toNat := by omega
      have none : point.toNat - digits.length = 0 := by omega
      simp [plain, wholePart, fractionPart?, pointed, zeros, small, fits, longer, none, positive]

def numeral (negative : Bool) (digits : List Char) (point : Int) : Numeral :=
  fixed negative (wholePart digits point) (fractionPart? digits point)

section Plain

variable {digits : List Char} (significant : Significant digits) (negative : Bool) (point : Int)

include significant

theorem exists_wholePart : ∃ first rest, wholePart digits point = first :: rest ∧
    (point ≤ 0 ∧ first = '0' ∧ rest = [] ∨ 0 < point ∧ first ≠ '0') := by
  unfold wholePart
  split
  next small => exact ⟨'0', [], rfl, .inl ⟨small, rfl, rfl⟩⟩
  next positive =>
    obtain ⟨places, count⟩ := Nat.exists_eq_succ_of_ne_zero (n := point.toNat) (by omega)
    cases parts : digits with
    | nil => exact absurd parts significant.nonempty
    | cons first rest =>
      have nonzero : first ≠ '0' := fun zero => significant.first rest (zero ▸ parts)
      rw [count, List.take_succ_cons, List.cons_append]
      exact ⟨first, _, rfl, .inr ⟨by omega, nonzero⟩⟩

theorem isDigit_of_mem_wholePart {c : Char} (member : c ∈ wholePart digits point) :
    c.isDigit = true := by
  unfold wholePart at member
  split at member
  next =>
    rw [List.mem_singleton.mp member]
    rfl
  next =>
    rcases List.mem_append.mp member with front | padding
    next => exact significant.all c (List.mem_of_mem_take front)
    next =>
      rw [List.eq_of_mem_replicate padding]
      rfl

theorem isDigit_of_mem_fractionPart {c : Char} {fraction : List Char}
    (given : fraction ∈ fractionPart? digits point) (member : c ∈ fraction) :
    c.isDigit = true := by
  unfold fractionPart? at given
  split at given
  next => cases given
  next =>
    cases given
    rcases List.mem_append.mp member with padding | back
    next =>
      rw [List.eq_of_mem_replicate padding]
      rfl
    next => exact significant.all c (List.mem_of_mem_drop back)

theorem ofChars?_plain :
    Numeral.ofChars? (signed negative (plain false digits point)) =
      some (numeral negative digits point) := by
  rw [plain_eq significant.nonempty]
  refine ofChars?_fixed ?_ (fun c => isDigit_of_mem_wholePart significant point)
    (fun fraction given c => isDigit_of_mem_fractionPart significant point given) negative
  obtain ⟨first, rest, whole, -⟩ := exists_wholePart significant point
  rw [whole]
  exact List.cons_ne_nil _ _

theorem isCanonical_numeral : (numeral negative digits point).isCanonical = true := by
  have sign : ((if negative then some '-' else none) != some '+') = true := by
    cases negative <;> decide
  have unpadded' : unpadded (wholePart digits point) = true := by
    obtain ⟨first, rest, whole, ⟨-, -, rfl⟩ | ⟨-, nonzero⟩⟩ := exists_wholePart significant point
    next => rw [whole, unpadded]
    next =>
      rw [whole]
      cases rest with
      | nil => rfl
      | cons second others => simpa [unpadded] using nonzero
  have fraction : ∀ fraction ∈ fractionPart? digits point, fraction ≠ [] := by
    intro fraction given empty
    have size := List.length_pos_iff.mpr significant.nonempty
    unfold fractionPart? at given
    split at given
    next => cases given
    next longer =>
      cases given
      have none := congrArg List.length empty
      simp [length_zeros] at none
      omega
  cases given : fractionPart? digits point with
  | none => simp [isCanonical, numeral, fixed, given, sign, unpadded']
  | some digits' =>
    simp [isCanonical, numeral, fixed, given, sign, unpadded', fraction digits' given]

theorem rank_numeral : (numeral negative digits point).decimal.rank =
    Decimal.rank ⟨Decimal.natOfDigits digits, point - digits.length⟩ := by
  have size := List.length_pos_iff.mpr significant.nonempty
  simp only [Numeral.decimal, numeral, fixed, exponent, wholePart, fractionPart?]
  by_cases small : point ≤ 0
  next =>
    have longer : ¬ (digits.length : Int) ≤ point := by omega
    have none : point.toNat = 0 := by omega
    have places : (0 : Int) - ((-point).toNat + digits.length : Nat) = point - digits.length := by
      omega
    have value : Decimal.natOfDigits (['0'] ++ (zeros (-point).toNat ++ digits)) =
        Decimal.natOfDigits digits :=
      (Decimal.natOfDigits_zeros_append 1 _).trans (Decimal.natOfDigits_zeros_append _ _)
    simp only [small, longer, none, if_true, if_false, Option.getD_some, List.drop_zero, value,
      List.length_append, length_zeros, places]
  next =>
    by_cases fits : (digits.length : Int) ≤ point
    next =>
      have places : (0 : Int) - (0 : Nat) + (point.toNat - digits.length : Nat) =
          point - digits.length := by omega
      simp only [small, fits, if_true, if_false, Option.getD_none, List.append_nil,
        List.take_of_length_le (show digits.length ≤ point.toNat by omega), List.length_nil,
        Decimal.natOfDigits_append_zeros, Decimal.rank_mul_pow, places]
    next =>
      have none : point.toNat - digits.length = 0 := by omega
      have positive : (-point).toNat = 0 := by omega
      have places : (0 : Int) - (digits.length - point.toNat : Nat) = point - digits.length := by
        omega
      simp only [small, fits, none, positive, zeros, List.replicate_zero, List.append_nil,
        List.nil_append, if_false, Option.getD_some, List.take_append_drop, List.length_drop, places]

end Plain

theorem isWhole_numeral (negative : Bool) (digits : List Char) (point : Int) :
    (numeral negative digits point).isWhole = decide (digits.length ≤ point) := by
  simp only [numeral, fixed, isWhole, fractionPart?]
  split
  next fits => simp [fits]
  next longer => simp [longer]

end Layout

end Runbook
