import Runbook.Json.Read
import Runbook.Proofs.Number.Reread
import Runbook.Proofs.Value.Literal

set_option autoImplicit false

namespace Runbook

open Magnitude

/-- Canonical numerals are read as the numbers nearest to them. -/
def Json.ReadsNearest (numeral? : List Char → Option Number) : Prop :=
  ∀ (chars : List Char) (numeral : Numeral) (magnitude : Magnitude),
    numeral.Written chars → numeral.Canonical → Rounds numeral.size magnitude →
    numeral? chars = some (.finite (Numeral.isNegative numeral.sign) magnitude)

theorem Number.ofCanonical?_nearest : Json.ReadsNearest Number.ofCanonical? := by
  intro chars numeral magnitude written canonical rounds
  have read := Numeral.ofChars?_eq_some_iff.mpr written
  exact (Value.ofCanonical?_eq_some_iff read).mpr ⟨canonical, magnitude, rounds, rfl⟩

namespace Numeral

structure Shows (negative : Bool) (rank : Nat) (numeral : Numeral) (chars : List Char) : Prop where
  written : numeral.Written chars
  canonical : numeral.Canonical
  sign : isNegative numeral.sign = negative
  rank : numeral.decimal.rank = rank

variable {negative : Bool} {numeral : Numeral} {chars : List Char}

theorem Shows.rounds {magnitude : Magnitude} (shows : Shows negative magnitude.rank numeral chars) :
    Rounds numeral.size magnitude :=
  number_eq_finite_iff.mp (Decimal.toNumber_of_rank _ shows.rank)

theorem Shows.pointZero {rank : Nat} (shows : Shows negative rank numeral chars)
    (isWhole' : numeral.isWhole = true) :
    Shows negative rank { numeral with fraction := some ['0'] } (chars ++ ['.', '0']) := by
  obtain ⟨sign, whole, fraction, power⟩ := numeral
  obtain ⟨rfl, rfl⟩ : fraction = none ∧ power = none := by simpa [isWhole] using isWhole'
  obtain ⟨signed, digits, -, nonempty, tail, ⟨⟩, rfl⟩ := shows.written
  refine ⟨⟨signed, digits, ?fraction, .inr (List.cons_ne_nil _ _), [], .absent, ?parts⟩,
    ⟨shows.canonical.sign, shows.canonical.whole, by simp⟩, shows.sign, ?rank⟩
  case fraction =>
    rintro _ ⟨⟩
    simp
  case parts => simp [pointed]
  case rank =>
    have value := Decimal.natOfDigits_append_zeros whole 1
    have scaled := Decimal.rank_mul_pow (Decimal.natOfDigits whole) 1 (-1)
    rw [← value] at scaled
    rw [← shows.rank]
    simpa [decimal, exponent, Layout.zeros] using scaled

end Numeral

namespace Layout

open Numeral

theorem signed_append (negative : Bool) (chars behind : List Char) :
    signed negative (chars ++ behind) = signed negative chars ++ behind := by
  cases negative <;> rfl

theorem zero_shows (negative : Bool) :
    ∃ numeral, Shows negative 0 numeral (signed negative ['0', '.', '0']) := by
  have digit : ∀ c ∈ ['0'], c.isDigit = true := by simp
  have read : ofChars? (signed negative (['0'] ++ pointed none)) =
      some (fixed negative ['0'] none) :=
    ofChars?_fixed (List.cons_ne_nil _ _) digit (by simp) negative
  have shows : Shows negative 0 (fixed negative ['0'] none) (signed negative ['0']) := by
    refine ⟨ofChars?_eq_some_iff.mp read, ⟨?plus, .inl rfl, by simp [fixed]⟩, ?negative, rfl⟩
    all_goals cases negative <;> simp [fixed, isNegative]
  have behind := signed_append negative ['0'] ['.', '0']
  exact ⟨_, behind ▸ shows.pointZero rfl⟩

theorem plain_pointZero {digits : List Char} (nonempty : digits ≠ []) (point : Int) :
    plain true digits point =
      plain false digits point ++ if (digits.length : Int) ≤ point then ['.', '0'] else [] := by
  have size := List.length_pos_iff.mpr nonempty
  by_cases small : point ≤ 0
  next =>
    have longer : ¬ (digits.length : Int) ≤ point := by omega
    simp [plain, small, longer]
  next =>
    have fits : digits.length ≤ point.toNat ↔ (digits.length : Int) ≤ point := by omega
    by_cases fits' : (digits.length : Int) ≤ point <;> simp [plain, small, fits, fits']

def fractionOf? (digits : List Char) : Option (List Char) :=
  if digits.isEmpty then none else some digits

def signedPower (power : Int) : Numeral.Power :=
  ⟨if power < 0 then some '-' else some '+', Nat.toDigits 10 power.natAbs⟩

theorem scientific_eq (first : Char) (rest : List Char) (power : Int) :
    scientific true (first :: rest) power =
      [first] ++ (pointed (fractionOf? rest) ++
        'e' :: ((signedPower power).sign.toList ++ (signedPower power).digits)) := by
  by_cases low : power < 0 <;> cases rest <;>
    simp [scientific, fractionOf?, pointed, signedPower, low]

theorem exponent_signedPower {numeral : Numeral} {power : Int}
    (given : numeral.power = some (signedPower power)) : numeral.exponent = power := by
  have size : (power.natAbs : Int) = if power < 0 then -power else power := by omega
  simp only [exponent, given, signedPower, Decimal.natOfDigits_toDigits, size]
  by_cases low : power < 0 <;> simp [low, isNegative]

theorem shows_scientific {first : Char} {rest : List Char}
    (all : ∀ c ∈ first :: rest, c.isDigit = true) (negative : Bool) (power : Int) :
    Shows negative (Decimal.rank ⟨Decimal.natOfDigits (first :: rest), power - rest.length⟩)
      ⟨if negative then some '-' else none, [first], fractionOf? rest, some (signedPower power)⟩
      (signed negative (scientific true (first :: rest) power)) := by
  obtain ⟨here, later⟩ := List.forall_mem_cons.mp all
  have sign : IsSign (signedPower power).sign := by
    by_cases low : power < 0 <;> simp [signedPower, IsSign, low]
  have digits : ∀ c ∈ (signedPower power).digits, c.isDigit = true :=
    fun c => Nat.isDigit_of_mem_toDigits (by decide) (by decide)
  have some' : (signedPower power).digits ≠ [] := List.ne_nil_of_length_pos Nat.length_toDigits_pos
  refine ⟨⟨?sign, by simpa using here, ?fraction, .inl (List.cons_ne_nil _ _), _,
    .present (.inl rfl) sign some' digits, ?parts⟩, ⟨?plus, ?whole, ?empty⟩, ?negative, ?rank⟩
  case sign | plus | negative => cases negative <;> simp [IsSign, isNegative]
  case fraction =>
    cases rest <;> rintro _ ⟨⟩
    exact later
  case parts =>
    rw [scientific_eq]
    cases negative <;> rfl
  case whole =>
    by_cases zero : first = '0'
    next => exact .inl (by rw [zero])
    next => exact .inr ⟨first, [], rfl, zero⟩
  case empty => cases rest <;> simp [fractionOf?]
  case rank =>
    have fraction : (fractionOf? rest).getD [] = rest := by cases rest <;> rfl
    rw [decimal, exponent_signedPower rfl, fraction]
    rfl

section Digits

variable {digits : List Char} (significant : Significant digits) (negative : Bool) (point : Int)

include significant

theorem plain_shows : ∃ numeral,
    Shows negative (Decimal.rank ⟨Decimal.natOfDigits digits, point - digits.length⟩) numeral
      (signed negative (plain true digits point)) := by
  have sign : isNegative (numeral negative digits point).sign = negative := by
    cases negative <;> rfl
  have shows : Shows negative _ (numeral negative digits point)
      (signed negative (plain false digits point)) :=
    ⟨ofChars?_eq_some_iff.mp (ofChars?_plain significant negative point),
      isCanonical_iff.mp (isCanonical_numeral significant negative point), sign,
      rank_numeral significant negative point⟩
  rw [plain_pointZero significant.nonempty, signed_append]
  split
  next fits => exact ⟨_, shows.pointZero (by rw [isWhole_numeral, decide_eq_true fits])⟩
  next =>
    rw [List.append_nil]
    exact ⟨_, shows⟩

theorem scientific_shows : ∃ numeral,
    Shows negative (Decimal.rank ⟨Decimal.natOfDigits digits, point - digits.length⟩) numeral
      (signed negative (scientific true digits (point - 1))) := by
  cases parts : digits with
  | nil => exact absurd parts significant.nonempty
  | cons first rest =>
    have shows := shows_scientific (parts ▸ significant.all) negative (point - 1)
    have places : point - 1 - rest.length = point - (first :: rest).length := by
      rw [List.length_cons]
      omega
    rw [places] at shows
    exact ⟨_, shows⟩

end Digits

end Layout

namespace Numeral.Written

variable {numeral : Numeral} {chars : List Char}

theorem isNumeralPart (written : numeral.Written chars) :
    ∀ c ∈ chars, Json.isNumeralPart c = true := by
  have digit {c : Char} (isDigit : c.isDigit = true) : Json.isNumeralPart c = true := by
    simp [Json.isNumeralPart, Text.isDigit_eq, isDigit]
  have signed {sign : Option Char} (isSign : IsSign sign) :
      ∀ c ∈ sign.toList, Json.isNumeralPart c = true := by
    rcases isSign with rfl | rfl | rfl <;> simp [Json.isNumeralPart]
  obtain ⟨sign, whole, fraction, -, power, tail, rfl⟩ := written
  simp only [List.forall_mem_append]
  refine ⟨signed sign, fun c member => digit (whole c member), ?_, ?_⟩
  next =>
    cases given : numeral.fraction with
    | none => simp [pointed]
    | some digits =>
      exact List.forall_mem_cons.mpr
        ⟨by decide, fun c member => digit (fraction digits given c member)⟩
  next =>
    generalize numeral.power = exponent at tail
    cases tail with
    | absent => simp
    | present marked isSign nonempty all =>
      refine List.forall_mem_cons.mpr ⟨by rcases marked with rfl | rfl <;> decide, ?_⟩
      exact List.forall_mem_append.mpr ⟨signed isSign, fun c member => digit (all c member)⟩

theorem opens (written : numeral.Written chars) (canonical : numeral.Canonical) :
    ∃ first rest, chars = first :: rest ∧ (first = '-' ∨ Text.isDigit first = true) := by
  obtain ⟨sign, whole, -, -, power, -, rfl⟩ := written
  rcases sign with unsigned | minus | plus
  next =>
    obtain ⟨first, rest, front⟩ : ∃ first rest, numeral.whole = first :: rest := by
      rcases canonical.whole with zero | ⟨first, rest, front, -⟩
      next => exact ⟨_, _, zero⟩
      next => exact ⟨_, _, front⟩
    have digit := whole first (by simp [front])
    exact ⟨first, _, by rw [unsigned, front]; rfl, .inr (by rw [Text.isDigit_eq, digit])⟩
  next => exact ⟨'-', _, by rw [minus]; rfl, .inl rfl⟩
  next => exact absurd plus canonical.sign

end Numeral.Written

namespace Json

def setDigits (decimal : Decimal) : List Char :=
  if -5 ≤ decimal.point - 1 && decimal.point - 1 < 16 then
    Layout.plain true decimal.digits decimal.point
  else Layout.scientific true decimal.digits (decimal.point - 1)

theorem writeMagnitude_nonzero {rank : Nat} (nonzero : rank ≠ 0) :
    numberLayout.writeMagnitude rank = setDigits (shortest .toEven rank) := by
  rw [Layout.writeMagnitude, if_neg nonzero]
  rfl

theorem setDigits_shows {decimal : Decimal} (nonzero : decimal.coefficient ≠ 0)
    (negative : Bool) : ∃ numeral,
    Numeral.Shows negative decimal.rank numeral (Layout.signed negative (setDigits decimal)) := by
  have significant : Layout.Significant decimal.digits := Layout.significant_toDigits nonzero
  rw [← Decimal.rank_digits, setDigits]
  split
  next => exact Layout.plain_shows significant negative _
  next => exact Layout.scientific_shows significant negative _

theorem numberLayout_shows (negative : Bool) (magnitude : Magnitude) : ∃ numeral,
    Numeral.Shows negative magnitude.rank numeral
      (numberLayout.writeChars (.finite negative magnitude)) := by
  have sign : (negative && (numberLayout.zeroSign || magnitude.rank != 0)) = negative := by
    simp [numberLayout]
  rw [Layout.writeChars, sign]
  by_cases zero : magnitude.rank = 0
  next =>
    rw [Layout.writeMagnitude, if_pos zero, zero]
    exact Layout.zero_shows negative
  next =>
    have positive := Nat.pos_of_ne_zero zero
    have nonzero := coefficient_shortest_ne_zero .toEven positive magnitude.bounded
    have shows := setDigits_shows nonzero negative
    rwa [rank_shortest .toEven positive magnitude.bounded, ← writeMagnitude_nonzero zero] at shows

end Json

end Runbook
