import Runbook.Number.Numeral
import Runbook.Proofs.Number.Digits

set_option autoImplicit false

namespace Runbook

namespace Numeral

def IsSign (sign : Option Char) : Prop := sign = none ∨ sign = some '-' ∨ sign = some '+'

def pointed : Option (List Char) → List Char
  | none => []
  | some digits => '.' :: digits

inductive PowerWritten : Option Power → List Char → Prop
  | absent : PowerWritten none []
  | present {mark : Char} {sign : Option Char} {digits : List Char}
      (marked : mark = 'e' ∨ mark = 'E') (signed : IsSign sign) (nonempty : digits ≠ [])
      (all : ∀ c ∈ digits, c.isDigit = true) :
      PowerWritten (some ⟨sign, digits⟩) (mark :: (sign.toList ++ digits))

structure Written (numeral : Numeral) (chars : List Char) : Prop where
  sign : IsSign numeral.sign
  whole : ∀ c ∈ numeral.whole, c.isDigit = true
  fraction : ∀ digits ∈ numeral.fraction, ∀ c ∈ digits, c.isDigit = true
  nonempty : numeral.whole ≠ [] ∨ numeral.fraction.getD [] ≠ []
  parts : ∃ power, PowerWritten numeral.power power ∧
    chars = numeral.sign.toList ++ (numeral.whole ++ (pointed numeral.fraction ++ power))

theorem splitSign_sound (chars : List Char) : IsSign (splitSign chars).1 ∧
    (splitSign chars).1.toList ++ (splitSign chars).2 = chars := by
  unfold splitSign
  split
  next => exact ⟨.inr (.inl rfl), rfl⟩
  next => exact ⟨.inr (.inr rfl), rfl⟩
  next => exact ⟨.inl rfl, rfl⟩

theorem ne_sign_of_isDigit {c : Char} (digit : c.isDigit = true) : c ≠ '-' ∧ c ≠ '+' := by
  constructor <;> rintro rfl <;> simp at digit

theorem splitSign_append {sign : Option Char} {chars : List Char} (signed : IsSign sign)
    (unsigned : ∀ c ∈ chars.head?, c ≠ '-' ∧ c ≠ '+') :
    splitSign (sign.toList ++ chars) = (sign, chars) := by
  rcases signed with rfl | rfl | rfl
  next =>
    cases chars with
    | nil => rfl
    | cons c rest =>
      obtain ⟨notMinus, notPlus⟩ := unsigned c rfl
      simp [splitSign, notMinus, notPlus]
  next => rfl
  next => rfl

theorem splitDigits_append {digits rest : List Char} (all : ∀ c ∈ digits, c.isDigit = true)
    (stops : ∀ c ∈ rest.head?, c.isDigit = false) :
    splitDigits (digits ++ rest) = (digits, rest) := by
  have all' : ∀ c ∈ digits, Text.isDigit c = true := fun c member => by
    rw [Text.isDigit_eq, all c member]
  have stopped : rest.takeWhile Text.isDigit = [] ∧ rest.dropWhile Text.isDigit = rest := by
    cases rest with
    | nil => exact ⟨rfl, rfl⟩
    | cons c others => simp [Text.isDigit_eq, stops c rfl]
  rw [splitDigits, List.takeWhile_append_of_pos all', List.dropWhile_append_of_pos all', stopped.1,
    stopped.2, List.append_nil]

theorem splitDigits_sound (chars : List Char) : (∀ c ∈ (splitDigits chars).1, c.isDigit = true) ∧
    (splitDigits chars).1 ++ (splitDigits chars).2 = chars := by
  refine ⟨fun c member => ?_, List.takeWhile_append_dropWhile⟩
  rw [← Text.isDigit_eq]
  exact List.mem_takeWhile_imp member

theorem splitFraction_sound (chars : List Char) :
    (∀ digits ∈ (splitFraction chars).1, ∀ c ∈ digits, c.isDigit = true) ∧
      pointed (splitFraction chars).1 ++ (splitFraction chars).2 = chars := by
  unfold splitFraction
  split
  next rest =>
    obtain ⟨all, parts⟩ := splitDigits_sound rest
    refine ⟨fun digits given => ?_, congrArg ('.' :: ·) parts⟩
    rwa [← Option.some.inj given]
  next => exact ⟨by simp, rfl⟩

theorem splitFraction_append {fraction : Option (List Char)} {rest : List Char}
    (all : ∀ digits ∈ fraction, ∀ c ∈ digits, c.isDigit = true)
    (stops : ∀ c ∈ rest.head?, c.isDigit = false ∧ c ≠ '.') :
    splitFraction (pointed fraction ++ rest) = (fraction, rest) := by
  cases fraction with
  | none =>
    cases rest with
    | nil => rfl
    | cons c others => simp [pointed, splitFraction, (stops c rfl).2]
  | some digits =>
    have parts := splitDigits_append (all digits rfl) fun c first => (stops c first).1
    simp [pointed, splitFraction, parts]

theorem powerOf?_eq_some_iff {chars : List Char} {power : Option Power} :
    powerOf? chars = some power ↔ PowerWritten power chars := by
  constructor
  next =>
    intro read
    cases chars with
    | nil =>
      cases read
      exact .absent
    | cons mark rest =>
      obtain ⟨signed, parts⟩ := splitSign_sound rest
      simp only [powerOf?, Bool.and_eq_true, Bool.or_eq_true, beq_iff_eq, List.all_eq_true,
        Text.isDigit_eq] at read
      split at read
      next accepted =>
        cases read
        obtain ⟨⟨marked, some⟩, all⟩ := accepted
        have written := PowerWritten.present marked signed (by simpa using some) all
        rwa [parts] at written
      next => cases read
  next =>
    intro written
    cases written with
    | absent => rfl
    | @present mark sign digits marked signed nonempty all =>
      have unsigned : ∀ c ∈ digits.head?, c ≠ '-' ∧ c ≠ '+' :=
        fun c first => ne_sign_of_isDigit (all c (List.mem_of_mem_head? first))
      simp only [powerOf?, splitSign_append signed unsigned, Bool.and_eq_true, Bool.or_eq_true,
        beq_iff_eq, List.all_eq_true, Text.isDigit_eq]
      exact if_pos ⟨⟨marked, by simpa using nonempty⟩, all⟩

theorem PowerWritten.head {power : Option Power} {chars : List Char}
    (written : PowerWritten power chars) : ∀ c ∈ chars.head?, c.isDigit = false ∧ c ≠ '.' := by
  cases written with
  | absent => simp
  | present marked =>
    intro c first
    cases first
    rcases marked with rfl | rfl <;> decide

theorem ofChars?_sound {chars : List Char} {numeral : Numeral}
    (read : ofChars? chars = some numeral) : Written numeral chars := by
  obtain ⟨signed, chars'⟩ := splitSign_sound chars
  obtain ⟨whole, unsigned⟩ := splitDigits_sound (splitSign chars).2
  obtain ⟨fraction, afterWhole⟩ := splitFraction_sound (splitDigits (splitSign chars).2).2
  simp only [ofChars?] at read
  split at read
  next => cases read
  next some =>
    obtain ⟨power, tail, rfl⟩ := Option.map_eq_some_iff.mp read
    refine ⟨signed, whole, fraction, ?_, _, powerOf?_eq_some_iff.mp tail, ?_⟩
    next => simpa [or_iff_not_imp_left] using some
    next => rw [afterWhole, unsigned, chars']

theorem ofChars?_complete {chars : List Char} {numeral : Numeral}
    (written : Written numeral chars) : ofChars? chars = some numeral := by
  obtain ⟨signed, whole, fraction, nonempty, power, tail, rfl⟩ := written
  have unsigned : ∀ c ∈ (numeral.whole ++ (pointed numeral.fraction ++ power)).head?,
      c ≠ '-' ∧ c ≠ '+' := by
    cases front : numeral.whole with
    | cons c rest =>
      intro c' first
      cases first
      exact ne_sign_of_isDigit (whole c (front ▸ List.mem_cons_self))
    | nil =>
      cases given : numeral.fraction with
      | none => simp [front, given] at nonempty
      | some digits => simp [pointed]
  have afterWhole : ∀ c ∈ (pointed numeral.fraction ++ power).head?, c.isDigit = false := by
    cases given : numeral.fraction with
    | none => exact fun c first => (tail.head c first).1
    | some digits => simp [pointed]
  have nonempty' : (numeral.whole.isEmpty && (numeral.fraction.getD []).isEmpty) = false := by
    simpa [or_iff_not_imp_left] using nonempty
  simp only [ofChars?, splitSign_append signed unsigned, splitDigits_append whole afterWhole,
    splitFraction_append fraction tail.head, nonempty', powerOf?_eq_some_iff.mpr tail]
  simp

theorem ofChars?_eq_some_iff {chars : List Char} {numeral : Numeral} :
    ofChars? chars = some numeral ↔ Written numeral chars :=
  ⟨ofChars?_sound, ofChars?_complete⟩

/-- The canonical numerals, `-?(0|[1-9][0-9]*)(\.[0-9]+)?([eE][+-]?[0-9]+)?`, among the written. -/
structure Canonical (numeral : Numeral) : Prop where
  sign : numeral.sign ≠ some '+'
  whole : numeral.whole = ['0'] ∨ ∃ first rest, numeral.whole = first :: rest ∧ first ≠ '0'
  fraction : numeral.fraction ≠ some []

theorem unpadded_iff {whole : List Char} :
    unpadded whole = true ↔ whole = ['0'] ∨ ∃ first rest, whole = first :: rest ∧ first ≠ '0' := by
  cases whole with
  | nil => simp [unpadded]
  | cons first rest =>
    by_cases zero : first = '0' <;> cases rest <;> simp [unpadded, zero]

theorem isCanonical_iff {numeral : Numeral} : numeral.isCanonical = true ↔ Canonical numeral := by
  have parts : Canonical numeral ↔ (numeral.sign ≠ some '+' ∧
      unpadded numeral.whole = true) ∧ numeral.fraction ≠ some [] := by
    rw [unpadded_iff]
    exact ⟨fun canonical => ⟨⟨canonical.sign, canonical.whole⟩, canonical.fraction⟩,
      fun ⟨⟨sign, whole⟩, fraction⟩ => ⟨sign, whole, fraction⟩⟩
  rw [parts]
  cases given : numeral.fraction <;> simp [isCanonical, given]

end Numeral

end Runbook
