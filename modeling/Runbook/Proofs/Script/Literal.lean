import Mathlib.Data.Nat.Digits.Defs
import Runbook.Proofs.Script.Quoted
import Runbook.Proofs.Text.Casing
import Runbook.Proofs.Text.Lines

set_option autoImplicit false

namespace Runbook.Script.Quoted

inductive Item where
  | plain (c : Char)
  | escape (mark : Char)
  | code (signed : Bool) (digits : List Char)
deriving DecidableEq

def marks : List (Char × Char) :=
  [('n', '\n'), ('t', '\t'), ('r', '\r'), ('\\', '\\'), ('"', '"'), ('\'', '\'')]

def IsDigitOf (value : Nat) (c : Char) : Prop := value < 16 ∧ c.toLower = Nat.digitChar value

instance (value : Nat) (c : Char) : Decidable (IsDigitOf value c) :=
  inferInstanceAs (Decidable (_ ∧ _))

namespace Item

def isSigned : Item → Bool
  | .code signed _ => signed
  | .plain _ | .escape _ => false

def codeChars (signed : Bool) (digits : List Char) : List Char :=
  if signed then '+' :: digits else digits

def chars : Item → List Char
  | .plain c => [c]
  | .escape mark => ['\\', mark]
  | .code signed digits => '\\' :: 'u' :: '\x7b' :: (codeChars signed digits ++ ['\x7d'])

inductive Denotes : Item → Char → Prop
  | plain {c : Char} (unquoted : c ≠ '"') (bare : c ≠ '\\') : Denotes (.plain c) c
  | escape {mark c : Char} (listed : (mark, c) ∈ marks) : Denotes (.escape mark) c
  | code {signed : Bool} {digits : List Char} {values : List Nat} {c : Char}
      (nonempty : digits ≠ []) (hexadecimal : List.Forall₂ IsDigitOf values digits.reverse)
      (number : Nat.ofDigits 16 values = c.toNat) : Denotes (.code signed digits) c

end Item

theorem unescape?_eq_some_iff {mark c : Char} : unescape? mark = some c ↔ (mark, c) ∈ marks := by
  simp only [marks, List.mem_cons, List.not_mem_nil, or_false, Prod.mk.injEq]
  unfold unescape?
  split <;> simp_all [eq_comm]

theorem ne_of_mem_marks {mark c : Char} (listed : (mark, c) ∈ marks) : mark ≠ 'u' := by
  rintro rfl
  simp [marks] at listed

theorem hexValue?_bounds {c : Char} {value : Nat} (found : hexValue? c = some value) :
    c.toNat < 128 ∧ value < 16 := by
  simp only [hexValue?, Text.isDigit, Bool.and_eq_true, decide_eq_true_eq, Char.le_def,
    UInt32.le_iff_toNat_le, Char.toNat, Char.reduceVal, UInt32.reduceToNat] at found ⊢
  split_ifs at found <;> simp only [Option.some.injEq] at found <;> omega

theorem toNat_lt_of_toLower {c : Char} (small : c.toLower.toNat < 128) : c.toNat < 128 := by
  rcases Text.toLower_eq_self_or c with same | capital
  · rwa [← same]
  · have ascii : Text.asciiCapitals.all (·.toNat < 128) = true := by decide
    simpa using List.all_eq_true.mp ascii c capital

theorem hexValue?_ascii : ∀ code < 128, ∀ value < 16,
    (hexValue? (Char.ofNat code) = some value ↔
      (Char.ofNat code).toLower = Nat.digitChar value) := by
  decide +kernel

theorem hexValue?_eq_some_iff {c : Char} {value : Nat} :
    hexValue? c = some value ↔ IsDigitOf value c := by
  have ascii (small : c.toNat < 128) (digit : value < 16) :
      hexValue? c = some value ↔ c.toLower = Nat.digitChar value := by
    simpa using hexValue?_ascii c.toNat small value digit
  constructor
  next =>
    intro found
    obtain ⟨small, digit⟩ := hexValue?_bounds found
    exact ⟨digit, (ascii small digit).mp found⟩
  next =>
    rintro ⟨digit, same⟩
    have digits : ∀ value < 16, (Nat.digitChar value).toNat < 128 := by decide
    have small : c.toNat < 128 := toNat_lt_of_toLower (same ▸ digits value digit)
    exact (ascii small digit).mpr same

theorem hexNumber?_eq_some_iff {digits : List Char} {number : Nat} :
    hexNumber? digits = some number ↔
      ∃ values, List.Forall₂ IsDigitOf values digits.reverse ∧ Nat.ofDigits 16 values = number := by
  induction digits using List.reverseRecOn generalizing number with
  | nil => simp [hexNumber?, eq_comm]
  | append_singleton digits c ih =>
    rw [hexNumber?_append, List.reverse_concat]
    simp only [Option.bind_eq_some_iff, Option.map_eq_some_iff, ih, hexValue?_eq_some_iff]
    constructor
    next =>
      rintro ⟨_, ⟨values, front, rfl⟩, value, last, rfl⟩
      exact ⟨value :: values, .cons last front, by rw [Nat.ofDigits_cons, Nat.add_comm]⟩
    next =>
      rintro ⟨values, all, rfl⟩
      obtain ⟨value, others, last, front, rfl⟩ := List.forall₂_cons_right_iff.mp all
      exact ⟨_, ⟨others, front, rfl⟩, value, last, by rw [Nat.ofDigits_cons, Nat.add_comm]⟩

theorem charOfCode?_eq_some_iff {code : Nat} {c : Char} :
    charOfCode? code = some c ↔ code = c.toNat := by
  unfold charOfCode?
  constructor
  next =>
    intro found
    split at found
    next valid =>
      rw [← Option.some.inj found, Char.ofNat, dif_pos valid]
      rfl
    next => cases found
  next =>
    rintro rfl
    have valid : c.toNat.isValidChar := c.valid
    rw [if_pos valid, Char.ofNat_toNat]

def characterOf? (digits : List Char) : Option Char :=
  if digits.isEmpty then none else (hexNumber? digits).bind charOfCode?

theorem characterOf?_eq_some_iff {digits : List Char} {c : Char} (signed : Bool) :
    characterOf? digits = some c ↔ (Item.code signed digits).Denotes c := by
  unfold characterOf?
  constructor
  next =>
    intro found
    split at found
    next => cases found
    next nonempty =>
      obtain ⟨number, read, found⟩ := Option.bind_eq_some_iff.mp found
      obtain ⟨values, hexadecimal, rfl⟩ := hexNumber?_eq_some_iff.mp read
      exact .code (by simpa using nonempty) hexadecimal (charOfCode?_eq_some_iff.mp found)
  next =>
    intro denotes
    cases denotes with
    | code nonempty hexadecimal number =>
      rw [if_neg (by simpa using nonempty), hexNumber?_eq_some_iff.mpr ⟨_, hexadecimal, rfl⟩]
      exact charOfCode?_eq_some_iff.mpr number

theorem decode?_unsigned {digits : List Char} (unsigned : ∀ rest, digits ≠ '+' :: rest) :
    decode? digits = characterOf? digits := by
  unfold decode?
  split
  next rest => exact absurd rfl (unsigned rest)
  next => rfl

theorem ne_of_isDigitOf {value : Nat} {c : Char} (isDigit : IsDigitOf value c) :
    c ≠ '+' ∧ c ≠ '\x7d' := by
  have found := hexValue?_eq_some_iff.mpr isDigit
  constructor <;> rintro rfl <;> simp [hexValue?, Text.isDigit] at found

theorem Item.Denotes.exists_isDigitOf {signed : Bool} {digits : List Char} {c : Char}
    (denotes : (Item.code signed digits).Denotes c) : ∀ d ∈ digits, ∃ value, IsDigitOf value d := by
  cases denotes with
  | code nonempty hexadecimal number =>
    have turned : ∀ d ∈ digits.reverse, ∃ value, IsDigitOf value d := by
      generalize digits.reverse = turned at hexadecimal
      clear number
      induction hexadecimal with
      | nil => simp
      | cons here later ih => exact List.forall_mem_cons.mpr ⟨⟨_, here⟩, ih⟩
    exact fun d member => turned d (List.mem_reverse.mpr member)

theorem Item.Denotes.ne_of_mem {signed : Bool} {digits : List Char} {c : Char}
    (denotes : (Item.code signed digits).Denotes c) : ∀ d ∈ digits, d ≠ '+' ∧ d ≠ '\x7d' := by
  intro d member
  obtain ⟨value, isDigit⟩ := denotes.exists_isDigitOf d member
  exact ne_of_isDigitOf isDigit

theorem decode?_codeChars {signed : Bool} {digits : List Char} (unsigned : ∀ d ∈ digits, d ≠ '+') :
    decode? (Item.codeChars signed digits) = characterOf? digits := by
  cases signed with
  | true => rfl
  | false =>
    refine decode?_unsigned ?_
    rintro rest rfl
    exact unsigned '+' List.mem_cons_self rfl

theorem decode?_eq_some_iff {code : List Char} {c : Char} :
    decode? code = some c ↔ ∃ signed digits,
      code = Item.codeChars signed digits ∧ (Item.code signed digits).Denotes c := by
  constructor
  next =>
    intro found
    by_cases sign : ∃ digits, code = '+' :: digits
    next =>
      obtain ⟨digits, rfl⟩ := sign
      exact ⟨true, digits, rfl, (characterOf?_eq_some_iff true).mp found⟩
    next =>
      rw [decode?_unsigned (not_exists.mp sign)] at found
      exact ⟨false, code, rfl, (characterOf?_eq_some_iff false).mp found⟩
  next =>
    rintro ⟨signed, digits, rfl, denotes⟩
    rw [decode?_codeChars fun d member => (denotes.ne_of_mem d member).1]
    exact (characterOf?_eq_some_iff signed).mpr denotes

theorem Item.Denotes.ne_of_mem_codeChars {signed : Bool} {digits : List Char} {c : Char}
    (denotes : (Item.code signed digits).Denotes c) :
    ∀ d ∈ codeChars signed digits, d ≠ '\x7d' := by
  have inside : ∀ d ∈ digits, d ≠ '\x7d' := fun d member => (denotes.ne_of_mem d member).2
  cases signed with
  | true => exact List.forall_mem_cons.mpr ⟨by decide, inside⟩
  | false => exact inside

theorem read_item {item : Item} {c : Char} (denotes : item.Denotes c) (opening position : Nat)
    (rest : List Char) :
    read opening position .plain (item.chars ++ rest) =
      (read opening (position + Text.utf8Length item.chars) .plain rest).map (.cons c) := by
  cases denotes with
  | plain unquoted bare =>
    rw [Item.chars, List.singleton_append, read, if_neg unquoted, if_neg bare]
    rfl
  | @escape mark c listed =>
    have unmarked := ne_of_mem_marks listed
    have length : Text.utf8Length (Item.escape mark).chars = 1 + mark.utf8Size := rfl
    rw [length, ← Nat.add_assoc, Item.chars, List.cons_append, List.singleton_append, read,
      if_neg (by decide), if_pos rfl, read, if_neg unmarked, unescape?_eq_some_iff.mpr listed]
  | @code signed digits values c nonempty hexadecimal number =>
    have denotes : (Item.code signed digits).Denotes c := .code nonempty hexadecimal number
    have opened : read opening position .plain ((Item.code signed digits).chars ++ rest) =
        read opening (position + 3) (.braced position [])
          (Item.codeChars signed digits ++ '\x7d' :: rest) := by
      simp [Item.chars, read]
    have length : Text.utf8Length (Item.code signed digits).chars =
        3 + Text.utf8Length (Item.codeChars signed digits) + 1 := by
      have parts : (Item.code signed digits).chars =
          ['\\', 'u', '\x7b'] ++ Item.codeChars signed digits ++ ['\x7d'] := rfl
      rw [parts, Text.utf8Length_append, Text.utf8Length_append]
      rfl
    rw [opened, read_braced denotes.ne_of_mem_codeChars, read, if_pos rfl, List.append_nil,
      List.reverse_reverse, decode?_eq_some_iff.mpr ⟨signed, digits, rfl, denotes⟩, length,
      Nat.add_assoc 3, ← Nat.add_assoc position, Nat.add_assoc]

theorem exists_of_braced {opening position start : Nat} {code chars : List Char} {reading : Reading}
    (done : read opening position (.braced start code) chars = .ok reading) :
    ∃ inner c after,
      chars = inner ++ '\x7d' :: after ∧ decode? (code.reverse ++ inner) = some c := by
  induction chars generalizing position code with
  | nil => cases done
  | cons d rest ih =>
    rw [read] at done
    split at done
    next closes =>
      subst closes
      split at done
      next c decoded => exact ⟨[], c, rest, rfl, by rwa [List.append_nil]⟩
      next => cases done
    next inside =>
      obtain ⟨inner, c, after, rfl, decoded⟩ := ih done
      exact ⟨d :: inner, c, after, rfl, by simpa using decoded⟩

theorem exists_item {opening position : Nat} {chars : List Char} {reading : Reading}
    (done : read opening position .plain chars = .ok reading) :
    (∃ rest, chars = '"' :: rest) ∨
      ∃ item c after, Item.Denotes item c ∧ chars = item.chars ++ after := by
  rcases chars with _ | ⟨first, rest⟩
  · cases done
  rw [read] at done
  split at done
  next closes => exact .inl ⟨rest, by rw [closes]⟩
  next unquoted =>
    split at done
    next backslash =>
      subst backslash
      refine .inr ?_
      rcases rest with _ | ⟨mark, rest⟩
      · cases done
      rw [read] at done
      split at done
      next isCode =>
        subst isCode
        rcases rest with _ | ⟨brace, rest⟩
        · cases done
        rw [read] at done
        split at done
        next opens =>
          subst opens
          obtain ⟨inner, c, after, rfl, decoded⟩ := exists_of_braced done
          obtain ⟨signed, digits, rfl, denotes⟩ := decode?_eq_some_iff.mp decoded
          exact ⟨.code signed digits, c, after, denotes, by simp [Item.chars]⟩
        next => cases done
      next =>
        split at done
        next c found => exact ⟨.escape mark, c, rest, .escape (unescape?_eq_some_iff.mp found), rfl⟩
        next => cases done
    next bare => exact .inr ⟨.plain first, first, rest, .plain unquoted bare, rfl⟩

structure Spells (before chars : List Char) (items : List Item) (reading : Reading) : Prop where
  closed : chars = items.flatMap Item.chars ++ '"' :: reading.rest
  denotes : List.Forall₂ Item.Denotes items reading.text
  stop : reading.stop =
    Text.utf8Length (before ++ '"' :: (items.flatMap Item.chars ++ ['"']))

theorem read_of_items {items : List Item} {text : List Char}
    (denotes : List.Forall₂ Item.Denotes items text) (opening position : Nat) (after : List Char) :
    read opening position .plain (items.flatMap Item.chars ++ '"' :: after) =
      .ok ⟨text, position + Text.utf8Length (items.flatMap Item.chars) + 1, after⟩ := by
  induction denotes generalizing position with
  | nil => rfl
  | cons here later ih =>
    rw [List.flatMap_cons, List.append_assoc, read_item here, ih, Text.utf8Length_append,
      ← Nat.add_assoc]
    rfl

theorem exists_items {opening position : Nat} {chars : List Char} {reading : Reading}
    (done : read opening position .plain chars = .ok reading) :
    ∃ items, chars = items.flatMap Item.chars ++ '"' :: reading.rest ∧
      List.Forall₂ Item.Denotes items reading.text := by
  induction length : chars.length using Nat.strongRecOn generalizing position chars reading with
  | ind size ih =>
    rcases exists_item done with ⟨rest, rfl⟩ | ⟨item, c, after, here, rfl⟩
    · cases done
      exact ⟨[], rfl, .nil⟩
    · rw [read_item here] at done
      obtain ⟨inner, found, rfl⟩ := map_eq_ok_iff.mp done
      have positive : 0 < item.chars.length := by cases item <;> exact Nat.succ_pos _
      have shorter : after.length < size := by
        rw [← length, List.length_append]
        exact Nat.lt_add_of_pos_left positive
      obtain ⟨items, rfl, later⟩ := ih _ shorter found rfl
      exact ⟨item :: items, by simp [Reading.cons], .cons here later⟩

theorem codeChars_injective {signed signed' : Bool} {digits digits' : List Char}
    (unsigned : ∀ d ∈ digits, d ≠ '+') (plain : ∀ d ∈ digits', d ≠ '+')
    (same : Item.codeChars signed digits = Item.codeChars signed' digits') :
    signed = signed' ∧ digits = digits' := by
  cases signed <;> cases signed'
  · exact ⟨rfl, same⟩
  · obtain rfl : digits = '+' :: digits' := same
    exact absurd rfl (unsigned '+' List.mem_cons_self)
  · obtain rfl : '+' :: digits = digits' := same
    exact absurd rfl (plain '+' List.mem_cons_self)
  · exact ⟨rfl, (List.cons.inj same).2⟩

theorem append_brace_inj {first second after after' : List Char} (inside : '\x7d' ∉ first)
    (inside' : '\x7d' ∉ second) (same : first ++ '\x7d' :: after = second ++ '\x7d' :: after') :
    first = second ∧ after = after' := by
  obtain rfl : first = second := by
    rw [← Text.takeWhile_bne inside after, same, Text.takeWhile_bne inside' after']
  exact ⟨rfl, by simpa using same⟩

theorem Item.Denotes.unique {item item' : Item} {c c' : Char} {after after' : List Char}
    (denotes : item.Denotes c) (denotes' : item'.Denotes c')
    (same : item.chars ++ after = item'.chars ++ after') : item = item' ∧ after = after' := by
  have closes := denotes
  have closes' := denotes'
  cases denotes with
  | plain unquoted bare =>
    cases denotes' with
    | plain => simpa [chars] using same
    | escape | code => exact absurd (List.cons.inj same).1 bare
  | escape listed =>
    cases denotes' with
    | plain unquoted bare => exact absurd (List.cons.inj same).1.symm bare
    | escape => simpa [chars] using same
    | code =>
      have mark := (List.cons.inj (List.cons.inj same).2).1
      exact absurd mark (ne_of_mem_marks listed)
  | code nonempty hexadecimal number =>
    cases denotes' with
    | plain unquoted bare => exact absurd (List.cons.inj same).1.symm bare
    | escape listed =>
      have mark := (List.cons.inj (List.cons.inj same).2).1
      exact absurd mark.symm (ne_of_mem_marks listed)
    | code nonempty' hexadecimal' number' =>
      simp only [chars, List.cons_append, List.append_assoc, List.cons.injEq, true_and] at same
      have inside : '\x7d' ∉ codeChars _ _ := fun brace => closes.ne_of_mem_codeChars _ brace rfl
      have inside' : '\x7d' ∉ codeChars _ _ := fun brace => closes'.ne_of_mem_codeChars _ brace rfl
      obtain ⟨codes, rests⟩ := append_brace_inj inside inside' same
      obtain ⟨rfl, rfl⟩ := codeChars_injective (fun d member => (closes.ne_of_mem d member).1)
        (fun d member => (closes'.ne_of_mem d member).1) codes
      exact ⟨rfl, rests⟩

theorem items_unique {items items' : List Item} {text text' after after' : List Char}
    (denotes : List.Forall₂ Item.Denotes items text)
    (denotes' : List.Forall₂ Item.Denotes items' text')
    (same : items.flatMap Item.chars ++ '"' :: after = items'.flatMap Item.chars ++ '"' :: after') :
    items = items' := by
  -- A quote that closes the literal does not start an item.
  have unclosed {item : Item} {c : Char} {rest rest' : List Char} (denotes : item.Denotes c)
      (same : '"' :: rest = item.chars ++ rest') : False := by
    cases denotes with
    | plain unquoted bare => exact unquoted (List.cons.inj same).1.symm
    | escape | code => exact absurd (List.cons.inj same).1 (by decide)
  induction denotes generalizing items' text' with
  | nil =>
    cases denotes' with
    | nil => rfl
    | cons here later =>
      rw [List.flatMap_cons, List.append_assoc] at same
      exact (unclosed here same).elim
  | cons here later ih =>
    rw [List.flatMap_cons, List.append_assoc] at same
    cases denotes' with
    | nil => exact (unclosed here same.symm).elim
    | cons here' later' =>
      rw [List.flatMap_cons, List.append_assoc] at same
      obtain ⟨rfl, rests⟩ := here.unique here' same
      rw [ih later' rests]

section Lines

variable {before chars : List Char} {items items' : List Item} {reading reading' : Reading}

theorem Spells.read (spells : Spells before chars items reading) :
    read (Text.utf8Length before) (Text.utf8Length before + 1) .plain chars = .ok reading := by
  obtain ⟨closed, denotes, stop⟩ := spells
  have place : reading.stop =
      Text.utf8Length before + 1 + Text.utf8Length (items.flatMap Item.chars) + 1 := by
    have quote : '"'.utf8Size = 1 := rfl
    rw [stop, Text.utf8Length_append, Text.utf8Length_enclosed, quote]
    omega
  rw [closed, read_of_items denotes, ← place]

theorem read_ok_iff :
    read (Text.utf8Length before) (Text.utf8Length before + 1) .plain chars = .ok reading ↔
      ∃ items, Spells before chars items reading := by
  constructor
  next =>
    intro done
    obtain ⟨items, closed, denotes⟩ := exists_items done
    let stop := Text.utf8Length (before ++ '"' :: (items.flatMap Item.chars ++ ['"']))
    have spells : Spells before chars items { reading with stop } := ⟨closed, denotes, rfl⟩
    exact ⟨items, Except.ok.inj (spells.read.symm.trans done) ▸ spells⟩
  next =>
    rintro ⟨items, spells⟩
    exact spells.read

theorem Spells.unique (spells : Spells before chars items reading)
    (spells' : Spells before chars items' reading') : items = items' ∧ reading = reading' :=
  ⟨items_unique spells.denotes spells'.denotes (spells.closed.symm.trans spells'.closed),
    Except.ok.inj (spells.read.symm.trans spells'.read)⟩

end Lines

def Documented (before chars : List Char) (reading : Reading) : Prop :=
  ∃ items, Spells before chars items reading ∧ ∀ item ∈ items, item.isSigned = false

/-- Behind an opening quote the reader takes exactly what can be cut into items and a closing quote,
which can be done in one way only, and gives what the items denote and the place behind the quote.
The documented form is the same without signs: whatever has it is taken, and of what is taken all
has it but for the literals with a sign in one of their codes. -/
theorem read_grammar (before chars : List Char) :
    let opening := Text.utf8Length before
    (∀ reading, read opening (opening + 1) .plain chars = .ok reading ↔
      ∃ items, Spells before chars items reading) ∧
    (∀ items items' reading reading', Spells before chars items reading →
      Spells before chars items' reading' → items = items' ∧ reading = reading') ∧
    ∀ items reading, Spells before chars items reading →
      (Documented before chars reading ↔ ∀ item ∈ items, item.isSigned = false) := by
  refine ⟨fun reading => read_ok_iff, fun _ _ _ _ spells spells' => spells.unique spells', ?_⟩
  intro items reading spells
  constructor
  next =>
    rintro ⟨others, spells', unsigned⟩
    rwa [(spells.unique spells').1]
  next => exact fun unsigned => ⟨items, spells, unsigned⟩

theorem signed_code_read :
    let line := "\\u\x7b+41\x7d\"".toList
    read 0 1 .plain line = .ok ⟨['A'], 9, []⟩ ∧ ¬ Documented [] line ⟨['A'], 9, []⟩ := by
  have digits : List.Forall₂ IsDigitOf [1, 4] ['1', '4'] :=
    .cons (by decide) (.cons (by decide) .nil)
  have spells : Spells [] "\\u\x7b+41\x7d\"".toList [.code true ['4', '1']] ⟨['A'], 9, []⟩ :=
    ⟨rfl, .cons (.code (by decide) digits rfl) .nil, rfl⟩
  refine ⟨spells.read, ?_⟩
  rintro ⟨items, spells', unsigned⟩
  rw [← (spells.unique spells').1] at unsigned
  exact absurd (unsigned _ List.mem_cons_self) (by decide)

end Runbook.Script.Quoted
