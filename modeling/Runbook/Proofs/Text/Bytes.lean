import Mathlib.Data.List.TakeWhile
import Runbook.Proofs.Text.Lines

set_option autoImplicit false

namespace Runbook.Text

def cut? : Nat → List Char → Option (List Char × List Char)
  | 0, chars => some ([], chars)
  | _ + 1, [] => none
  | size + 1, c :: rest =>
    if c.utf8Size ≤ size + 1 then
      (cut? (size + 1 - c.utf8Size) rest).map fun parts => (c :: parts.1, parts.2)
    else none

def slice? (start stop : Nat) (chars : List Char) : Option (List Char) :=
  if start ≤ stop then
    (cut? start chars).bind fun parts => (cut? (stop - start) parts.2).map Prod.fst
  else none

theorem cut?_utf8Length (front back : List Char) :
    cut? (utf8Length front) (front ++ back) = some (front, back) := by
  induction front with
  | nil => cases back <;> rfl
  | cons c rest ih =>
    have positive := c.utf8Size_pos
    obtain ⟨size, length⟩ : ∃ size, utf8Length (c :: rest) = size + 1 :=
      ⟨_, (Nat.succ_pred_eq_of_pos (Nat.add_pos_left positive _)).symm⟩
    have left : size + 1 - c.utf8Size = utf8Length rest := by
      rw [← length, utf8Length, Nat.add_sub_cancel_left]
    have fits : c.utf8Size ≤ size + 1 := by
      rw [← length]
      exact Nat.le_add_right _ _
    rw [length, List.cons_append, cut?, if_pos fits, left, ih]
    rfl

theorem cut?_eq_some {size : Nat} {chars front back : List Char}
    (done : cut? size chars = some (front, back)) :
    chars = front ++ back ∧ size = utf8Length front := by
  fun_induction cut? size chars generalizing front back with
  | case1 chars =>
    cases done
    exact ⟨rfl, rfl⟩
  | case2 => cases done
  | case3 size c rest fits ih =>
    obtain ⟨⟨front, back⟩, found, same⟩ := Option.map_eq_some_iff.mp done
    cases same
    obtain ⟨rfl, length⟩ := ih found
    exact ⟨rfl, by rw [utf8Length, ← length, Nat.add_sub_cancel' fits]⟩
  | case4 => cases done

theorem slice?_eq_some_iff {start stop : Nat} {chars part : List Char} :
    slice? start stop chars = some part ↔
      ∃ before after, chars = before ++ (part ++ after) ∧ start = utf8Length before ∧
        stop = start + utf8Length part := by
  unfold slice?
  constructor
  next =>
    intro sliced
    split at sliced
    next ordered =>
      obtain ⟨⟨before, rest⟩, first, sliced⟩ := Option.bind_eq_some_iff.mp sliced
      obtain ⟨⟨part, after⟩, second, rfl⟩ := Option.map_eq_some_iff.mp sliced
      obtain ⟨rfl, place⟩ := cut?_eq_some first
      obtain ⟨rfl, size⟩ := cut?_eq_some second
      exact ⟨before, after, rfl, place, by rw [← size, Nat.add_sub_cancel' ordered]⟩
    next => cases sliced
  next =>
    rintro ⟨before, after, rfl, rfl, rfl⟩
    rw [if_pos (Nat.le_add_right _ _), cut?_utf8Length, Option.bind_some, Nat.add_sub_cancel_left,
      cut?_utf8Length]
    rfl

theorem exists_slice? {first second chars : List Char} (front : first <+: chars)
    (front' : second <+: chars) (ordered : utf8Length first ≤ utf8Length second) :
    ∃ part, slice? (utf8Length first) (utf8Length second) chars = some part := by
  rcases List.prefix_or_prefix_of_prefix front front' with ⟨part, rfl⟩ | ⟨surplus, rfl⟩
  · obtain ⟨after, rfl⟩ := front'
    exact ⟨part, slice?_eq_some_iff.mpr ⟨first, after, by simp, rfl, utf8Length_append _ _⟩⟩
  · obtain ⟨after, rfl⟩ := front'
    rw [utf8Length_append] at ordered
    by_cases nothing : surplus = []
    · subst nothing
      exact ⟨[], slice?_eq_some_iff.mpr ⟨second, after, rfl, by simp, by simp [utf8Length]⟩⟩
    · have := utf8Length_pos nothing
      omega

def find? (c : Char) (chars : List Char) : Option Nat :=
  if c ∈ chars then some (utf8Length (chars.takeWhile (· != c))) else none

theorem find?_append {c : Char} {front : List Char} (absent : c ∉ front) (after : List Char) :
    find? c (front ++ c :: after) = some (utf8Length front) := by
  rw [find?, if_pos (by simp), takeWhile_bne absent]

def indices (place : Nat) : List Char → List (Nat × Char)
  | [] => []
  | c :: rest => (place, c) :: indices (place + c.utf8Size) rest

theorem drop_indices (count place : Nat) (chars : List Char) :
    (indices place chars).drop count =
      indices (place + utf8Length (chars.take count)) (chars.drop count) := by
  induction chars generalizing count place with
  | nil => cases count <;> rfl
  | cons c rest ih =>
    cases count with
    | zero => rfl
    | succ count =>
      rw [List.take_succ_cons, List.drop_succ_cons, utf8Length, ← Nat.add_assoc, ← ih]
      rfl

theorem utf8Length_of_ascii {chars : List Char} (ascii : ∀ c ∈ chars, c.toNat < 128) :
    utf8Length chars = chars.length := by
  induction chars with
  | nil => rfl
  | cons c rest ih =>
    obtain ⟨here, later⟩ := List.forall_mem_cons.mp ascii
    have size : c.utf8Size = 1 := Char.utf8Size_eq_one_iff.mpr (Nat.le_of_lt_succ here)
    rw [utf8Length, size, ih later, List.length_cons, Nat.add_comm]

def bytes (chars : List Char) : List UInt8 := chars.flatMap String.utf8EncodeChar

theorem bytes_cons (c : Char) (rest : List Char) :
    bytes (c :: rest) = String.utf8EncodeChar c ++ bytes rest := List.flatMap_cons

theorem bytes_append (first second : List Char) :
    bytes (first ++ second) = bytes first ++ bytes second := List.flatMap_append

theorem length_bytes (chars : List Char) : (bytes chars).length = utf8Length chars := by
  induction chars with
  | nil => rfl
  | cons c rest ih =>
    rw [bytes_cons, List.length_append, String.length_utf8EncodeChar, ih]
    rfl

theorem toNat_ofUInt8 (byte : UInt8) : (Char.ofUInt8 byte).toNat = byte.toNat :=
  UInt8.toNat_toUInt32 byte

theorem encode_cases (c : Char) :
    (c.toNat < 128 ∧ ∃ byte, String.utf8EncodeChar c = [byte] ∧ Char.ofUInt8 byte = c) ∨
      128 ≤ c.toNat ∧ ∀ byte ∈ String.utf8EncodeChar c, 128 ≤ (Char.ofUInt8 byte).toNat := by
  by_cases small : c.toNat < 128
  next =>
    have alone : String.utf8EncodeChar c = [UInt8.ofNat c.toNat] := if_pos (Nat.le_of_lt_succ small)
    refine .inl ⟨small, _, alone, Char.toNat_inj.mp ?_⟩
    rw [toNat_ofUInt8, UInt8.toNat_ofNat', Nat.mod_eq_of_lt (by omega)]
  next =>
    refine .inr ⟨Nat.not_lt.mp small, fun byte member => ?_⟩
    rw [toNat_ofUInt8]
    simp only [String.utf8EncodeChar, Char.toNat_val] at member
    split_ifs at member <;> simp only [List.mem_cons, List.not_mem_nil, or_false] at member
    · omega
    · rcases member with rfl | rfl <;> simp only [UInt8.toNat_ofNat'] <;> omega
    · rcases member with rfl | rfl | rfl <;> simp only [UInt8.toNat_ofNat'] <;> omega
    · rcases member with rfl | rfl | rfl | rfl <;> simp only [UInt8.toNat_ofNat'] <;> omega

theorem takeWhile_bytes {keep : Char → Bool} (high : ∀ c : Char, 128 ≤ c.toNat → keep c = true)
    (chars : List Char) :
    (bytes chars).takeWhile (fun byte => keep (.ofUInt8 byte)) = bytes (chars.takeWhile keep) := by
  induction chars with
  | nil => rfl
  | cons c rest ih =>
    rcases encode_cases c with ⟨-, byte, alone, same⟩ | ⟨large, larger⟩
    · by_cases kept : keep c = true
      · simp [bytes_cons, alone, same, kept, ih]
      · simp [bytes_cons, alone, same, kept]
        rfl
    · have kept := high c large
      have all : ∀ byte ∈ String.utf8EncodeChar c, keep (.ofUInt8 byte) = true :=
        fun byte member => high _ (larger byte member)
      rw [List.takeWhile_cons_of_pos kept, bytes_cons, bytes_cons,
        List.takeWhile_append_of_pos all, ih]

def Alike (first second : Char) : Prop :=
  ∀ mark : Char, mark.toNat < 128 → (first = mark ↔ second = mark)

theorem exists_byte (c : Char) (rest : List Char) :
    ∃ byte, (bytes (c :: rest))[0]? = some byte ∧ Alike (.ofUInt8 byte) c := by
  rcases encode_cases c with ⟨-, byte, alone, same⟩ | ⟨large, larger⟩
  · exact ⟨byte, by simp [bytes_cons, alone], fun mark _ => by rw [same]⟩
  · have positive : 0 < (String.utf8EncodeChar c).length := by
      rw [String.length_utf8EncodeChar]
      exact c.utf8Size_pos
    refine ⟨(String.utf8EncodeChar c)[0], ?_, fun mark small => ?_⟩
    · rw [bytes_cons, List.getElem?_append_left positive, List.getElem?_eq_getElem positive]
    · have large' := larger _ (List.getElem_mem positive)
      constructor
      · rintro rfl
        omega
      · rintro rfl
        omega

end Runbook.Text
