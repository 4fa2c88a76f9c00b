import Runbook.Script.Quoted

set_option autoImplicit false

namespace Runbook.Script.Quoted

theorem hexNumber?_append (digits : List Char) (c : Char) :
    hexNumber? (digits ++ [c]) =
      (hexNumber? digits).bind fun total => (hexValue? c).map (16 * total + ·) := by
  simp only [hexNumber?, List.foldlM_append, List.foldlM_cons, List.foldlM_nil]
  cases digits.foldlM (fun total c => (hexValue? c).map (16 * total + ·)) 0 <;> simp

theorem hexValue?_digitChar : ∀ digit < 16, hexValue? (Nat.digitChar digit) = some digit := by
  decide

theorem hexNumber?_hexDigits (number : Nat) : hexNumber? (Text.hexDigits number) = some number := by
  induction number using Nat.strongRecOn with
  | ind number ih =>
    rw [Text.hexDigits, Nat.toDigits_eq_if (by decide)]
    split
    next small => simp [hexNumber?, hexValue?_digitChar number small]
    next large =>
      have front := ih (number / 16) (by omega)
      rw [Text.hexDigits] at front
      rw [hexNumber?_append, front, hexValue?_digitChar _ (Nat.mod_lt _ (by decide))]
      simp only [Option.bind_some, Option.map_some, Option.some.injEq]
      omega

theorem exists_of_mem_hexDigits {number : Nat} {c : Char} (member : c ∈ Text.hexDigits number) :
    ∃ digit < 16, c = Nat.digitChar digit := by
  induction number using Nat.strongRecOn with
  | ind number ih =>
    rw [Text.hexDigits, Nat.toDigits_eq_if (by decide)] at member
    split at member
    next small => exact ⟨number, small, List.mem_singleton.mp member⟩
    next large =>
      rcases List.mem_append.mp member with front | last
      · exact ih (number / 16) (by omega) front
      · exact ⟨_, Nat.mod_lt _ (by decide), List.mem_singleton.mp last⟩

theorem hexValue?_of_mem {number : Nat} {c : Char} (member : c ∈ Text.hexDigits number) :
    hexValue? c ≠ none := by
  obtain ⟨digit, small, rfl⟩ := exists_of_mem_hexDigits member
  simp [hexValue?_digitChar digit small]

theorem decode?_hexDigits (c : Char) : decode? (Text.hexDigits c.toNat) = some c := by
  have nonempty : Text.hexDigits c.toNat ≠ [] := Nat.toDigits_ne_nil
  -- The reader would drop a plus sign, but no code starts with one.
  have unsigned : ∀ digits, Text.hexDigits c.toNat ≠ '+' :: digits := by
    intro digits same
    exact hexValue?_of_mem (same ▸ List.mem_cons_self) rfl
  have valid : c.toNat.isValidChar := c.valid
  unfold decode?
  split
  next digits same => exact absurd same (unsigned digits)
  next => simp [nonempty, hexNumber?_hexDigits, charOfCode?, valid]

theorem read_braced {opening position start : Nat} {code digits rest : List Char}
    (inside : ∀ c ∈ digits, c ≠ '\x7d') :
    read opening position (.braced start code) (digits ++ rest) =
      read opening (position + Text.utf8Length digits) (.braced start (digits.reverse ++ code))
        rest := by
  induction digits generalizing position code with
  | nil => rfl
  | cons c others ih =>
    obtain ⟨here, later⟩ := List.forall_mem_cons.mp inside
    simp only [List.cons_append, read, if_neg here, ih later, Text.utf8Length, List.reverse_cons,
      List.append_assoc, Nat.add_assoc, List.nil_append]

theorem read_escape (opening position : Nat) (c : Char) (rest : List Char) :
    read opening position .plain (escape c ++ rest) =
      (read opening (position + Text.utf8Length (escape c)) .plain rest).map (.cons c) := by
  unfold escape
  split
  next => rfl
  next => rfl
  next => rfl
  next => rfl
  next => rfl
  next quote backslash _ _ _ =>
    split
    next =>
      -- Whatever stands between the braces is read as the code, and no digit closes it.
      have inside : ∀ d ∈ Text.hexDigits c.toNat, d ≠ '\x7d' := by
        rintro d member rfl
        exact hexValue?_of_mem member rfl
      have length : Text.utf8Length (['\\', 'u', '\x7b'] ++ Text.hexDigits c.toNat ++ ['\x7d']) =
          3 + Text.utf8Length (Text.hexDigits c.toNat) + 1 := by
        rw [Text.utf8Length_append, Text.utf8Length_append]
        rfl
      have opened : read opening position .plain
            ((['\\', 'u', '\x7b'] ++ Text.hexDigits c.toNat ++ ['\x7d']) ++ rest) =
          read opening (position + 3) (.braced position [])
            (Text.hexDigits c.toNat ++ '\x7d' :: rest) := by
        simp [read]
      rw [opened, read_braced inside, read, if_pos rfl, List.append_nil, List.reverse_reverse,
        decode?_hexDigits, length, Nat.add_assoc 3, ← Nat.add_assoc position, Nat.add_assoc]
    next => rw [List.singleton_append, read, if_neg quote, if_neg backslash]; rfl

theorem read_write (opening position : Nat) (chars after : List Char) :
    read opening position .plain (chars.flatMap escape ++ '"' :: after) =
      .ok ⟨chars, position + Text.utf8Length (chars.flatMap escape) + 1, after⟩ := by
  induction chars generalizing position with
  | nil => rfl
  | cons c rest ih =>
    rw [List.flatMap_cons, List.append_assoc, read_escape, ih, Text.utf8Length_append,
      ← Nat.add_assoc]
    rfl

theorem isControl_escape (c : Char) : ∀ d ∈ escape c, Text.isControl d = false := by
  have digits : ∀ digit < 16, Text.isControl (Nat.digitChar digit) = false := by decide
  have marked {mark : Char} (shown : Text.isControl mark = false) :
      ∀ d ∈ ['\\', mark], Text.isControl d = false :=
    List.forall_mem_cons.mpr ⟨by decide, List.forall_mem_singleton.mpr shown⟩
  unfold escape
  split
  · exact marked (by decide)
  · exact marked (by decide)
  · exact marked (by decide)
  · exact marked (by decide)
  · exact marked (by decide)
  next =>
    split
    next =>
      intro d member
      simp only [List.cons_append, List.nil_append, List.mem_cons, List.mem_append,
        List.not_mem_nil, or_false] at member
      rcases member with rfl | rfl | rfl | code | rfl
      · decide
      · decide
      · decide
      · obtain ⟨digit, small, rfl⟩ := exists_of_mem_hexDigits code
        exact digits digit small
      · decide
    next shown => simpa using shown

theorem isControl_of_mem_write {chars : List Char} {c : Char} (member : c ∈ write chars) :
    Text.isControl c = false := by
  rcases List.mem_cons.mp member with rfl | behind
  · decide
  rcases List.mem_append.mp behind with inside | last
  · obtain ⟨source, -, escaped⟩ := List.mem_flatMap.mp inside
    exact isControl_escape source c escaped
  · rw [List.mem_singleton.mp last]
    decide

theorem newline_not_mem_write (chars : List Char) : '\n' ∉ write chars :=
  fun member => absurd (isControl_of_mem_write member) (by decide)

def Reading.followedBy (after : List Char) (reading : Reading) : Reading :=
  { reading with rest := reading.rest ++ after }

theorem read_append {opening position : Nat} {mode : Mode} {chars : List Char} {reading : Reading}
    (done : read opening position mode chars = .ok reading) (after : List Char) :
    read opening position mode (chars ++ after) = .ok (reading.followedBy after) := by
  fun_induction read opening position mode chars generalizing reading with
  | case1 | case2 | case3 | case4 => cases done
  | case5 position rest =>
    cases done
    rfl
  | case6 position rest _ ih => exact ih done
  | case7 position c rest plain unescaped ih =>
    obtain ⟨inner, found, rfl⟩ := map_eq_ok_iff.mp done
    rw [List.cons_append, read, if_neg plain, if_neg unescaped, ih found]
    rfl
  | case8 position start rest ih => exact ih done
  | case9 position start c rest other plain found ih =>
    obtain ⟨inner, found', rfl⟩ := map_eq_ok_iff.mp done
    simp only [List.cons_append, read, if_neg other, found, ih found']
    rfl
  | case10 => cases done
  | case11 position start rest ih => exact ih done
  | case12 => cases done
  | case13 position start code rest plain decoded ih =>
    obtain ⟨inner, found, rfl⟩ := map_eq_ok_iff.mp done
    simp only [List.cons_append, read, decoded, ih found]
    rfl
  | case14 => cases done
  | case15 position start code c rest inside ih =>
    rw [List.cons_append, read, if_neg inside]
    exact ih done

theorem read_closes {opening position : Nat} {mode : Mode} {chars : List Char} {reading : Reading}
    (done : read opening position mode chars = .ok reading) :
    ∃ body, chars = body ++ '"' :: reading.rest := by
  fun_induction read opening position mode chars generalizing reading with
  | case1 | case2 | case3 | case4 | case10 | case12 | case14 => cases done
  | case5 position rest =>
    cases done
    exact ⟨[], rfl⟩
  | case6 position rest _ ih | case8 position start rest ih | case11 position start rest ih
  | case15 position start code c rest inside ih =>
    obtain ⟨body, rfl⟩ := ih done
    exact ⟨_ :: body, rfl⟩
  | case7 position c rest plain unescaped ih | case9 position start c rest other plain found ih
  | case13 position start code rest plain decoded ih =>
    obtain ⟨inner, found', rfl⟩ := map_eq_ok_iff.mp done
    obtain ⟨body, rfl⟩ := ih found'
    exact ⟨_ :: body, rfl⟩

end Runbook.Script.Quoted
