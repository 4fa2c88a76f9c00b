import Runbook.Text.Class
import Mathlib.Data.List.DropRight

set_option autoImplicit false

namespace Runbook.Text

theorem dropEnd_eq_rdropWhile (drop : Char → Bool) (chars : List Char) :
    dropEnd drop chars = chars.rdropWhile drop := rfl

theorem dropEnd_append {drop : Char → Bool} {front rest : List Char} {last : Char}
    (stays : drop last = false) :
    dropEnd drop (front ++ [last] ++ rest) = front ++ [last] ++ dropEnd drop rest := by
  induction rest using List.reverseRecOn with
  | nil =>
    rw [List.append_nil, dropEnd_eq_rdropWhile, List.rdropWhile_concat_neg _ _ _ (by simp [stays])]
    exact (List.append_nil _).symm
  | append_singleton rest c ih =>
    rw [← List.append_assoc]
    simp only [dropEnd_eq_rdropWhile] at ih ⊢
    by_cases drops : drop c = true
    · rw [List.rdropWhile_concat_pos _ _ _ drops, List.rdropWhile_concat_pos _ _ _ drops, ih]
    · rw [List.rdropWhile_concat_neg _ _ _ drops, List.rdropWhile_concat_neg _ _ _ drops,
        List.append_assoc _ rest]

theorem trimChars_trimChars (chars : List Char) :
    trimChars (trimChars chars) = trimChars chars := by
  let led := chars.dropWhile isSpace
  have bare : (led.rdropWhile isSpace).dropWhile isSpace = led.rdropWhile isSpace := by
    rw [List.dropWhile_eq_self_iff]
    intro nonempty
    have front := List.rdropWhile_prefix isSpace led
    have longer : 0 < led.length := Nat.lt_of_lt_of_le nonempty front.length_le
    rw [front.getElem nonempty]
    exact List.dropWhile_get_zero_not isSpace chars longer
  simp only [trimChars, dropEnd_eq_rdropWhile]
  rw [bare, List.rdropWhile_idempotent]

theorem dropWhile_of_stays {drop : Char → Bool} {chars : List Char}
    (stays : ∀ c ∈ chars, drop c = false) : chars.dropWhile drop = chars := by
  cases chars with
  | nil => rfl
  | cons c rest => exact List.dropWhile_cons_of_neg (by simp [stays c List.mem_cons_self])

theorem dropEnd_of_drops {drop : Char → Bool} {chars dropped : List Char}
    (stays : ∀ c ∈ chars, drop c = false) (drops : ∀ c ∈ dropped, drop c = true) :
    dropEnd drop (chars ++ dropped) = chars := by
  rw [dropEnd, List.reverse_append, List.dropWhile_append_of_pos (by simpa using drops),
    dropWhile_of_stays (by simpa using stays), List.reverse_reverse]

theorem trimChars_append {chars blanks : List Char} (bare : ∀ c ∈ chars, isSpace c = false)
    (blank : ∀ c ∈ blanks, isSpace c = true) : trimChars (chars ++ blanks) = chars := by
  cases chars with
  | nil =>
    have none : blanks.dropWhile isSpace = [] := List.dropWhile_eq_nil_iff.mpr blank
    rw [List.nil_append, trimChars, none]
    rfl
  | cons first rest =>
    have front : (first :: rest ++ blanks).dropWhile isSpace = first :: rest ++ blanks :=
      List.dropWhile_cons_of_neg (by simp [bare first List.mem_cons_self])
    rw [trimChars, front, dropEnd_of_drops bare blank]

theorem exists_trimmed (chars : List Char) : ∃ front back,
    chars = front ++ (trimChars chars ++ back) ∧ (∀ c ∈ front, isSpace c = true) ∧
      ∀ c ∈ back, isSpace c = true := by
  refine ⟨chars.takeWhile isSpace, (chars.dropWhile isSpace).rtakeWhile isSpace, ?_,
    fun c => List.mem_takeWhile_imp, fun c => List.mem_rtakeWhile_imp⟩
  rw [trimChars, dropEnd_eq_rdropWhile, List.rdropWhile_append_rtakeWhile,
    List.takeWhile_append_dropWhile]

theorem mem_of_mem_trimChars {chars : List Char} {c : Char} (member : c ∈ trimChars chars) :
    c ∈ chars := by
  simp only [trimChars, dropEnd_eq_rdropWhile] at member
  exact (List.dropWhile_sublist _).subset ((List.rdropWhile_prefix _ _).subset member)

theorem cutAfter_append {α : Type} {ends : α → Bool} {body rest : List α} {last : α}
    (inside : ∀ element ∈ body, ends element = false) (closing : ends last = true) :
    cutAfter ends (body ++ last :: rest) = (body ++ [last]) :: cutAfter ends rest := by
  induction body with
  | nil => simp [cutAfter, closing]
  | cons head others ih =>
    obtain ⟨here, later⟩ := List.forall_mem_cons.mp inside
    simp [cutAfter, here, ih later]

theorem of_mem_cutAfter {α : Type} {ends : α → Bool} {list piece : List α}
    (member : piece ∈ cutAfter ends list) :
    ∃ body, (∀ element ∈ body, ends element = false) ∧
      (piece = body ∨ ∃ last, ends last = true ∧ piece = body ++ [last]) := by
  induction list generalizing piece with
  | nil => simp [cutAfter] at member
  | cons head rest ih =>
    simp only [cutAfter] at member
    split at member
    next closing =>
      rcases List.mem_cons.mp member with rfl | later
      · exact ⟨[], by simp, .inr ⟨head, closing, rfl⟩⟩
      · exact ih later
    next opening =>
      split at member
      next =>
        rw [List.mem_singleton.mp member]
        exact ⟨[head], by simpa using opening, .inl rfl⟩
      next first others pieces =>
        rw [pieces] at ih
        rcases List.mem_cons.mp member with rfl | later
        · obtain ⟨body, inside, shape⟩ := ih List.mem_cons_self
          refine ⟨head :: body, List.forall_mem_cons.mpr ⟨by simpa using opening, inside⟩, ?_⟩
          rcases shape with rfl | ⟨last, closing, rfl⟩
          · exact .inl rfl
          · exact .inr ⟨last, closing, rfl⟩
        · exact ih (List.mem_cons_of_mem _ later)

theorem ne_nil_of_mem_cutAfter {α : Type} {ends : α → Bool} {list piece : List α}
    (member : piece ∈ cutAfter ends list) : piece ≠ [] := by
  induction list generalizing piece with
  | nil => simp [cutAfter] at member
  | cons head rest ih =>
    simp only [cutAfter] at member
    split at member
    next =>
      rcases List.mem_cons.mp member with rfl | later
      · exact List.cons_ne_nil head []
      · exact ih later
    next =>
      split at member
      next => exact List.mem_singleton.mp member ▸ List.cons_ne_nil head []
      next first others pieces =>
        rw [pieces] at ih
        rcases List.mem_cons.mp member with rfl | later
        · exact List.cons_ne_nil head first
        · exact ih (List.mem_cons_of_mem _ later)

theorem cutAfter_of_inside {α : Type} {ends : α → Bool} {list : List α}
    (inside : ∀ element ∈ list, ends element = false) (nonempty : list ≠ []) :
    cutAfter ends list = [list] := by
  induction list with
  | nil => exact absurd rfl nonempty
  | cons head rest ih =>
    obtain ⟨here, later⟩ := List.forall_mem_cons.mp inside
    cases rest with
    | nil => simp [cutAfter, here]
    | cons next others => simp only [cutAfter, here] at ih ⊢; simp [ih later]

theorem cutAfter_of_mem {α : Type} {ends : α → Bool} {list piece : List α}
    (member : piece ∈ cutAfter ends list) : cutAfter ends piece = [piece] := by
  have nonempty := ne_nil_of_mem_cutAfter member
  obtain ⟨body, inside, rfl | ⟨last, closing, rfl⟩⟩ := of_mem_cutAfter member
  · exact cutAfter_of_inside inside nonempty
  · exact cutAfter_append inside closing

theorem lines_flatMap {α : Type} {write : α → List Char} {list : List α}
    (unbroken : ∀ element ∈ list, '\n' ∉ write element) :
    lines (list.flatMap fun element => write element ++ ['\n']) =
      list.map fun element => write element ++ ['\n'] := by
  induction list with
  | nil => rfl
  | cons head rest ih =>
    obtain ⟨here, later⟩ := List.forall_mem_cons.mp unbroken
    have inside : ∀ c ∈ write head, (c == '\n') = false := by
      intro c member
      refine beq_eq_false_iff_ne.mpr fun same => ?_
      exact here (same ▸ member)
    rw [List.flatMap_cons, List.append_assoc, List.singleton_append, lines,
      cutAfter_append inside rfl, List.map_cons]
    exact congrArg _ (ih later)

theorem cutAfter_ended {α : Type} {ends : α → Bool} {body rest : List α} {last : α}
    (closing : ends last = true) :
    cutAfter ends (body ++ last :: rest) =
      cutAfter ends (body ++ [last]) ++ cutAfter ends rest := by
  induction body with
  | nil => simp [cutAfter, closing]
  | cons head others ih =>
    simp only [List.cons_append, cutAfter, ih]
    split
    next => rfl
    next =>
      cases pieces : cutAfter ends (others ++ [last]) with
      | nil =>
        have joined := flatten_cutAfter ends (others ++ [last])
        rw [pieces] at joined
        exact absurd joined.symm (by simp)
      | cons piece more => rfl

theorem lines_append {body rest : List Char} :
    lines ((body ++ ['\n']) ++ rest) = lines (body ++ ['\n']) ++ lines rest := by
  rw [List.append_assoc]
  exact cutAfter_ended rfl

theorem length_lines_ended (body : List Char) :
    (lines (body ++ ['\n'])).length = body.count '\n' + 1 := by
  induction body with
  | nil => rfl
  | cons c rest ih =>
    by_cases ends : c = '\n'
    next =>
      subst ends
      have cut : lines (['\n'] ++ (rest ++ ['\n'])) = ['\n'] :: lines (rest ++ ['\n']) := rfl
      rw [List.cons_append, ← List.singleton_append, cut, List.length_cons, ih,
        List.count_cons_self]
    next =>
      have stays : (c == '\n') = false := beq_eq_false_iff_ne.mpr ends
      rw [List.count_cons_of_ne ends, ← ih]
      simp only [lines, List.cons_append, cutAfter, stays]
      cases pieces : cutAfter (· == '\n') (rest ++ ['\n']) with
      | nil =>
        have joined := flatten_cutAfter (· == '\n') (rest ++ ['\n'])
        rw [pieces] at joined
        exact absurd joined.symm (by simp)
      | cons first others => rfl

theorem length_lines_flatMap_cons {α : Type} (write : α → List Char) (head : α) (rest : List α) :
    (lines ((head :: rest).flatMap fun element => write element ++ ['\n'])).length =
      (write head).count '\n' + 1 +
        (lines (rest.flatMap fun element => write element ++ ['\n'])).length := by
  rw [List.flatMap_cons, lines_append, List.length_append, length_lines_ended]

theorem length_le_lines_flatMap {α : Type} (write : α → List Char) (list : List α) :
    list.length ≤ (lines (list.flatMap fun element => write element ++ ['\n'])).length := by
  induction list with
  | nil => exact Nat.zero_le _
  | cons head rest ih =>
    rw [length_lines_flatMap_cons, List.length_cons]
    omega

theorem length_lines_flatMap_iff {α : Type} {write : α → List Char} {list : List α} :
    (lines (list.flatMap fun element => write element ++ ['\n'])).length = list.length ↔
      ∀ element ∈ list, '\n' ∉ write element := by
  induction list with
  | nil => simp [lines, cutAfter]
  | cons head rest ih =>
    have least := length_le_lines_flatMap write rest
    rw [List.forall_mem_cons, ← ih, ← List.count_eq_zero, length_lines_flatMap_cons,
      List.length_cons]
    omega

theorem bne_of_not_mem {c : Char} {chars : List Char} (absent : c ∉ chars) :
    ∀ d ∈ chars, (d != c) = true :=
  fun _ member => bne_iff_ne.mpr fun same => absent (same ▸ member)

theorem takeWhile_bne {c : Char} {front : List Char} (absent : c ∉ front) (after : List Char) :
    (front ++ c :: after).takeWhile (· != c) = front := by
  simp [List.takeWhile_append_of_pos (bne_of_not_mem absent)]

theorem dropWhile_bne {c : Char} {front : List Char} (absent : c ∉ front) (after : List Char) :
    (front ++ c :: after).dropWhile (· != c) = c :: after := by
  simp [List.dropWhile_append_of_pos (bne_of_not_mem absent)]

theorem prefix_append_cons {c : Char} {front body : List Char} (rest : List Char)
    (absent : c ∉ front) : front <+: body ++ c :: rest ↔ front <+: body := by
  refine ⟨fun begins => ?_, fun begins => begins.trans (List.prefix_append _ _)⟩
  by_cases within : front.length ≤ body.length
  next => exact List.prefix_of_prefix_length_le begins (List.prefix_append _ _) within
  next =>
    have beyond : body.length < front.length := Nat.lt_of_not_le within
    have here : front[body.length] = c := by
      rw [begins.getElem beyond]
      simp
    exact absurd (here ▸ List.getElem_mem beyond) absent

theorem exists_of_join_map {α : Type} (write : α → String) {list : List α} {element : α}
    (member : element ∈ list) :
    ∃ before after, String.join (list.map write) = before ++ write element ++ after := by
  obtain ⟨first, rest, rfl⟩ := List.append_of_mem member
  refine ⟨String.join (first.map write), String.join (rest.map write), ?_⟩
  simp only [List.map_append, List.map_cons, String.join_append, String.join_cons,
    String.append_assoc]

theorem utf8Length_pos {chars : List Char} (nonempty : chars ≠ []) : 0 < utf8Length chars := by
  cases chars with
  | nil => exact absurd rfl nonempty
  | cons c rest => exact Nat.add_pos_left c.utf8Size_pos _

theorem utf8Length_enclosed (first last : Char) (chars : List Char) :
    utf8Length (first :: (chars ++ [last])) =
      first.utf8Size + (utf8Length chars + last.utf8Size) := by
  rw [utf8Length, utf8Length_append]
  rfl

theorem utf8Length_toList (text : String) : utf8Length text.toList = text.utf8ByteSize := by
  suffices length : ∀ chars, utf8Length chars = (String.ofList chars).utf8ByteSize by
    rw [length, String.ofList_toList]
  intro chars
  induction chars with
  | nil => rfl
  | cons c rest ih =>
    have front : String.ofList (c :: rest) = String.singleton c ++ String.ofList rest := by
      rw [String.singleton_eq_ofList, ← String.ofList_append, List.singleton_append]
    rw [front, String.utf8ByteSize_append, String.utf8ByteSize_singleton, utf8Length, ih]

end Runbook.Text
