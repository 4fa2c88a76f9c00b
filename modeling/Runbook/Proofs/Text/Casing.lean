import Runbook.Script.Token
import Runbook.Text.Casing
import Mathlib.Data.List.Chain

set_option autoImplicit false

namespace Runbook.Text

namespace CaseRun

def reach (run : CaseRun) : Nat := run.target + (run.last - run.first)

def misses (run : CaseRun) (code : Nat) : Bool := Nat.blt run.reach code || Nat.blt code run.target

def valid (run : CaseRun) : Bool :=
  Nat.blt run.reach 0xD800 || (Nat.blt 0xDFFF run.target && Nat.blt run.reach 0x110000)

def below (run other : CaseRun) : Bool := Nat.ble run.first run.last && Nat.blt run.last other.first

def settles (run other : CaseRun) : Bool :=
  Nat.blt other.last run.target || Nat.blt run.reach other.first ||
    (other.step == 2 && (run.step == 2 || run.first == run.last) &&
      (run.target + other.first) % 2 == 1)

def near (run : CaseRun) (others : List CaseRun) : List CaseRun :=
  (others.dropWhile fun other => Nat.blt other.last run.target).takeWhile
    fun other => Nat.ble other.first run.reach

end CaseRun

-- Characters that no run leads to: those that end words or start comments, and those that have
-- rules of their own.
def unreached : List Char :=
  [' ', '\t', '\n', '\x0c', '\r', '=', '"', '\x7b', '\x7d', '#', 'İ', 'Σ']

theorem lowerRuns_ascend : lowerRuns.IsChain (fun run other => run.below other = true) := by
  decide +kernel

-- All that is asked of a run is looked at in one pass through the table.
theorem lowerRuns_checked :
    lowerRuns.all (fun run => (unreached.all fun c => run.misses c.toNat) && run.valid &&
      (run.near lowerRuns).all run.settles) = true := by
  decide +kernel

theorem CaseRun.checked {run : CaseRun} (member : run ∈ lowerRuns) :
    (∀ c ∈ unreached, run.misses c.toNat = true) ∧ run.valid = true ∧
      ∀ other ∈ run.near lowerRuns, run.settles other = true := by
  have checked := List.all_eq_true.mp lowerRuns_checked run member
  simpa only [Bool.and_eq_true, and_assoc, List.all_eq_true] using checked

theorem mem_takeWhile_of_pairwise {α : Type} {before : α → α → Prop} {keep : α → Bool}
    (closed : ∀ first second, before first second → keep second = true → keep first = true)
    {list : List α} {element : α} (ordered : list.Pairwise before) (member : element ∈ list)
    (kept : keep element = true) : element ∈ list.takeWhile keep := by
  induction list with
  | nil => exact member
  | cons head rest ih =>
    obtain ⟨leads, tail⟩ := List.pairwise_cons.mp ordered
    rcases List.mem_cons.mp member with rfl | inside
    · simp [kept]
    · simp [closed head element (leads element inside) kept, ih tail inside]

namespace CaseRun

theorem below_iff {run other : CaseRun} :
    run.below other = true ↔ run.first ≤ run.last ∧ run.last < other.first := by
  simp only [below, Bool.and_eq_true, Nat.ble_eq, Nat.blt_eq]

theorem lowerRuns_pairwise : lowerRuns.Pairwise (fun run other => run.below other = true) := by
  have transitive : Trans (fun run other : CaseRun => run.below other = true)
      (fun run other => run.below other = true) (fun run other => run.below other = true) := by
    refine ⟨fun first second => ?_⟩
    rw [below_iff] at first second ⊢
    omega
  exact lowerRuns_ascend.pairwise

theorem mem_near {run other : CaseRun} {others : List CaseRun}
    (ordered : others.Pairwise (fun run other => run.below other = true))
    (member : other ∈ others) (above : run.target ≤ other.last) (within : other.first ≤ run.reach) :
    other ∈ run.near others := by
  -- Runs ascend: those below the images come first, and those above them last.
  let passes := fun other : CaseRun => Nat.blt other.last run.target
  have kept : other ∈ others.dropWhile passes := by
    have split : other ∈ others.takeWhile passes ++ others.dropWhile passes := by
      rwa [List.takeWhile_append_dropWhile]
    rcases List.mem_append.mp split with early | late
    · have passed := List.all_eq_true.mp List.all_takeWhile other early
      simp only [passes, Nat.blt_eq] at passed
      omega
    · exact late
  refine mem_takeWhile_of_pairwise ?_ (ordered.sublist (List.dropWhile_sublist _)) kept
    (by simpa using within)
  intro first second before kept
  simp only [below_iff, Nat.ble_eq] at before kept ⊢
  omega

theorem not_covers_image {run other : CaseRun} (member : run ∈ lowerRuns)
    (also : other ∈ lowerRuns) {c d : Char} (covered : run.covers c = true)
    (image : d.toNat = run.target + (c.toNat - run.first)) : other.covers d = false := by
  simp only [covers, Bool.and_eq_true, decide_eq_true_eq, beq_iff_eq] at covered
  obtain ⟨⟨above, within⟩, step⟩ := covered
  refine Bool.eq_false_iff.mpr fun again => ?_
  simp only [covers, Bool.and_eq_true, decide_eq_true_eq, beq_iff_eq] at again
  obtain ⟨⟨above', within'⟩, step'⟩ := again
  have close : other ∈ run.near lowerRuns :=
    mem_near lowerRuns_pairwise also (by omega) (by simp only [reach]; omega)
  have settled := (checked member).2.2 other close
  simp only [settles, reach, Nat.blt_eq, Bool.or_eq_true, Bool.and_eq_true, beq_iff_eq] at settled
  -- In runs with gaps, images and covered characters differ in parity.
  rcases settled with (beyond | before) | ⟨⟨gaps, gaps' | single⟩, parity⟩
  · omega
  · omega
  · rw [gaps] at step'
    rw [gaps'] at step
    omega
  · rw [gaps] at step'
    omega

theorem toNat_apply {run : CaseRun} (member : run ∈ lowerRuns) {c : Char}
    (covered : run.covers c = true) :
    (run.apply c).toNat = run.target + (c.toNat - run.first) := by
  have valid := (checked member).2.1
  simp only [CaseRun.valid, reach, Bool.or_eq_true, Bool.and_eq_true, Nat.blt_eq] at valid
  simp only [covers, Bool.and_eq_true, decide_eq_true_eq] at covered
  have isChar : (run.target + (c.toNat - run.first)).isValidChar := by
    rcases valid with low | ⟨high, within⟩
    · exact .inl (by omega)
    · exact .inr ⟨by omega, by omega⟩
  rw [apply, Char.ofNat, dif_pos isChar]
  rfl

theorem apply_not_mem_unreached {run : CaseRun} (member : run ∈ lowerRuns) {c : Char}
    (covered : run.covers c = true) : run.apply c ∉ unreached := by
  intro reached
  have missed := (checked member).1 _ reached
  simp only [misses, reach, toNat_apply member covered, Bool.or_eq_true, Nat.blt_eq] at missed
  simp only [covers, Bool.and_eq_true, decide_eq_true_eq] at covered
  omega

end CaseRun

theorem mapRuns_eq_self {c : Char} (uncovered : ∀ run ∈ lowerRuns, run.covers c = false) :
    mapRuns lowerRuns c = c := by
  have absent : lowerRuns.find? (·.covers c) = none :=
    List.find?_eq_none.mpr fun run member => by simp [uncovered run member]
  simp only [mapRuns, absent]

theorem mapRuns_cases (c : Char) :
    mapRuns lowerRuns c = c ∨
      (mapRuns lowerRuns c ∉ unreached ∧
        mapRuns lowerRuns (mapRuns lowerRuns c) = mapRuns lowerRuns c) := by
  cases found : lowerRuns.find? (·.covers c) with
  | none => exact .inl (by simp only [mapRuns, found])
  | some run =>
    have member := List.mem_of_find?_eq_some found
    have covered := List.find?_some (p := fun run : CaseRun => run.covers c) found
    have image : mapRuns lowerRuns c = run.apply c := by simp only [mapRuns, found]
    refine .inr ⟨image ▸ CaseRun.apply_not_mem_unreached member covered, ?_⟩
    refine mapRuns_eq_self fun other also => ?_
    exact CaseRun.not_covers_image member also covered (image ▸ CaseRun.toNat_apply member covered)

def isLowered (c : Char) : Bool := c != 'Σ' && lowerChar c == [c]

theorem isLowered_iff {c : Char} : isLowered c = true ↔ c ≠ 'Σ' ∧ lowerChar c = [c] := by
  simp [isLowered]

theorem isLowered_special : ['ς', 'σ', 'i', '\u0307'].all isLowered = true := by
  decide +kernel

theorem lowerChar_of_ne {c : Char} (plain : c ≠ 'İ') : lowerChar c = [mapRuns lowerRuns c] :=
  if_neg plain

theorem isLowered_mapRuns {c : Char} (capital : c ≠ 'Σ') (dotted : c ≠ 'İ') :
    isLowered (mapRuns lowerRuns c) = true ∧
      (mapRuns lowerRuns c ∈ unreached → mapRuns lowerRuns c = c) := by
  rcases mapRuns_cases c with same | ⟨missed, settled⟩
  · rw [isLowered_iff, same, lowerChar_of_ne dotted, same]
    exact ⟨⟨capital, rfl⟩, fun _ => rfl⟩
  · have plain : mapRuns lowerRuns c ≠ 'İ' := fun same => missed (by rw [same]; decide)
    have small : mapRuns lowerRuns c ≠ 'Σ' := fun same => missed (by rw [same]; decide)
    rw [isLowered_iff, lowerChar_of_ne plain, settled]
    exact ⟨⟨small, rfl⟩, fun reached => absurd reached missed⟩

theorem lowerAfter_cons (before : List Char) (c : Char) (rest : List Char) :
    ∃ first others,
      lowerAfter before (c :: rest) = first :: others ++ lowerAfter (c :: before) rest ∧
      ∀ d ∈ first :: others, isLowered d = true ∧ (d ∈ unreached → d = c) := by
  have special := List.all_eq_true.mp isLowered_special
  simp only [lowerAfter]
  split
  next sigma =>
    refine ⟨_, [], rfl, ?_⟩
    simp only [List.mem_singleton, forall_eq]
    split
    · exact ⟨special _ (by simp), fun reached => absurd reached (by decide)⟩
    · exact ⟨special _ (by simp), fun reached => absurd reached (by decide)⟩
  next capital =>
    by_cases dotted : c = 'İ'
    · refine ⟨'i', ['\u0307'], by rw [lowerChar, if_pos dotted], ?_⟩
      simp only [List.mem_cons, List.not_mem_nil, or_false]
      rintro d (rfl | rfl)
      · exact ⟨special _ (by simp), fun reached => absurd reached (by decide)⟩
      · exact ⟨special _ (by simp), fun reached => absurd reached (by decide)⟩
    · refine ⟨mapRuns lowerRuns c, [], by rw [lowerChar_of_ne dotted], ?_⟩
      simp only [List.mem_singleton, forall_eq]
      exact isLowered_mapRuns capital dotted

theorem mem_lowerAfter {before chars : List Char} {d : Char}
    (member : d ∈ lowerAfter before chars) :
    isLowered d = true ∧ (d ∈ unreached → d ∈ chars) := by
  induction chars generalizing before with
  | nil => simp [lowerAfter] at member
  | cons c rest ih =>
    obtain ⟨first, others, same, lowered⟩ := lowerAfter_cons before c rest
    rw [same] at member
    rcases List.mem_append.mp member with here | later
    · obtain ⟨small, same⟩ := lowered d here
      exact ⟨small, fun reached => List.mem_cons.mpr (.inl (same reached))⟩
    · obtain ⟨small, kept⟩ := ih later
      exact ⟨small, fun reached => List.mem_cons_of_mem c (kept reached)⟩

theorem lowerAfter_eq_self {before chars : List Char} (lowered : ∀ c ∈ chars, isLowered c = true) :
    lowerAfter before chars = chars := by
  induction chars generalizing before with
  | nil => rfl
  | cons c rest ih =>
    obtain ⟨here, later⟩ := List.forall_mem_cons.mp lowered
    obtain ⟨capital, same⟩ := isLowered_iff.mp here
    rw [lowerAfter, if_neg capital, same, ih later]
    rfl

theorem lowerChars_lowerChars (chars : List Char) :
    lowerChars (lowerChars chars) = lowerChars chars :=
  lowerAfter_eq_self fun _ member => (mem_lowerAfter member).1

theorem lowercase_lowercase (text : String) : lowercase (lowercase text) = lowercase text := by
  simp only [lowercase, String.toList_ofList, lowerChars_lowerChars]

def asciiCapitals : List Char := (List.range 26).map fun index => Char.ofNat (65 + index)

theorem toLower_eq_self_or (c : Char) : c.toLower = c ∨ c ∈ asciiCapitals := by
  by_cases capital : 65 ≤ c.toNat ∧ c.toNat ≤ 90
  · refine .inr (List.mem_map.mpr ⟨c.toNat - 65, List.mem_range.mpr (by omega), ?_⟩)
    rw [Nat.add_sub_cancel' capital.1, Char.ofNat_toNat]
  · refine .inl ?_
    unfold Char.toLower
    split
    next inside => exact absurd inside capital
    next => rfl

theorem asciiCapitals_checked : asciiCapitals.all (fun c =>
    (c.toLower != 'Σ' && c != 'Σ') && lowerChar c.toLower == lowerChar c &&
      isCased c.toLower == isCased c && (Nat.ble 65 c.toNat && Nat.ble c.toNat 90) &&
      (Nat.ble 97 c.toLower.toNat && Nat.ble c.toLower.toNat 122)) = true := by
  decide +kernel

structure Capital (c : Char) : Prop where
  notSigma : c.toLower ≠ 'Σ' ∧ c ≠ 'Σ'
  lowered : lowerChar c.toLower = lowerChar c
  cased : isCased c.toLower = isCased c
  code : 65 ≤ c.toNat ∧ c.toNat ≤ 90
  lowerCode : 97 ≤ c.toLower.toNat ∧ c.toLower.toNat ≤ 122

theorem capital_of_mem {c : Char} (member : c ∈ asciiCapitals) : Capital c := by
  have checked := List.all_eq_true.mp asciiCapitals_checked c member
  simp only [Bool.and_eq_true, bne_iff_ne, beq_iff_eq, Nat.ble_eq] at checked
  obtain ⟨⟨⟨⟨notSigma, lowered⟩, cased⟩, code⟩, lowerCode⟩ := checked
  exact ⟨notSigma, lowered, cased, code, lowerCode⟩

theorem toLower_eq_sigma_iff (c : Char) : c.toLower = 'Σ' ↔ c = 'Σ' := by
  rcases toLower_eq_self_or c with same | capital
  · rw [same]
  · obtain ⟨lower, upper⟩ := (capital_of_mem capital).notSigma
    exact iff_of_false lower upper

theorem lowerChar_toLower (c : Char) : lowerChar c.toLower = lowerChar c := by
  rcases toLower_eq_self_or c with same | capital
  · rw [same]
  · exact (capital_of_mem capital).lowered

theorem isCased_toLower (c : Char) : isCased c.toLower = isCased c := by
  rcases toLower_eq_self_or c with same | capital
  · rw [same]
  · exact (capital_of_mem capital).cased

def spares (first last : Nat) (range : Nat × Nat) : Bool :=
  Nat.blt range.2 first || Nat.blt last range.1

theorem within_eq_false {ranges : List (Nat × Nat)} {first last : Nat}
    (spared : ranges.all (spares first last) = true) {c : Char} (above : first ≤ c.toNat)
    (below : c.toNat ≤ last) : within ranges c = false := by
  refine List.any_eq_false.mpr fun range member inside => ?_
  have apart := List.all_eq_true.mp spared range member
  simp only [spares, Bool.or_eq_true, Nat.blt_eq, Bool.and_eq_true, decide_eq_true_eq]
    at apart inside
  omega

theorem ignorableRanges_spared :
    ignorableRanges.all (spares 65 90) = true ∧ ignorableRanges.all (spares 97 122) = true := by
  decide +kernel

theorem isCaseIgnorable_toLower (c : Char) : isCaseIgnorable c.toLower = isCaseIgnorable c := by
  rcases toLower_eq_self_or c with same | capital
  · rw [same]
  · obtain ⟨above, below⟩ := (capital_of_mem capital).code
    obtain ⟨above', below'⟩ := (capital_of_mem capital).lowerCode
    obtain ⟨capitals, smalls⟩ := ignorableRanges_spared
    have large : isCaseIgnorable c = false := within_eq_false capitals above below
    have small : isCaseIgnorable c.toLower = false := within_eq_false smalls above' below'
    rw [large, small]

theorem leadsWithCased_toLower (chars : List Char) :
    leadsWithCased (chars.map Char.toLower) = leadsWithCased chars := by
  have ignorable : isCaseIgnorable ∘ Char.toLower = isCaseIgnorable :=
    funext isCaseIgnorable_toLower
  unfold leadsWithCased
  rw [List.dropWhile_map, ignorable]
  cases chars.dropWhile isCaseIgnorable with
  | nil => rfl
  | cons c rest => exact isCased_toLower c

theorem lowerAfter_toLower (before chars : List Char) :
    lowerAfter (before.map Char.toLower) (chars.map Char.toLower) = lowerAfter before chars := by
  induction chars generalizing before with
  | nil => rfl
  | cons c rest ih =>
    have later := ih (c :: before)
    rw [List.map_cons] at later
    simp only [List.map_cons, lowerAfter, toLower_eq_sigma_iff, leadsWithCased_toLower,
      lowerChar_toLower, later]

theorem lowercase_eq_of_toLower {first second : String}
    (same : first.toList.map Char.toLower = second.toList.map Char.toLower) :
    lowercase first = lowercase second := by
  have blind (chars : List Char) : lowerChars chars = lowerChars (chars.map Char.toLower) :=
    (lowerAfter_toLower [] chars).symm
  rw [lowercase, lowercase, blind first.toList, same, ← blind]

end Runbook.Text
