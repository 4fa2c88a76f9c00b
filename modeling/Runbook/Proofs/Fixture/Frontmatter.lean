import Runbook.Fixture.Frontmatter
import Runbook.Proofs.Text.Lines

set_option autoImplicit false

namespace Runbook

namespace Frontmatter

structure Line where
  chars : List Char
  bare : '\r' ∉ chars
  unbroken : '\n' ∉ chars
  undashed : ¬ dashes <+: chars

inductive LineEnding where
  | bare
  | returned

def LineEnding.lead : LineEnding → List Char
  | .bare => []
  | .returned => ['\r']

def LineEnding.chars (ending : LineEnding) : List Char := ending.lead ++ ['\n']

variable (ending : LineEnding)

def joined : List Line → List Char
  | [] => []
  | [line] => line.chars
  | line :: rest => line.chars ++ ending.chars ++ joined rest

def opened (lines : List Line) (source : List Char) : List Char :=
  lines.flatMap (fun line => line.chars ++ ending.chars) ++ dashes ++ ending.chars ++ source

def fileOf (marked : Bool) (lines : List Line) (source : String) : String :=
  String.ofList ((if marked then ['\ufeff'] else []) ++ dashes ++ ending.chars ++
    opened ending lines source.toList)

def expectations? (block : List Char) : Option Expectations :=
  (Toml.ofChars? block).bind Expectations.ofTable?

theorem cutAtDashes_append {front : List Char} (rest : List Char) (unbroken : '\n' ∉ front) :
    cutAtDashes (front ++ rest) =
      (cutAtDashes rest).map fun sides => (front ++ sides.1, sides.2) := by
  induction front with
  | nil => simp
  | cons c front ih =>
    have here : c ≠ '\n' := fun newline => unbroken (newline ▸ List.mem_cons_self)
    have later : '\n' ∉ front := fun member => unbroken (List.mem_cons_of_mem c member)
    rw [List.cons_append, cutAtDashes, ih later, Option.map_map]
    next => rfl
    next => exact fun _ newline => absurd newline here

theorem cutAtDashes_newline (rest : List Char) :
    cutAtDashes ('\n' :: rest) =
      if dashes <+: rest then some ([], rest.drop 3)
      else (cutAtDashes rest).map fun sides => ('\n' :: sides.1, sides.2) := by
  split
  next dashed =>
    obtain ⟨after, rfl⟩ := dashed
    rfl
  next undashed =>
    rw [cutAtDashes]
    rintro after - rfl
    exact undashed ⟨after, rfl⟩

theorem cutAtDashes_newline_eq_none_iff (rest : List Char) :
    cutAtDashes ('\n' :: rest) = none ↔ ¬ dashes <+: rest ∧ cutAtDashes rest = none := by
  rw [cutAtDashes_newline]
  split <;> simp [*]

theorem cutAtDashes_unbroken {chars : List Char} (unbroken : '\n' ∉ chars) :
    cutAtDashes chars = none := by
  have cut := cutAtDashes_append [] unbroken
  rwa [List.append_nil] at cut

variable {ending} in
theorem LineEnding.not_mem_lead : '\n' ∉ ending.lead := by
  cases ending <;> decide

theorem Line.not_mem_lead (line : Line) : '\n' ∉ line.chars ++ ending.lead :=
  List.not_mem_append line.unbroken LineEnding.not_mem_lead

theorem Line.undashed_append (line : Line) (rest : List Char) :
    ¬ dashes <+: line.chars ++ ending.chars ++ rest := by
  rw [List.append_assoc]
  cases ending <;>
    exact fun dashed => line.undashed ((Text.prefix_append_cons _ (by decide)).mp dashed)

-- From the last line to the first: the newline that closes a line is what the dashes, or the line
-- behind it, stand after.
theorem cutAtDashes_opened (line : Line) (lines : List Line) (source : List Char) :
    cutAtDashes (opened ending (line :: lines) source) =
      some (joined ending (line :: lines) ++ ending.lead, ending.chars ++ source) := by
  induction lines generalizing line with
  | nil =>
    have shape : opened ending [line] source =
        (line.chars ++ ending.lead) ++ '\n' :: (dashes ++ (ending.chars ++ source)) := by
      simp [opened, LineEnding.chars]
    rw [shape, cutAtDashes_append _ (line.not_mem_lead ending), cutAtDashes_newline,
      if_pos (List.prefix_append _ _)]
    simp [joined, dashes]
  | cons next rest ih =>
    have shape : opened ending (line :: next :: rest) source =
        (line.chars ++ ending.lead) ++ '\n' :: opened ending (next :: rest) source := by
      simp [opened, LineEnding.chars]
    have undashed : ¬ dashes <+: opened ending (next :: rest) source := by
      simpa [opened] using next.undashed_append ending _
    rw [shape, cutAtDashes_append _ (line.not_mem_lead ending), cutAtDashes_newline,
      if_neg undashed, ih next]
    simp [joined, LineEnding.chars]

theorem Line.stays (line : Line) : ∀ c ∈ line.chars, (c == '\r') = false :=
  fun _ member => beq_eq_false_iff_ne.mpr fun returned => line.bare (returned ▸ member)

theorem dropEnd_joined (line : Line) (lines : List Line) :
    Text.dropEnd (· == '\r') (joined ending (line :: lines) ++ ending.lead) =
      joined ending (line :: lines) := by
  induction lines generalizing line with
  | nil => exact Text.dropEnd_of_drops line.stays (by cases ending <;> simp [LineEnding.lead])
  | cons next rest ih =>
    have shape : joined ending (line :: next :: rest) =
        (line.chars ++ ending.lead) ++ ['\n'] ++ joined ending (next :: rest) := by
      simp [joined, LineEnding.chars]
    rw [shape, List.append_assoc _ _ ending.lead, Text.dropEnd_append (by decide), ih next]

variable {ending} in
theorem dropLineEnd_chars (rest : List Char) : dropLineEnd (ending.chars ++ rest) = rest := by
  cases ending <;> rfl

theorem dropWhile_fileOf (marked : Bool) (lines : List Line) (source : String) :
    (fileOf ending marked lines source).toList.dropWhile isMark =
      '-' :: '-' :: '-' :: (ending.chars ++ opened ending lines source.toList) := by
  cases marked <;> simp [fileOf, dashes, isMark]

theorem split_fileOf {marked : Bool} {lines : List Line} {source : String} {block rest : List Char}
    (cut : cutAtDashes (opened ending lines source.toList) = some (block, rest)) :
    split (fileOf ending marked lines source).toList =
      .ok (Text.dropEnd (· == '\r') block, dropLineEnd rest) := by
  simp only [split, dropWhile_fileOf, dropLineEnd_chars, cut]

theorem split_unclosed {marked : Bool} {lines : List Line} {source : String}
    (missing : cutAtDashes (opened ending lines source.toList) = none) :
    split (fileOf ending marked lines source).toList = .error .notClosed := by
  simp only [split, dropWhile_fileOf, dropLineEnd_chars, missing]

theorem split_written (marked : Bool) (line : Line) (lines : List Line) (source : String) :
    split (fileOf ending marked (line :: lines) source).toList =
      .ok (joined ending (line :: lines), source.toList) := by
  rw [split_fileOf ending (cutAtDashes_opened ending line lines source.toList), dropEnd_joined,
    dropLineEnd_chars]

theorem unifyLineEnds_append {front : List Char} (rest : List Char) (bare : '\r' ∉ front) :
    Toml.unifyLineEnds (front ++ rest) = front ++ Toml.unifyLineEnds rest := by
  induction front with
  | nil => rfl
  | cons c front ih =>
    have here : c ≠ '\r' := fun returned => bare (returned ▸ List.mem_cons_self)
    have later : '\r' ∉ front := fun member => bare (List.mem_cons_of_mem c member)
    rw [List.cons_append, Toml.unifyLineEnds, ih later]
    next => rfl
    next => exact fun _ returned => absurd returned here

theorem unifyLineEnds_chars (rest : List Char) :
    Toml.unifyLineEnds (ending.chars ++ rest) = '\n' :: Toml.unifyLineEnds rest := by
  cases ending <;> simp [LineEnding.chars, LineEnding.lead, Toml.unifyLineEnds]

theorem unifyLineEnds_joined (lines : List Line) :
    Toml.unifyLineEnds (joined ending lines) = joined .bare lines := by
  induction lines with
  | nil => rfl
  | cons line rest ih =>
    cases rest with
    | nil =>
      have unified := unifyLineEnds_append [] line.bare
      simpa [joined, Toml.unifyLineEnds] using unified
    | cons next rest =>
      simp only [joined, List.append_assoc] at ih ⊢
      rw [unifyLineEnds_append _ line.bare, unifyLineEnds_chars, ih]
      rfl

theorem unifyLineEnds_dropMark (chars : List Char) :
    Toml.unifyLineEnds (Toml.dropMark chars) = Toml.dropMark (Toml.unifyLineEnds chars) := by
  fun_cases Toml.unifyLineEnds chars
  next => rfl
  next => simp [Toml.dropMark, Toml.unifyLineEnds]
  next c rest single =>
    by_cases mark : c = '\ufeff'
    next =>
      subst mark
      rfl
    next =>
      have kept : Toml.unifyLineEnds (c :: rest) = c :: Toml.unifyLineEnds rest := by
        rw [Toml.unifyLineEnds]
        exact single
      simp [Toml.dropMark, mark, kept]

theorem expectations_joined (lines : List Line) :
    expectations? (joined ending lines) = expectations? (joined .bare lines) := by
  simp only [expectations?, Toml.ofChars?, unifyLineEnds_dropMark, unifyLineEnds_joined]

theorem readEntry_dashes {rest : List Char} (document : Toml.Document)
    (ended : ∀ c ∈ rest.head?, c = '\r' ∨ c = '\n') :
    Toml.readEntry document (dashes ++ rest) = none := by
  cases rest with
  | nil => rfl
  | cons c rest => rcases ended c rfl with rfl | rfl <;> rfl

theorem head_unifyLineEnds {chars : List Char}
    (ended : ∀ c ∈ chars.head?, c = '\r' ∨ c = '\n') :
    ∀ c ∈ (Toml.unifyLineEnds chars).head?, c = '\r' ∨ c = '\n' := by
  fun_cases Toml.unifyLineEnds chars
  next => exact ended
  next => simp
  next => simpa using ended

theorem ofChars_dashes {rest : List Char} (ended : ∀ c ∈ rest.head?, c = '\r' ∨ c = '\n') :
    Toml.ofChars? (dashes ++ rest) = none := by
  have bare : '\r' ∉ dashes := by decide
  have unified : Toml.unifyLineEnds (Toml.dropMark (dashes ++ rest)) =
      dashes ++ Toml.unifyLineEnds rest :=
    unifyLineEnds_append rest bare
  have refused : Toml.readEntries .empty (dashes ++ Toml.unifyLineEnds rest) = none := by
    rw [dashes, List.cons_append, Toml.readEntries]
    have entry := readEntry_dashes .empty (head_unifyLineEnds ended)
    rw [dashes, List.cons_append] at entry
    rw [entry]
  rw [Toml.ofChars?, unified, refused]
  rfl

theorem cutAtDashes_eq_none_iff (chars : List Char) :
    cutAtDashes ('\n' :: chars) = none ↔ ∀ line ∈ Text.lines chars, ¬ dashes <+: line := by
  induction size : chars.length using Nat.strong_induction_on generalizing chars with
  | _ _ ih =>
    rw [cutAtDashes_newline_eq_none_iff]
    by_cases broken : '\n' ∈ chars
    next =>
      obtain ⟨body, rest, rfl, unbroken⟩ := List.eq_append_cons_of_mem broken
      have lines : Text.lines (body ++ '\n' :: rest) =
          (body ++ ['\n']) :: Text.lines rest :=
        Text.cutAfter_append
          (fun c member => beq_eq_false_iff_ne.mpr fun newline => unbroken (newline ▸ member)) rfl
      have shorter : rest.length < (body ++ '\n' :: rest).length := by
        rw [List.length_append, List.length_cons]
        omega
      rw [lines, List.forall_mem_cons, ← ih _ (size ▸ shorter) rest rfl,
        Text.prefix_append_cons rest (by decide), Text.prefix_append_cons [] (by decide),
        cutAtDashes_append _ unbroken, Option.map_eq_none_iff]
    next =>
      rw [cutAtDashes_unbroken broken]
      by_cases empty : chars = []
      next =>
        subst empty
        simp [Text.lines, Text.cutAfter, dashes]
      next =>
        have whole : Text.lines chars = [chars] :=
          Text.cutAfter_of_inside
            (fun c member => beq_eq_false_iff_ne.mpr fun newline => broken (newline ▸ member))
            empty
        simp [whole]

theorem head_of_cut {chars block rest : List Char}
    (cut : cutAtDashes ('\n' :: chars) = some (block, rest)) :
    ∀ c ∈ (ending.lead ++ block).head?, c = '\r' ∨ c = '\n' := by
  have newline : ∀ c ∈ block.head?, c = '\n' := by
    rw [cutAtDashes_newline] at cut
    split at cut
    next =>
      cases cut
      simp
    next =>
      obtain ⟨sides, -, same⟩ := Option.map_eq_some_iff.mp cut
      cases same
      simp
  cases ending with
  | bare => exact fun c head => .inr (newline c head)
  | returned => simp [LineEnding.lead]

theorem head_dropEnd {drop : Char → Bool} {chars : List Char} {c : Char}
    (head : c ∈ (Text.dropEnd drop chars).head?) : c ∈ chars.head? := by
  obtain ⟨tail, whole⟩ := List.rdropWhile_prefix drop chars
  rw [Text.dropEnd_eq_rdropWhile] at head
  rw [← whole, List.head?_append_of_ne_nil]
  next => exact head
  next =>
    intro empty
    simp [empty] at head

-- Without a line in it the block is not closed by its own dashes: these start the block, and what
-- closes it are dashes in the script.
theorem read_empty (marked : Bool) (source : String) :
    Frontmatter.read (fileOf ending marked [] source) =
      .error (if ∃ line ∈ Text.lines source.toList, dashes <+: line then .badToml
        else .notClosed) := by
  have shape : opened ending [] source.toList =
      (dashes ++ ending.lead) ++ '\n' :: source.toList := by
    simp [opened, LineEnding.chars]
  have front : '\n' ∉ dashes ++ ending.lead :=
    List.not_mem_append (by decide) LineEnding.not_mem_lead
  have absent : (∃ line ∈ Text.lines source.toList, dashes <+: line) ↔
      cutAtDashes ('\n' :: source.toList) ≠ none := by
    simp [cutAtDashes_eq_none_iff]
  simp only [absent]
  have behind := cutAtDashes_append ('\n' :: source.toList) front
  rw [← shape] at behind
  cases cut : cutAtDashes ('\n' :: source.toList) with
  | none =>
    rw [cut] at behind
    simp [Frontmatter.read, split_unclosed ending behind]
  | some sides =>
    obtain ⟨block, rest⟩ := sides
    rw [cut] at behind
    have kept : Text.dropEnd (· == '\r') (dashes ++ (ending.lead ++ block)) =
        dashes ++ Text.dropEnd (· == '\r') (ending.lead ++ block) :=
      @Text.dropEnd_append _ ['-', '-'] _ '-' (by decide)
    have refused : Toml.ofChars? (Text.dropEnd (· == '\r') (dashes ++ (ending.lead ++ block))) =
        none := by
      rw [kept]
      exact ofChars_dashes fun c head => head_of_cut ending cut c (head_dropEnd head)
    simp [Frontmatter.read, split_fileOf ending behind, refused]

/-- A file made of a block of lines and a script is read as what the lines say and that script,
whichever line ends the block has and whether a mark stands in front, if there is a line; if there
is none, it is refused, since the dashes behind the opening ones are not found. -/
theorem read_fileOf (marked : Bool) (lines : List Line) (source : String)
    (expectations : Expectations)
    (valid : expectations? (joined .bare lines) = some expectations) :
    expectations? (joined ending lines) = some expectations ∧
      Frontmatter.read (fileOf ending marked lines source) =
        match lines with
        | [] =>
          .error (if ∃ line ∈ Text.lines source.toList, dashes <+: line then .badToml
            else .notClosed)
        | _ :: _ => .ok (expectations, source) := by
  have same := (expectations_joined ending lines).trans valid
  refine ⟨same, ?_⟩
  cases lines with
  | nil => exact read_empty ending marked source
  | cons line rest =>
    simp only [expectations?] at same
    simp only [Frontmatter.read, split_written, same, String.ofList_toList]

def quotaLine : Line := ⟨"expect_error = \"quota\"".toList, by decide, by decide, by decide⟩

theorem read_fileOf_dashed_script :
    fileOf .returned true [quotaLine] "create vpc\n---\n" =
        "\ufeff---\r\nexpect_error = \"quota\"\r\n---\r\ncreate vpc\n---\n" ∧
      ∃ expectations, expectations.error? = some "quota" ∧
        Frontmatter.read (fileOf .returned true [quotaLine] "create vpc\n---\n") =
          .ok (expectations, "create vpc\n---\n") := by
  have quota : (expectations? (joined .bare [quotaLine])).map Expectations.error? =
      some (some "quota") := by
    decide +kernel
  obtain ⟨expectations, valid, error⟩ := Option.map_eq_some_iff.mp quota
  exact ⟨rfl, expectations, error, (read_fileOf .returned true [quotaLine] _ _ valid).2⟩

theorem empty_block_unread :
    (expectations? (joined .bare [])).isSome = true ∧
      fileOf .bare false [] "create vpc\n" = "---\n---\ncreate vpc\n" ∧
      Frontmatter.read "---\n---\ncreate vpc\n" = .error .notClosed :=
  ⟨by decide +kernel, rfl, rfl⟩

end Frontmatter

end Runbook
