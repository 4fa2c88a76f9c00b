import Runbook.Proofs.Dict
import Runbook.Script.Template

set_option autoImplicit false

namespace Runbook

def Hole.argument (hole : Hole) : Option Value → Argument
  | some value => .given value
  | none => .hole hole.key

def Argument.fillWith (value? : Hole → Option Value) (position : Nat) (parameter : String) :
    Argument → Argument
  | .given value => .given value
  | .hole key => (Hole.mk position parameter key).argument (value? ⟨position, parameter, key⟩)

namespace Statement

def fillWith (value? : Hole → Option Value) (position : Nat) (statement : Statement) : Statement :=
  statement.changeArguments (·.mapKeyed (Argument.fillWith value? position))

def outline (statement : Statement) : Option String × String × String × List String × Span :=
  (statement.name?, statement.call.action, statement.call.kind, statement.call.arguments.keys,
    statement.span)

@[simp] theorem outline_fillWith (value? : Hole → Option Value) (position : Nat)
    (statement : Statement) : (statement.fillWith value? position).outline = statement.outline := by
  simp [outline, fillWith, changeArguments]

end Statement

namespace Script

def fillFrom (value? : Hole → Option Value) : (position : Nat) → List Statement → List Statement
  | _, [] => []
  | position, statement :: rest =>
    statement.fillWith value? position :: fillFrom value? (position + 1) rest

def fillWith (value? : Hole → Option Value) (script : Script) : Script :=
  { script with statements := fillFrom value? 0 script.statements }

def argument? (script : Script) (position : Nat) (parameter : String) : Option Argument :=
  script.statements[position]?.bind (·.call.arguments.get? parameter)

structure FilledBy (value? : Hole → Option Value) (script later : Script) : Prop where
  file : later.file = script.file
  outlines : later.statements.map Statement.outline = script.statements.map Statement.outline
  filled : ∀ hole ∈ script.holes, ∀ value, value? hole = some value →
    later.argument? hole.statement hole.parameter = some (.given value)
  others : ∀ position parameter,
    (∀ hole ∈ script.holes, hole.statement = position → hole.parameter = parameter →
      value? hole = none) →
    later.argument? position parameter = script.argument? position parameter

end Script

namespace Argument

theorem fillWith_fillWith (first second : Hole → Option Value) (position : Nat)
    (parameter : String) (argument : Argument) :
    (argument.fillWith first position parameter).fillWith second position parameter =
      argument.fillWith (fun hole => (first hole).or (second hole)) position parameter := by
  cases argument with
  | given value => rfl
  | hole key =>
    cases chosen : first ⟨position, parameter, key⟩ <;>
      simp [fillWith, Hole.argument, chosen]

theorem fill_eq_fillWith (fills : Fills) (position : Nat) (parameter : String)
    (argument : Argument) :
    argument.fill fills =
      argument.fillWith (fun hole => fills.get? hole.key) position parameter := by
  cases argument with
  | given value => rfl
  | hole key => cases found : fills.get? key <;> simp [fill, fillWith, Hole.argument, found]

end Argument

namespace Statement

theorem fillWith_fillWith (first second : Hole → Option Value) (position : Nat)
    (statement : Statement) :
    (statement.fillWith first position).fillWith second position =
      statement.fillWith (fun hole => (first hole).or (second hole)) position := by
  simp [fillWith, changeArguments, Dict.mapKeyed, Argument.fillWith_fillWith]

theorem fill_eq_fillWith (fills : Fills) (position : Nat) (statement : Statement) :
    statement.changeArguments (·.map (·.fill fills)) =
      statement.fillWith (fun hole => fills.get? hole.key) position := by
  simp [fillWith, changeArguments, Dict.map, Dict.mapKeyed, ← Argument.fill_eq_fillWith]

theorem mem_holesAt {position : Nat} {statement : Statement} {hole : Hole} :
    hole ∈ statement.holesAt position ↔ hole.statement = position ∧
      (hole.parameter, Argument.hole hole.key) ∈ statement.call.arguments.entries := by
  simp only [holesAt, Call.holes, List.mem_map, List.mem_filterMap]
  constructor
  next =>
    rintro ⟨⟨parameter, key⟩, ⟨⟨name, argument⟩, member, waits⟩, rfl⟩
    cases argument <;> simp_all [Argument.key?]
  next =>
    rintro ⟨rfl, member⟩
    exact ⟨_, ⟨_, member, rfl⟩, rfl⟩

theorem holesAt_nodup (position : Nat) (statement : Statement) :
    (statement.holesAt position).Nodup := by
  have distinct := statement.call.arguments.distinct_keys
  simp only [Dict.keys, holesAt, Call.holes] at distinct ⊢
  rw [List.map_filterMap]
  refine List.Pairwise.filterMap _ ?_ (List.pairwise_map.mp distinct)
  rintro ⟨parameter, argument⟩ ⟨other, argument'⟩ apart hole first _ second rfl
  cases argument with
  | given value => simp [Argument.key?] at first
  | hole key =>
    cases argument' with
    | given value => simp [Argument.key?] at second
    | hole key' =>
      simp only [Argument.key?, Option.map_some, Option.some.injEq] at first second
      exact apart (congrArg Hole.parameter (first.trans second.symm))

theorem holesAt_fillWith (value? : Hole → Option Value) (position : Nat) (statement : Statement) :
    (statement.fillWith value? position).holesAt position =
      (statement.holesAt position).filter fun hole => (value? hole).isNone := by
  simp only [fillWith, changeArguments, holesAt, Call.holes, Dict.mapKeyed]
  induction statement.call.arguments.entries with
  | nil => rfl
  | cons entry rest ih =>
    obtain ⟨parameter, argument⟩ := entry
    cases argument with
    | given value => simpa [Argument.fillWith, Argument.key?] using ih
    | hole key =>
      cases chosen : value? ⟨position, parameter, key⟩ with
      | none => simpa [Argument.fillWith, Hole.argument, Argument.key?, chosen] using ih
      | some value => simpa [Argument.fillWith, Hole.argument, Argument.key?, chosen] using ih

theorem get?_fillWith (value? : Hole → Option Value) (position : Nat) (statement : Statement)
    (parameter : String) :
    (statement.fillWith value? position).call.arguments.get? parameter =
      (statement.call.arguments.get? parameter).map
        (Argument.fillWith value? position parameter) :=
  Dict.get?_mapKeyed _ _ _

theorem isResolved_iff {position : Nat} {statement : Statement} :
    statement.call.isResolved = true ↔ statement.holesAt position = [] := by
  rw [List.eq_nil_iff_forall_not_mem]
  simp only [Call.isResolved, Dict.values, List.all_map, List.all_eq_true, mem_holesAt]
  constructor
  next =>
    rintro resolved hole ⟨-, member⟩
    simpa [Argument.isHole] using resolved _ member
  next =>
    rintro empty ⟨parameter, argument⟩ member
    cases argument with
    | given value => rfl
    | hole key => exact absurd ⟨rfl, member⟩ (empty ⟨position, parameter, key⟩)

end Statement

namespace Script

theorem fillFrom_fillFrom (first second : Hole → Option Value) (position : Nat)
    (statements : List Statement) :
    fillFrom second position (fillFrom first position statements) =
      fillFrom (fun hole => (first hole).or (second hole)) position statements := by
  induction statements generalizing position with
  | nil => rfl
  | cons statement rest ih => simp only [fillFrom, Statement.fillWith_fillWith, ih]

theorem fillWith_fillWith (first second : Hole → Option Value) (script : Script) :
    (script.fillWith first).fillWith second =
      script.fillWith fun hole => (first hole).or (second hole) := by
  simp only [fillWith, fillFrom_fillFrom]

theorem map_fill_eq_fillFrom (fills : Fills) (position : Nat) (statements : List Statement) :
    statements.map (·.changeArguments (·.map (·.fill fills))) =
      fillFrom (fun hole => fills.get? hole.key) position statements := by
  induction statements generalizing position with
  | nil => rfl
  | cons statement rest ih =>
    rw [List.map_cons, fillFrom, ih (position + 1), Statement.fill_eq_fillWith]

theorem fill_eq_fillWith (fills : Fills) (script : Script) :
    script.fill fills = script.fillWith fun hole => fills.get? hole.key := by
  rw [fill, map_fill_eq_fillFrom fills 0, fillWith]

theorem holesFrom_fillFrom (value? : Hole → Option Value) (position : Nat)
    (statements : List Statement) :
    holesFrom position (fillFrom value? position statements) =
      (holesFrom position statements).filter fun hole => (value? hole).isNone := by
  induction statements generalizing position with
  | nil => rfl
  | cons statement rest ih =>
    rw [fillFrom, holesFrom, Statement.holesAt_fillWith, ih, holesFrom, List.filter_append]

theorem holes_fillWith (value? : Hole → Option Value) (script : Script) :
    (script.fillWith value?).holes = script.holes.filter fun hole => (value? hole).isNone :=
  holesFrom_fillFrom value? 0 script.statements

theorem mem_holesFrom {position : Nat} {statements : List Statement} {hole : Hole} :
    hole ∈ holesFrom position statements ↔ ∃ (index : Nat) (statement : Statement),
      statements[index]? = some statement ∧ hole ∈ statement.holesAt (position + index) := by
  induction statements generalizing position with
  | nil => simp [holesFrom]
  | cons statement rest ih =>
    rw [holesFrom, List.mem_append, ih]
    constructor
    next =>
      rintro (here | ⟨index, later, found, member⟩)
      · exact ⟨0, statement, rfl, here⟩
      · exact ⟨index + 1, later, found, by rwa [Nat.add_comm index, ← Nat.add_assoc]⟩
    next =>
      rintro ⟨index, later, found, member⟩
      cases index with
      | zero =>
        obtain rfl : statement = later := by simpa using found
        exact .inl member
      | succ index =>
        exact .inr ⟨index, later, by simpa using found,
          by rwa [Nat.add_assoc, Nat.add_comm 1]⟩

theorem mem_holes_iff {script : Script} {hole : Hole} :
    hole ∈ script.holes ↔
      script.argument? hole.statement hole.parameter = some (.hole hole.key) := by
  simp only [holes, mem_holesFrom, Statement.mem_holesAt, Nat.zero_add, Dict.mem_entries_iff,
    argument?, Option.bind_eq_some_iff]
  constructor
  next =>
    rintro ⟨index, statement, found, rfl, waits⟩
    exact ⟨statement, found, waits⟩
  next =>
    rintro ⟨statement, found, waits⟩
    exact ⟨hole.statement, statement, found, rfl, waits⟩

theorem holesFrom_nodup (position : Nat) (statements : List Statement) :
    (holesFrom position statements).Nodup := by
  induction statements generalizing position with
  | nil => exact List.nodup_nil
  | cons statement rest ih =>
    refine List.nodup_append.mpr ⟨Statement.holesAt_nodup position statement, ih (position + 1), ?_⟩
    rintro hole here _ later rfl
    obtain ⟨index, other, -, member⟩ := mem_holesFrom.mp later
    have first := (Statement.mem_holesAt.mp here).1
    have second := (Statement.mem_holesAt.mp member).1
    omega

theorem holes_nodup (script : Script) : script.holes.Nodup := holesFrom_nodup 0 script.statements

theorem getElem?_fillFrom (value? : Hole → Option Value) (position index : Nat)
    (statements : List Statement) :
    (fillFrom value? position statements)[index]? =
      statements[index]?.map (·.fillWith value? (position + index)) := by
  induction statements generalizing position index with
  | nil => simp [fillFrom]
  | cons statement rest ih =>
    cases index with
    | zero => rfl
    | succ index =>
      simp only [fillFrom, List.getElem?_cons_succ, ih, Nat.add_assoc, Nat.add_comm 1]

theorem argument?_fillWith (value? : Hole → Option Value) (script : Script) (position : Nat)
    (parameter : String) :
    (script.fillWith value?).argument? position parameter =
      (script.argument? position parameter).map (Argument.fillWith value? position parameter) := by
  simp only [argument?, fillWith, getElem?_fillFrom, Nat.zero_add]
  cases script.statements[position]? with
  | none => rfl
  | some statement => exact Statement.get?_fillWith value? position statement parameter

theorem outlines_fillFrom (value? : Hole → Option Value) (position : Nat)
    (statements : List Statement) :
    (fillFrom value? position statements).map Statement.outline =
      statements.map Statement.outline := by
  induction statements generalizing position with
  | nil => rfl
  | cons statement rest ih =>
    simp only [fillFrom, List.map_cons, Statement.outline_fillWith, ih]

theorem filledBy_fillWith (value? : Hole → Option Value) (script : Script) :
    script.FilledBy value? (script.fillWith value?) where
  file := rfl
  outlines := outlines_fillFrom value? 0 script.statements
  filled := by
    intro hole member value chosen
    rw [argument?_fillWith, mem_holes_iff.mp member]
    simp [Argument.fillWith, Hole.argument, chosen]
  others := by
    intro position parameter unchosen
    rw [argument?_fillWith]
    cases found : script.argument? position parameter with
    | none => rfl
    | some argument =>
      cases argument with
      | given value => rfl
      | hole key =>
        have waits : (⟨position, parameter, key⟩ : Hole) ∈ script.holes := mem_holes_iff.mpr found
        simp [Argument.fillWith, Hole.argument, unchosen _ waits rfl rfl]

theorem holesFrom_eq_nil_iff {position : Nat} {statements : List Statement} :
    holesFrom position statements = [] ↔
      ∀ statement ∈ statements, statement.call.isResolved = true := by
  induction statements generalizing position with
  | nil => simp [holesFrom]
  | cons statement rest ih =>
    rw [holesFrom, List.append_eq_nil_iff, ih, List.forall_mem_cons, Statement.isResolved_iff]

theorem ensureResolved_eq_ok_iff {script : Script} :
    script.ensureResolved = .ok () ↔ script.holes = [] := by
  unfold ensureResolved
  cases script.holes <;> simp

theorem fill_fill_eq (first second : Fills) (script : Script) :
    (script.fill first).fill second = script.fill (first.union second) := by
  simp only [fill_eq_fillWith, fillWith_fillWith, Dict.get?_union]

theorem holes_fill (fills : Fills) (script : Script) :
    (script.fill fills).holes = script.holes.filter fun hole => !fills.contains hole.key := by
  rw [fill_eq_fillWith, holes_fillWith]
  simp [Dict.contains]

theorem fillCount_add_left (fills : Fills) (script : Script) :
    script.fillCount fills + (script.fill fills).holes.length = script.holes.length := by
  rw [holes_fill, fillCount, ← List.countP_eq_length_filter]
  simpa using
    (List.length_eq_countP_add_countP (fun hole : Hole => fills.contains hole.key)).symm

theorem fillCount_add (first second : Fills) (script : Script) :
    script.fillCount first + (script.fill first).fillCount second =
      script.fillCount (first.union second) := by
  have once := fillCount_add_left first script
  have again := fillCount_add_left second (script.fill first)
  have together := fillCount_add_left (first.union second) script
  rw [fill_fill_eq] at again
  omega

/-- Filling twice is filling once from both dictionaries, of which the first has precedence, and
the counts add up; filling again from the same one does nothing. The holes that are left are those
whose keys are missing, in their order, and nothing else of the script has changed. -/
theorem fill_fill (first second : Fills) (script : Script) :
    (script.fill first).fill second = script.fill (first.union second) ∧
    (∀ key, (first.union second).get? key = (first.get? key).or (second.get? key)) ∧
    script.fillCount first + (script.fill first).fillCount second =
      script.fillCount (first.union second) ∧
    (script.fill first).fill first = script.fill first ∧
    (script.fill first).fillCount first = 0 ∧
    (script.fill first).holes = script.holes.filter (fun hole => !first.contains hole.key) ∧
    script.fillCount first + (script.fill first).holes.length = script.holes.length ∧
    ((script.fill first).ensureResolved = .ok () ↔
      ∀ statement ∈ (script.fill first).statements, statement.call.isResolved = true) ∧
    script.FilledBy (fun hole => first.get? hole.key) (script.fill first) := by
  refine ⟨fill_fill_eq first second script, Dict.get?_union first second,
    fillCount_add first second script, ?again, ?nothing, holes_fill first script,
    fillCount_add_left first script, ?resolved, ?frame⟩
  case again => simp only [fill_eq_fillWith, fillWith_fillWith, Option.or_self]
  case nothing => simp [fillCount, holes_fill]
  case resolved => rw [ensureResolved_eq_ok_iff, holes, holesFrom_eq_nil_iff]
  case frame =>
    rw [fill_eq_fillWith]
    exact filledBy_fillWith _ script

end Script

end Runbook
