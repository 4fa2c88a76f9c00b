import Runbook.Command.Program
import Runbook.Proofs.Backend.DryRun
import Runbook.Proofs.Console.Answers
import Runbook.Proofs.Script.Surface
import Runbook.Proofs.Value.Integer

set_option autoImplicit false

namespace Runbook

namespace Console

open Decimal

def Spells (text : String) (number : Nat) : Prop :=
  ∃ sign ∈ [[], ['+']], ∃ count,
    text.toList = sign ++ (Layout.zeros count ++ Nat.toDigits 10 number)

theorem isDigit_of_mem_padded {number count : Nat} {c : Char}
    (member : c ∈ Layout.zeros count ++ Nat.toDigits 10 number) : c.isDigit = true := by
  rcases List.mem_append.mp member with zero | digit
  next => exact List.eq_of_mem_replicate zero ▸ rfl
  next => exact Nat.isDigit_of_mem_toDigits (by decide) (by decide) digit

theorem natOfDigits_eq_iff {digits : List Char} (nonempty : digits ≠ [])
    (all : ∀ c ∈ digits, c.isDigit = true) {number : Nat} :
    natOfDigits digits = number ↔
      ∃ count, digits = Layout.zeros count ++ Nat.toDigits 10 number := by
  constructor
  next =>
    rintro rfl
    induction digits with
    | nil => exact absurd rfl nonempty
    | cons first rest ih =>
      by_cases zero : first = '0'
      next =>
        subst zero
        by_cases alone : rest = []
        next => exact ⟨0, by subst alone; rfl⟩
        next =>
          obtain ⟨count, padded⟩ := ih alone fun c member => all c (List.mem_cons_of_mem _ member)
          have skipped : natOfDigits ('0' :: rest) = natOfDigits rest :=
            natOfDigits_zeros_append 1 rest
          exact ⟨count + 1, by rw [skipped]; exact congrArg ('0' :: ·) padded⟩
      next => exact ⟨0, (toDigits_natOfDigits zero all).symm⟩
  next =>
    rintro ⟨count, rfl⟩
    rw [natOfDigits_zeros_append, natOfDigits_toDigits]

theorem spells_of_plus {text : String} {digits : List Char} (chars : text.toList = '+' :: digits)
    {number : Nat} :
    Spells text number ↔ ∃ count, digits = Layout.zeros count ++ Nat.toDigits 10 number := by
  constructor
  next =>
    rintro ⟨sign, member, count, spelled⟩
    rw [chars] at spelled
    rcases List.mem_pair.mp member with rfl | rfl
    next =>
      have plus : '+' ∈ Layout.zeros count ++ Nat.toDigits 10 number := by
        rw [← List.nil_append (_ ++ _), ← spelled]
        exact List.mem_cons_self
      exact absurd (isDigit_of_mem_padded plus) (by decide)
    next => exact ⟨count, (List.cons.inj spelled).2⟩
  next =>
    rintro ⟨count, rfl⟩
    exact ⟨['+'], by simp, count, chars⟩

theorem spells_of_not_plus {text : String} (bare : ∀ digits, text.toList ≠ '+' :: digits)
    {number : Nat} :
    Spells text number ↔ ∃ count, text.toList = Layout.zeros count ++ Nat.toDigits 10 number := by
  constructor
  next =>
    rintro ⟨sign, member, count, spelled⟩
    rcases List.mem_pair.mp member with rfl | rfl
    next => exact ⟨count, spelled⟩
    next => exact absurd spelled (bare _)
  next =>
    rintro ⟨count, spelled⟩
    exact ⟨[], by simp, count, spelled⟩

theorem wholeNumber?_eq_some_iff {width number : Nat} {text : String} :
    wholeNumber? width text = some number ↔ Spells text number ∧ number < 2 ^ width := by
  have read (digits : List Char) :
      (if digits.isEmpty || !digits.all Text.isDigit then none
        else (some (natOfDigits digits)).filter (· < Nat.pow 2 width)) = some number ↔
      (∃ count, digits = Layout.zeros count ++ Nat.toDigits 10 number) ∧ number < 2 ^ width := by
    have digit (c : Char) : Text.isDigit c = c.isDigit := Text.isDigit_eq c
    by_cases valid : digits ≠ [] ∧ ∀ c ∈ digits, c.isDigit = true
    next =>
      have accepted : (digits.isEmpty || !digits.all Text.isDigit) = false := by
        simpa [digit] using valid
      rw [accepted, ← natOfDigits_eq_iff valid.1 valid.2, if_neg (by decide),
        Option.filter_eq_some_iff, Option.some_inj, decide_eq_true_iff]
      exact Iff.rfl
    next =>
      have refused : (digits.isEmpty || !digits.all Text.isDigit) = true := by
        refine (Bool.not_eq_false _).mp fun accepted => valid ?_
        simpa [digit] using accepted
      rw [refused]
      refine ⟨fun none => absurd none (by simp), ?_⟩
      rintro ⟨⟨count, rfl⟩, -⟩
      exact absurd ⟨by simp, fun c => isDigit_of_mem_padded⟩ valid
  by_cases plus : ∃ digits, text.toList = '+' :: digits
  next =>
    obtain ⟨digits, chars⟩ := plus
    rw [spells_of_plus chars, ← read, wholeNumber?, chars]
    rfl
  next =>
    have bare : ∀ digits, text.toList ≠ '+' :: digits := not_exists.mp plus
    rw [spells_of_not_plus bare, ← read, wholeNumber?]
    split
    next digits chars => exact absurd chars (bare digits)
    next => rfl

theorem countOf_eq_ok_iff {text : String} {count : Nat} :
    countOf text = .ok count ↔ Spells text count ∧ 1 ≤ count ∧ count < 2 ^ 32 := by
  have read := @wholeNumber?_eq_some_iff 32 count text
  unfold countOf
  cases found : wholeNumber? 32 text with
  | none =>
    rw [found] at read
    refine ⟨fun done => by simp at done, fun ⟨spells, _, bounded⟩ => ?_⟩
    exact absurd (read.mpr ⟨spells, bounded⟩) (by simp)
  | some number =>
    rw [found, Option.some_inj] at read
    cases number with
    | zero =>
      refine ⟨fun done => by simp at done, fun ⟨spells, positive, bounded⟩ => ?_⟩
      exact absurd (read.mpr ⟨spells, bounded⟩) (Nat.ne_of_lt positive)
    | succ fewer =>
      constructor
      next =>
        intro done
        obtain rfl := Except.ok.inj done
        obtain ⟨spells, bounded⟩ := read.mp rfl
        exact ⟨spells, Nat.succ_pos fewer, bounded⟩
      next =>
        rintro ⟨spells, -, bounded⟩
        exact congrArg Except.ok (read.mpr ⟨spells, bounded⟩)

theorem typeOf_eq_ok_iff {text : String} {type : InstanceType} :
    typeOf text = .ok type ↔
      ∃ number, Spells text number ∧ 1 ≤ number ∧ instanceTypes[number - 1]? = some type := by
  have read (number : Nat) := @wholeNumber?_eq_some_iff 64 number text
  constructor
  next =>
    intro done
    unfold typeOf at done
    split at done
    next place found =>
      dsimp only at done
      split at done
      next chosen place' =>
        obtain rfl := Except.ok.inj done
        exact ⟨place + 1, ((read _).mp found).1, Nat.succ_pos place, place'⟩
      next => simp at done
    next => simp at done
  next =>
    rintro ⟨number, spells, positive, found⟩
    obtain ⟨place, rfl⟩ : ∃ place, number = place + 1 := ⟨number - 1, by omega⟩
    have few : place < instanceTypes.length := (List.getElem?_eq_some_iff.mp found).1
    have bounded : place + 1 < 2 ^ 64 := Nat.lt_of_le_of_lt few (by decide)
    have found' : instanceTypes[place]? = some type := found
    simp only [typeOf, (read _).mpr ⟨spells, bounded⟩, found']

theorem buildInstance_eq_ok_iff {console : Console} {source : String} :
    console.buildInstance.1 = .ok (some source) ↔
      ∃ counted count chosen type, ∃ second third later : Console,
        console.answer countQuestion = (.ok counted, second) ∧ countOf counted = .ok count ∧
        (second.display menu).answer ("\n" ++ typeQuestion) = (.ok chosen, third) ∧
        typeOf chosen = .ok type ∧
        (third.display ("\nDone\n\n" ++ instanceScript count type ++ "\n\n")).answer
          "About to run (y/n)" = (.ok "y", later) ∧
        source = instanceScript count type := by
  constructor
  next =>
    intro built
    unfold buildInstance at built
    split at built
    next => simp at built
    next counted second first =>
      split at built
      next => simp at built
      next count countIs =>
        split at built
        next => simp at built
        next chosen third next =>
          split at built
          next => simp at built
          next type typeIs =>
            dsimp only at built
            split at built
            next => simp at built
            next confirmed later last =>
              by_cases yes : confirmed = "y"
              next =>
                subst yes
                obtain rfl : instanceScript count type = source := by simpa using built
                exact ⟨counted, count, chosen, type, second, third, later, first, countIs, next,
                  typeIs, last, rfl⟩
              next => simp [yes] at built
  next =>
    rintro ⟨counted, count, chosen, type, second, third, later, first, countIs, next, typeIs, last,
      rfl⟩
    simp only [buildInstance, first, countIs, next, typeIs, last, if_true]

def answerAt? (input : List UInt8) (index : Nat) : Option String :=
  ((lines input)[index]?.bind Text.decode?).map Text.trim

structure At (input : List UInt8) (index : Nat) (console : Console) : Prop where
  works : console.fault? = none
  left : lines console.input = (lines input).drop index

theorem At.display {input : List UInt8} {index : Nat} {console : Console}
    (here : At input index console) (text : String) : At input index (console.display text) :=
  ⟨here.works, here.left⟩

theorem answer_at {input : List UInt8} {index : Nat} {console : Console}
    (here : At input index console) (question : String) :
    At input (index + 1) (console.answer question).2 ∧
      (console.answer question).1.toOption = answerAt? input index := by
  have taken := answer_taken question here.works
  refine ⟨⟨taken.works, by rw [taken.taken, here.left, List.tail_drop]⟩, ?_⟩
  rw [taken.reply, here.left, List.head?_drop, answerAt?]

theorem answer_of_answerAt? {input : List UInt8} {index : Nat} {console : Console}
    (here : At input index console) (question : String) {text : String}
    (said : answerAt? input index = some text) :
    ∃ later, console.answer question = (.ok text, later) ∧ At input (index + 1) later := by
  obtain ⟨next, reply⟩ := answer_at here question
  rw [said] at reply
  refine ⟨_, Prod.ext ?_ rfl, next⟩
  cases answered : (console.answer question).1 with
  | error failure => simp [answered, Except.toOption] at reply
  | ok text' => simpa [answered, Except.toOption] using reply

theorem answerAt?_of_answer {input : List UInt8} {index : Nat} {console later : Console}
    {question text : String} (here : At input index console)
    (answered : console.answer question = (.ok text, later)) :
    answerAt? input index = some text ∧ At input (index + 1) later := by
  have next := answer_at here question
  rw [answered] at next
  exact ⟨next.2.symm, next.1⟩

structure Chosen (input : List UInt8) (count : Nat) (type : InstanceType) : Prop where
  number : ∃ text, answerAt? input 0 = some text ∧ Spells text count
  positive : 1 ≤ count
  bounded : count < 2 ^ 32
  type : ∃ text number, answerAt? input 1 = some text ∧ Spells text number ∧ 1 ≤ number ∧
    instanceTypes[number - 1]? = some type
  confirmed : answerAt? input 2 = some "y"

theorem buildInstance_iff_chosen (input : List UInt8) (source : String) :
    (start input).buildInstance.1 = .ok (some source) ↔
      ∃ count type, Chosen input count type ∧ source = instanceScript count type := by
  have fresh : At input 0 (start input) := ⟨rfl, rfl⟩
  rw [buildInstance_eq_ok_iff]
  constructor
  next =>
    rintro ⟨counted, count, chosen, type, second, third, later, first, countIs, next, typeIs, last,
      same⟩
    obtain ⟨said, here⟩ := answerAt?_of_answer fresh first
    obtain ⟨said', here'⟩ := answerAt?_of_answer (here.display menu) next
    obtain ⟨yes, -⟩ := answerAt?_of_answer (here'.display _) last
    obtain ⟨spells, positive, bounded⟩ := countOf_eq_ok_iff.mp countIs
    obtain ⟨number, spells', place⟩ := typeOf_eq_ok_iff.mp typeIs
    exact ⟨count, type, ⟨⟨counted, said, spells⟩, positive, bounded,
      ⟨chosen, number, said', spells', place⟩, yes⟩, same⟩
  next =>
    rintro ⟨count, type, choice, same⟩
    obtain ⟨counted, said, spells⟩ := choice.number
    obtain ⟨chosen, number, said', spells', place⟩ := choice.type
    obtain ⟨second, first, here⟩ := answer_of_answerAt? fresh countQuestion said
    obtain ⟨third, next, here'⟩ :=
      answer_of_answerAt? (here.display menu) ("\n" ++ typeQuestion) said'
    obtain ⟨later, last, -⟩ := answer_of_answerAt?
      (here'.display ("\nDone\n\n" ++ instanceScript count type ++ "\n\n"))
      "About to run (y/n)" choice.confirmed
    exact ⟨counted, count, chosen, type, second, third, later, first,
      countOf_eq_ok_iff.mpr ⟨spells, choice.positive, choice.bounded⟩, next,
      typeOf_eq_ok_iff.mpr ⟨number, spells', place⟩, last, same⟩

theorem Chosen.mem {input : List UInt8} {count : Nat} {type : InstanceType}
    (chosen : Chosen input count type) : type ∈ instanceTypes := by
  obtain ⟨_, _, _, _, _, place⟩ := chosen.type
  exact List.mem_of_getElem? place

section Scripts

open Script

def instanceSentence (count : Nat) (type : InstanceType) : Sentence :=
  ⟨none, "create", "instance",
    [⟨"count", true, .word (toString count)⟩, ⟨"type", true, .word type.name⟩]⟩

def instanceCall (count : Nat) (type : InstanceType) : Call :=
  ⟨"create", "instance",
    .ofList [("count", .given (.number (.ofInt count))), ("type", .given (.text type.name))]⟩

def loneInstance (count : Nat) (type : InstanceType) (span : Span) (file : Nat) : Script :=
  ⟨[⟨none, instanceCall count type, span⟩], file⟩

theorem entries_instanceCall (count : Nat) (type : InstanceType) :
    (instanceCall count type).arguments.entries =
      [("count", .given (.number (.ofInt count))), ("type", .given (.text type.name))] := by
  have behind : compare "type" "count" = .gt := by decide
  simp [instanceCall, Dict.ofList, Dict.insert, Dict.put, behind]

theorem toString_natCast (count : Nat) : toString (count : Int) = toString count := rfl

theorem ofLiteral_count {count : Nat} (bounded : count < 2 ^ 32) :
    Value.ofLiteral (toString count) = .number (.ofInt count) := by
  have short : (count : Int).natAbs < 10 ^ 15 := Nat.lt_trans bounded (by decide)
  rw [← toString_natCast, Value.ofLiteral_toString, if_pos short]

theorem isWord_count (count : Nat) : isWord (toString count).toList = true := by
  have free : delimiters.all (fun c => !c.isDigit) = true := by decide
  rw [Nat.toString_eq_repr, Nat.toList_repr]
  refine isWord_of_disjoint Nat.toDigits_ne_nil fun c member delimiter => ?_
  have digit := Nat.isDigit_of_mem_toDigits (by decide) (by decide) member
  simpa [digit] using List.all_eq_true.mp free c delimiter

theorem isWord_type {type : InstanceType} (member : type ∈ instanceTypes) :
    isWord type.name.toList = true ∧ Value.ofLiteral type.name = .text type.name := by
  have all : ∀ type ∈ instanceTypes,
      isWord type.name.toList = true ∧ Value.ofLiteral type.name = .text type.name := by
    decide +kernel
  exact all type member

theorem parameters_instanceSentence (count : Nat) (type : InstanceType) :
    (instanceSentence count type).settings.map Setting.parameter = ["count", "type"] := by
  have lowered : Text.lowercase "count" = "count" ∧ Text.lowercase "type" = "type" := by
    decide +kernel
  simp [instanceSentence, Setting.parameter, lowered]

theorem call_instanceSentence {count : Nat} {type : InstanceType} (bounded : count < 2 ^ 32)
    (member : type ∈ instanceTypes) :
    (instanceSentence count type).call = instanceCall count type := by
  have lowered : Text.lowercase "create" = "create" ∧ Text.lowercase "instance" = "instance" ∧
      Text.lowercase "count" = "count" ∧ Text.lowercase "type" = "type" := by
    decide +kernel
  obtain ⟨action, kind, number, name⟩ := lowered
  simp only [Sentence.call, instanceSentence, instanceCall, List.map_cons, List.map_nil,
    Setting.entry, Setting.parameter, Operand.argument, action, kind, number, name,
    ofLiteral_count bounded, (isWord_type member).2]

theorem toList_instanceScript (count : Nat) (type : InstanceType) :
    (instanceScript count type).toList =
      "create".toList ++ ([' '] ++ ("instance".toList ++ ([' '] ++ ("count".toList ++
        ('=' :: ((toString count).toList ++ ([' '] ++ ("type".toList ++
          ('=' :: type.name.toList))))))))) := by
  have front : "create instance count=".toList = "create".toList ++
      ([' '] ++ ("instance".toList ++ ([' '] ++ ("count".toList ++ ['='])))) := by
    decide
  have middle : " type=".toList = [' '] ++ ("type".toList ++ ['=']) := by decide
  unfold instanceScript
  simp only [String.toList_append, front, middle, List.append_assoc, List.cons_append,
    List.nil_append]

theorem onLine_instanceScript (count : Nat) {type : InstanceType}
    (member : type ∈ instanceTypes) :
    (instanceSentence count type).OnLine (instanceScript count type).toList := by
  have empty : isGap [] = true := by decide
  have space : isGap [' '] = true := by decide
  have counted : Setting.Written ⟨"count", true, .word (toString count)⟩ _ :=
    .joined (by decide) empty empty (.word (isWord_count count))
  have typed : Setting.Written ⟨"type", true, .word type.name⟩ _ :=
    .joined (by decide) empty empty (.word (isWord_type member).1)
  have settings : Setting.AllWritten (instanceSentence count type).settings _ :=
    .cons space (by decide) counted (.cons space (by decide) typed .nil)
  have written : (instanceSentence count type).Written _ :=
    .call (by decide) space (by decide) (by decide) settings
  have ends : [] ∈ lineEnds := List.mem_cons_self
  have line := Sentence.OnLine.line empty written (.gap empty) ends
  simp only [List.append_assoc, List.append_nil, List.nil_append] at line
  rw [toList_instanceScript]
  simpa only [List.append_assoc, List.cons_append] using line

theorem parse_instanceScript {count : Nat} {type : InstanceType} (bounded : count < 2 ^ 32)
    (member : type ∈ instanceTypes) (file : Nat) :
    ∃ span, parse file (instanceScript count type) =
      .ok (loneInstance count type span file) := by
  obtain ⟨single, scans⟩ := (onLine_instanceScript count member).scans
  have distinct : ((instanceSentence count type).settings.map Setting.parameter).Nodup := by
    rw [parameters_instanceSentence]
    decide
  obtain ⟨span, parsed⟩ :=
    parseChars_of_scans file single scans ⟨rfl, by simp [instanceSentence], distinct⟩
  rw [call_instanceSentence bounded member] at parsed
  exact ⟨span, parsed⟩

end Scripts

section Runs

variable (count : Nat) (type : InstanceType) (span : Span) (file : Nat)

theorem scopeFault?_instanceCall :
    Statement.scopeFault? [] ⟨none, instanceCall count type, span⟩ = none := by
  simp [Statement.scopeFault?, Statement.argumentFault?, entries_instanceCall,
    Argument.scopeFault?]

theorem holes_loneInstance : (loneInstance count type span file).holes = [] := by
  simp [loneInstance, Script.holes, Script.holesFrom, Statement.holesAt, Call.holes,
    entries_instanceCall, Argument.key?]

def instanceRecord : Executed := ⟨0, "create", "instance", none, .text "instance-1"⟩

theorem execute_registry (quiet : Bool) : ∃ registry : DryRun,
    (if quiet then DryRun.new else DryRun.new.install (.page Command.tracePage)) = registry ∧
      registry.state = ∅ ∧ DryRun.Creates registry "instance" := by
  have fresh : DryRun.new.state = ∅ := by decide
  have creates : DryRun.Creates DryRun.new "instance" := DryRun.new_creates (by decide)
  -- The functions of the registry play no part from here on.
  generalize DryRun.new = registry at fresh creates ⊢
  cases quiet with
  | true => exact ⟨registry, rfl, fresh, creates⟩
  | false => exact ⟨registry.install (.page Command.tracePage), rfl, fresh, creates⟩

theorem execute_loneInstance (quiet : Bool) :
    let report := Command.execute quiet (loneInstance count type span file)
    report.error? = none ∧ report.final.executed = [instanceRecord] := by
  obtain ⟨parameters, prepared⟩ :=
    (@Statement.scopeFault?_eq_none_iff ⟨none, instanceCall count type, span⟩ ∅).mp
      (scopeFault?_instanceCall count type span)
  obtain ⟨registry, same, fresh, creates⟩ := execute_registry quiet
  have called := DryRun.call_create creates parameters
  have identifier :
      DryRun.identifier "instance" (DryRun.count ∅ "instance" + 1) = "instance-1" := by
    decide
  rw [fresh, identifier] at called
  have allowed : (Execution.start registry none).cancelled? ≠ some true := by
    simp [Execution.start]
  have here : (loneInstance count type span file).statements[0]? =
      some ⟨none, instanceCall count type, span⟩ := rfl
  obtain ⟨more, step, -⟩ :=
    Execution.step_of_called allowed rfl here prepared (Prod.ext called rfl) rfl
  simp only [Command.execute]
  rw [same, Execution.run_of_last_step step rfl]
  exact ⟨rfl, rfl⟩

end Runs

structure Launches (count : Nat) (type : InstanceType) (script : Script) : Prop where
  statement : ∃ arguments span,
    script.statements = [⟨none, ⟨"create", "instance", arguments⟩, span⟩] ∧
    arguments.entries =
      [("count", .given (.number (.ofInt count))), ("type", .given (.text type.name))]
  holes : script.holes = []
  references : ∀ statement ∈ script.statements, ∀ entry ∈ statement.call.arguments.entries,
    ∀ name, entry.2 ≠ .given (.reference name)
  completes : ∀ quiet, (Command.execute quiet script).isCompleted = true
  executed : ∀ quiet, (Command.execute quiet script).final.executed = [instanceRecord]

theorem loneInstance_launches (count : Nat) (type : InstanceType) (span : Span) (file : Nat) :
    Launches count type (loneInstance count type span file) where
  statement := ⟨_, span, rfl, entries_instanceCall count type⟩
  holes := holes_loneInstance count type span file
  references := by
    simp only [loneInstance, List.mem_singleton, forall_eq, entries_instanceCall,
      List.forall_mem_cons]
    simp
  completes quiet := by
    rw [Execution.Report.isCompleted, (execute_loneInstance count type span file quiet).1]
    rfl
  executed quiet := (execute_loneInstance count type span file quiet).2

theorem createCommand_of_built {input : List UInt8} {source : String} {script : Script}
    (built : (start input).buildInstance.1 = .ok (some source))
    (parsed : Script.parse 0 source = .ok script)
    (completes : (Command.execute false script).error? = none) :
    ∃ shown, Command.createCommand input = .ok (.success shown "") := by
  unfold Command.createCommand
  generalize (start input).buildInstance = dialogue at built
  obtain ⟨result, console⟩ := dialogue
  obtain rfl : result = .ok (some source) := built
  simp only [Command.parseSource, parsed, Command.finish, completes]
  exact ⟨_, rfl⟩

/-- Whatever bytes are typed, the dialogue ends in a script exactly if the first three lines choose
a number from one to the largest of 32 bits, choose a type from the menu and confirm. The script is
then read as the one statement that creates so many instances of the type, needs nothing more, and
is run to the end, so that the program succeeds. -/
theorem buildInstance_launches (input : List UInt8) :
    (∀ source, (start input).buildInstance.1 = .ok (some source) ↔
      ∃ count type, Chosen input count type ∧ source = instanceScript count type) ∧
    ∀ count type, Chosen input count type →
      (∀ file, ∃ script, Script.parse file (instanceScript count type) = .ok script ∧
        Launches count type script) ∧
      ∃ shown, Command.createCommand input = .ok (.success shown "") := by
  refine ⟨buildInstance_iff_chosen input, fun count type chosen => ?_⟩
  have parsed := parse_instanceScript chosen.bounded chosen.mem
  constructor
  next =>
    intro file
    obtain ⟨span, read⟩ := parsed file
    exact ⟨_, read, loneInstance_launches count type span file⟩
  next =>
    have built := (buildInstance_iff_chosen input _).mpr ⟨count, type, chosen, rfl⟩
    obtain ⟨span, read⟩ := parsed 0
    exact createCommand_of_built built read (execute_loneInstance count type span 0 false).1

theorem buildInstance_launches_small :
    let input := entered "+007" ++ (entered " 3\t" ++ (entered "y" ++ []))
    ∃ type, type.name = "t2.small" ∧ Chosen input 7 type ∧
      (start input).buildInstance.1 = .ok (some (instanceScript 7 type)) ∧
      ∃ script, Script.parse 0 (instanceScript 7 type) = .ok script ∧ Launches 7 type script := by
  intro input
  have cut : lines input = [entered "+007", entered " 3\t", entered "y"] := by
    simp only [input]
    rw [lines_entered (by decide), lines_entered (by decide), lines_entered (by decide)]
    rfl
  have said : answerAt? input 0 = some "+007" ∧ answerAt? input 1 = some "3" ∧
      answerAt? input 2 = some "y" := by
    simp only [answerAt?, cut, List.getElem?_cons_zero, List.getElem?_cons_succ, Option.bind_some,
      decode?_entered]
    decide
  have number : Spells "+007" 7 := ⟨['+'], by decide, 2, by decide⟩
  have place : Spells "3" 3 := ⟨[], by decide, 0, by decide⟩
  have chosen : Chosen input 7 ⟨"t2.small", ":  vCPU=1, CPU/hour=12, Mem GiB=2, EBS only"⟩ :=
    ⟨⟨"+007", said.1, number⟩, by decide, by decide, ⟨"3", 3, said.2.1, place, by decide, rfl⟩,
      said.2.2⟩
  obtain ⟨reads, launches⟩ := buildInstance_launches input
  exact ⟨_, rfl, chosen, (reads _).mpr ⟨7, _, chosen, rfl⟩, (launches 7 _ chosen).1 0⟩

end Console

end Runbook
