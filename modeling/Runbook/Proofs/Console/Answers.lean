import Runbook.Console.Basic
import Runbook.Proofs.Script.Inquiry
import Runbook.Proofs.Text.Lines

set_option autoImplicit false

namespace Runbook

variable {σ : Type}

def Asker.Replies (ask : Asker σ) :
    σ → List (String × Except InputError Value) → σ → Prop
  | source, [], later => later = source
  | source, (question, reply) :: rest, later =>
    ∃ next, ask question source = (reply, next) ∧ Asker.Replies ask next rest later

theorem Asker.replies_concat {ask : Asker σ} {source later : σ}
    {said : List (String × Except InputError Value)} (replies : ask.Replies source said later)
    (question : String) :
    ask.Replies source (said ++ [(question, (ask question later).1)]) (ask question later).2 := by
  induction said generalizing source with
  | nil =>
    obtain rfl : later = source := replies
    exact ⟨_, rfl, rfl⟩
  | cons first rest ih =>
    obtain ⟨next, answered, others⟩ := replies
    exact ⟨next, answered, ih others⟩

namespace Inquiry

section Keep

variable {ask : Asker σ} {Kept : σ → Prop}
  (kept : ∀ question source, Kept source → Kept (ask question source).2)

include kept

theorem answer_keep {inquiry : Inquiry σ} (initially : Kept inquiry.source) (argument : Argument) :
    Kept (answer ask inquiry argument).2.source := by
  cases argument with
  | given value => exact initially
  | hole key =>
    have asked := kept (question key) inquiry.source initially
    by_cases failed : inquiry.failure?.isSome = true
    next => simpa [answer, failed] using initially
    next =>
      cases known : inquiry.answers.get? key with
      | some value => simpa [answer, failed, known] using initially
      | none =>
        rcases reply : ask (question key) inquiry.source with ⟨failure | value, source⟩ <;>
          simpa [answer, failed, known, reply] using asked

theorem answerStatement_keep {inquiry : Inquiry σ} (initially : Kept inquiry.source)
    (statement : Statement) : Kept (answerStatement ask inquiry statement).2.source := by
  simp only [answerStatement, Dict.mapState]
  generalize statement.call.arguments.entries = entries
  induction entries generalizing inquiry with
  | nil => exact initially
  | cons entry rest ih => exact ih (answer_keep kept initially entry.2)

theorem inquire_keep {source : σ} (initially : Kept source) (script : Script) :
    Kept (script.inquire ask source).2.source := by
  have statements (inquiry : Inquiry σ) (initially : Kept inquiry.source)
      (statements : List Statement) :
      Kept (answerStatements ask inquiry statements).2.source := by
    induction statements generalizing inquiry with
    | nil => exact initially
    | cons statement rest ih => exact ih _ (answerStatement_keep kept initially statement)
  exact statements _ initially script.statements

end Keep

theorem inquire_replies (ask : Asker σ) (source : σ) (script : Script) :
    let inquired := script.inquire ask.overheard ⟨[], source⟩
    ask.Replies source inquired.2.source.said inquired.2.source.inner := by
  let Faithful (overheard : Overheard σ) : Prop :=
    ask.Replies source overheard.said overheard.inner
  have kept (question : String) (overheard : Overheard σ) (faithful : Faithful overheard) :
      Faithful (ask.overheard question overheard).2 :=
    Asker.replies_concat faithful question
  have initially : Faithful ⟨[], source⟩ := rfl
  exact inquire_keep kept initially script

end Inquiry

namespace Console

def lines (input : List UInt8) : List (List UInt8) := Text.cutAfter (· == newline) input

def reading? (line : List UInt8) : Option Value :=
  (Text.decode? line).bind fun text =>
    if Text.trim text = "" then none else some (.ofLiteral (Text.trim text))

theorem exists_of_reading? {line? : Option (List UInt8)} {value : Value}
    (read : line?.bind reading? = some value) :
    ∃ line text, line? = some line ∧ Text.decode? line = some text ∧ Text.trim text ≠ "" ∧
      value = .ofLiteral (Text.trim text) := by
  obtain ⟨line, rfl, reading⟩ := Option.bind_eq_some_iff.mp read
  obtain ⟨text, decoded, kept⟩ := Option.bind_eq_some_iff.mp reading
  by_cases blank : Text.trim text = ""
  next => simp [blank] at kept
  next => exact ⟨line, text, rfl, decoded, blank, by simpa [blank, eq_comm] using kept⟩

theorem bind_reading?_eq_none_iff {line? : Option (List UInt8)} :
    line?.bind reading? = none ↔ ∀ line, line? = some line →
      ∀ text, Text.decode? line = some text → Text.trim text = "" := by
  cases line? with
  | none => simp
  | some line => cases decoded : Text.decode? line <;> simp [reading?, decoded]

def prompts (keys : List String) : String :=
  String.join (keys.map fun key => question key ++ "? ")

theorem lines_splitLine {input : List UInt8} (nonempty : input ≠ []) :
    lines input = (splitLine input).1 :: lines (splitLine input).2 := by
  have inside : ∀ byte ∈ input.takeWhile (· != newline), (byte == newline) = false := by
    intro byte member
    simpa using List.mem_takeWhile_imp member
  have whole : input.takeWhile (· != newline) ++ input.dropWhile (· != newline) = input :=
    List.takeWhile_append_dropWhile
  simp only [lines, splitLine]
  cases rest : input.dropWhile (· != newline) with
  | nil =>
    rw [rest, List.append_nil] at whole
    rw [whole] at inside ⊢
    exact Text.cutAfter_of_inside inside nonempty
  | cons last rest' =>
    have closing : (last == newline) = true := by
      have head := List.head?_dropWhile_not (· != newline) input
      rw [rest] at head
      simpa using head
    rw [rest] at whole
    rw [← Text.cutAfter_append inside closing, whole]

structure Taken (question : String) (before : Console) (reply : Except InputError String)
    (later : Console) : Prop where
  works : later.fault? = none
  shown : later.screen = before.screen ++ (question ++ "? ").toList
  taken : lines later.input = (lines before.input).tail
  reply : reply.toOption = ((lines before.input).head?.bind Text.decode?).map Text.trim

theorem answer_taken (question : String) {console : Console} (works : console.fault? = none) :
    Taken question console (console.answer question).1 (console.answer question).2 := by
  have flushed : (console.display (question ++ "? ")).flush =
      (none, { console with
        screen := console.screen ++ (question ++ "? ").toList
        flushes := console.flushes + 1 }) := by
    simp [display, flush, works]
  unfold answer
  rw [flushed]
  by_cases empty : console.input = []
  next =>
    simp only [empty, List.isEmpty_nil, if_true]
    exact ⟨works, rfl, by simp [empty, lines, Text.cutAfter],
      by simp [empty, lines, Text.cutAfter, Except.toOption]⟩
  next =>
    have first := lines_splitLine empty
    have more : console.input.isEmpty = false := by simpa using empty
    simp only [more, Bool.false_eq_true, if_false]
    cases decoded : Text.decode? (splitLine console.input).1 with
    | none =>
      refine ⟨works, rfl, by rw [first]; rfl, ?_⟩
      simp [first, decoded, Except.toOption]
    | some text =>
      refine ⟨works, rfl, by rw [first]; rfl, ?_⟩
      simp [first, decoded, Except.toOption]

structure Answered (question : String) (before : Console) (reply : Except InputError Value)
    (later : Console) : Prop where
  works : later.fault? = none
  shown : later.screen = before.screen ++ (question ++ "? ").toList
  taken : lines later.input = (lines before.input).tail
  reply : reply.toOption = (lines before.input).head?.bind reading?

theorem ask_answered (question : String) {console : Console} (works : console.fault? = none) :
    Answered question console (ask question console).1 (ask question console).2 := by
  have reading : (lines console.input).head?.bind reading? =
      ((lines console.input).head?.bind Text.decode?).bind fun text =>
        if Text.trim text = "" then none else some (.ofLiteral (Text.trim text)) :=
    (Option.bind_assoc _ _ _).symm
  have taken := answer_taken question works
  unfold ask
  generalize console.answer question = answered at taken ⊢
  obtain ⟨reply, later⟩ := answered
  obtain ⟨works', shown, others, same⟩ := taken
  cases line : (lines console.input).head?.bind Text.decode? with
  | none =>
    rw [line] at reading same
    cases reply with
    | ok text => simp [Except.toOption] at same
    | error failure => exact ⟨works', shown, others, by rw [reading]; rfl⟩
  | some text =>
    rw [line] at reading same
    cases reply with
    | error failure => simp [Except.toOption] at same
    | ok answer =>
      obtain rfl : answer = Text.trim text := by simpa [Except.toOption] using same
      split
      next failure next same => simp at same
      next next same =>
        obtain ⟨blank, rfl⟩ := Prod.mk.inj same
        refine ⟨works', shown, others, ?_⟩
        rw [reading, Option.bind_some, if_pos (Except.ok.inj blank)]
        rfl
      next answered next filled same =>
        obtain ⟨read, rfl⟩ := Prod.mk.inj same
        obtain rfl : Text.trim text = answered := Except.ok.inj read
        refine ⟨works', shown, others, ?_⟩
        rw [reading, Option.bind_some, if_neg filled]
        rfl

def entered (text : String) : List UInt8 := (text ++ "\n").toUTF8.data.toList

theorem newline_not_mem_encode {c : Char} (other : c ≠ '\n') :
    newline ∉ String.utf8EncodeChar c := by
  have code : c.val.toNat ≠ 10 := fun same => other (Char.toNat_inj.mp same)
  have byte : ∀ {value : Nat}, newline = UInt8.ofNat value → value % 256 = 10 :=
    fun same => (congrArg UInt8.toNat same).symm
  intro member
  rw [String.utf8EncodeChar.eq_1] at member
  split at member
  next =>
    have same := byte (List.mem_singleton.mp member)
    omega
  next =>
    split at member
    next =>
      simp only [List.mem_cons, List.not_mem_nil, or_false] at member
      rcases member with same | same <;> have := byte same <;> omega
    next =>
      split at member <;> simp only [List.mem_cons, List.not_mem_nil, or_false] at member
      next => rcases member with same | same | same <;> have := byte same <;> omega
      next => rcases member with same | same | same | same <;> have := byte same <;> omega

theorem entered_eq (text : String) :
    entered text = text.toList.flatMap String.utf8EncodeChar ++ [newline] := by
  have chars : (text ++ "\n").toList = text.toList ++ ['\n'] := String.toList_append
  rw [entered, String.toUTF8_eq_toByteArray, ← String.utf8Encode_toList, chars, List.utf8Encode,
    List.data_toByteArray, List.toList_toArray, List.flatMap_append]
  rfl

theorem lines_entered {text : String} (unbroken : '\n' ∉ text.toList) (rest : List UInt8) :
    lines (entered text ++ rest) = entered text :: lines rest := by
  have inside : ∀ byte ∈ text.toList.flatMap String.utf8EncodeChar, (byte == newline) = false := by
    intro byte member
    obtain ⟨c, among, member'⟩ := List.mem_flatMap.mp member
    refine beq_eq_false_iff_ne.mpr ?_
    rintro rfl
    exact newline_not_mem_encode (fun same => unbroken (same ▸ among)) member'
  rw [entered_eq, List.append_assoc, List.singleton_append]
  exact Text.cutAfter_append inside (beq_self_eq_true newline)

theorem decode?_entered (text : String) : Text.decode? (entered text) = some (text ++ "\n") := by
  rw [Text.decode?, entered, Array.toArray_toList]
  simp only [String.fromUTF8?, String.toUTF8_eq_toByteArray]
  exact dif_pos (text ++ "\n").isValidUTF8

theorem ask_entered (question : String) {console : Console} {text : String} {rest : List UInt8}
    (works : console.fault? = none) (typed : console.input = entered text ++ rest)
    (unbroken : '\n' ∉ text.toList) (filled : Text.trim (text ++ "\n") ≠ "") :
    (ask question console).1 = .ok (.ofLiteral (Text.trim (text ++ "\n"))) := by
  have reply := (ask_answered question works).reply
  have reading : reading? (entered text) = some (.ofLiteral (Text.trim (text ++ "\n"))) := by
    rw [reading?, decode?_entered, Option.bind_some, if_neg filled]
  rw [typed, lines_entered unbroken, List.head?_cons, Option.bind_some, reading] at reply
  cases asked : (ask question console).1 with
  | error failure => simp [asked, Except.toOption] at reply
  | ok value => simpa [asked, Except.toOption] using reply

theorem replies_answered {console later : Console}
    {said : List (String × Except InputError Value)} (works : console.fault? = none)
    (replies : Asker.Replies ask console said later) :
    later.screen = console.screen ++ said.flatMap (fun exchange => (exchange.1 ++ "? ").toList) ∧
    ∀ (index : Nat) (exchange : String × Except InputError Value), said[index]? = some exchange →
      exchange.2.toOption = (lines console.input)[index]?.bind reading? := by
  induction said generalizing console with
  | nil =>
    obtain rfl : later = console := replies
    simp
  | cons first rest ih =>
    obtain ⟨question, reply⟩ := first
    obtain ⟨next, asked, others⟩ := replies
    have answered := ask_answered question works
    rw [asked] at answered
    obtain ⟨shown, read⟩ := ih answered.works others
    constructor
    next => rw [shown, answered.shown, List.flatMap_cons, List.append_assoc]
    next =>
      intro index exchange here
      cases index with
      | zero =>
        obtain rfl : (question, reply) = exchange := by simpa using here
        rw [answered.reply, List.head?_eq_getElem?]
      | succ index =>
        rw [read index exchange (by simpa using here), answered.taken, List.getElem?_tail]

theorem prompts_toList (keys : List String) :
    (prompts keys).toList = keys.flatMap fun key => (question key ++ "? ").toList := by
  simp [prompts, String.toList_join, List.flatMap_map]

structure Completes (input : List UInt8) (script : Script) (answers : List (String × Value))
    (inquired : Script × Inquiry Console) : Prop where
  keys : answers.map Prod.fst = script.keys
  read : ∀ (index : Nat) (answer : String × Value), answers[index]? = some answer →
    (lines input)[index]?.bind reading? = some answer.2
  filled : inquired.1 = script.fill (.ofList answers)
  resolved : inquired.1.holes = []
  result : ∃ count, inquired.2.result = .ok count
  shown : String.ofList inquired.2.source.screen = prompts script.keys

structure Stops (input : List UInt8) (script : Script) (asked : List String) (key : String)
    (inquired : Script × Inquiry Console) : Prop where
  keys : ∃ unasked, script.keys = asked ++ key :: unasked
  unread : (lines input)[asked.length]?.bind reading? = none
  result : ∃ failure, inquired.2.result = .error failure
  shown : String.ofList inquired.2.source.screen = prompts (asked ++ [key])

theorem inquire_cases (input : List UInt8) (script : Script) :
    let inquired := script.inquire ask (.start input)
    (∃ answers, Completes input script answers inquired) ∨
      ∃ asked key, Stops input script asked key inquired := by
  intro inquired
  obtain ⟨⟨answers, failed?⟩, later, held⟩ :=
    Inquiry.exists_held ask script.holes_nodup [] 0 ⟨[], .start input⟩
  have replies := Inquiry.inquire_replies ask (.start input) script
  have view : inquired = ((script.inquire ask.overheard ⟨[], .start input⟩).1,
      (script.inquire ask.overheard ⟨[], .start input⟩).2.mapSource Overheard.inner) := by
    obtain ⟨overheard, direct⟩ := held.inquire fun _ _ => rfl
    rw [show inquired = _ from direct, overheard]
    rfl
  obtain ⟨shown, read⟩ := replies_answered rfl replies
  rw [view]
  cases failed? with
  | none =>
    have completes := held.completes
    rw [completes.said] at shown read
    refine .inl ⟨answers, completes.asked.symm, ?_, completes.filled, completes.resolved,
      ⟨_, completes.result⟩, ?_⟩
    · intro index answer here
      exact (read index (question answer.1, .ok answer.2) (by simp [here])).symm
    · rw [← String.toList_inj, prompts_toList, completes.asked]
      simpa [List.flatMap_map, start, Inquiry.mapSource] using shown
  | some failed =>
    have stops := held.stops
    rw [stops.said] at shown read
    refine .inr ⟨answers.map Prod.fst, failed.1, stops.asked, ?_, ⟨_, stops.result⟩, ?_⟩
    · have last := read answers.length (question failed.1, .error failed.2) (by simp)
      rw [List.length_map, ← show lines (start input).input = lines input from rfl, ← last]
      rfl
    · rw [← String.toList_inj, prompts_toList]
      simpa [List.flatMap_map, start, Inquiry.mapSource] using shown

end Console

end Runbook
