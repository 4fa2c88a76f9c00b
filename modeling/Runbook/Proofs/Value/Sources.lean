import Runbook.Fills
import Runbook.Proofs.Console.Answers
import Runbook.Proofs.Script.Surface
import Runbook.Proofs.Value.Integer

set_option autoImplicit false

namespace Runbook

open Script

theorem bare_toString (n : Int) : ∀ c ∈ (toString n).toList, c = '-' ∨ c.isDigit = true := by
  intro c member
  rw [Value.toList_toString] at member
  have digit : c ∈ Nat.toDigits 10 n.natAbs → c.isDigit = true :=
    Nat.isDigit_of_mem_toDigits (by decide) (by decide)
  cases negative : decide (n < 0) with
  | true =>
    rw [negative, Layout.signed, if_pos rfl] at member
    exact (List.mem_cons.mp member).imp_right digit
  | false =>
    rw [negative] at member
    exact .inr (digit member)

theorem toString_ne_empty (n : Int) : toString n ≠ "" := by
  intro empty
  have literal := Value.toList_toString n
  rw [empty] at literal
  cases negative : decide (n < 0) <;> simp [negative, Layout.signed] at literal

theorem Text.isSpace_of_isDigit {c : Char} (digit : c.isDigit = true) : isSpace c = false := by
  simp only [Char.isDigit, Bool.and_eq_true, decide_eq_true_eq] at digit
  have range : 48 ≤ c.toNat ∧ c.toNat ≤ 57 := digit
  simp [isSpace, within, spaceRanges]
  omega

theorem Text.isSpace_toString (n : Int) : ∀ c ∈ (toString n).toList, isSpace c = false := by
  intro c member
  rcases bare_toString n c member with rfl | digit
  next => decide
  next => exact isSpace_of_isDigit digit

theorem Text.trim_eq_empty_iff {text : String} : trim text = "" ↔ trimChars text.toList = [] := by
  rw [trim, ← String.toList_inj, String.toList_ofList]
  rfl

theorem Fills.settingOf?_cut {key : String} (keyed : '=' ∉ key.toList) (value : String) :
    settingOf? (key ++ "=" ++ value) =
      if Text.trim key = "" then none
      else some (Text.trim key, .ofLiteral (Text.trim value)) := by
  have chars : (key ++ "=" ++ value).toList = key.toList ++ '=' :: value.toList := by
    simp [String.toList_append]
  rw [settingOf?, chars, Text.takeWhile_bne keyed, Text.dropWhile_bne keyed]
  by_cases blank : Text.trim key = ""
  next => simp [Text.trim_eq_empty_iff.mp blank, blank]
  next =>
    have named := mt Text.trim_eq_empty_iff.mpr blank
    simp [named, Value.ofLiteral, Text.trim]

theorem Text.exists_cut {text : String} (split : '=' ∈ text.toList) :
    ∃ front back, text = front ++ "=" ++ back ∧ '=' ∉ front.toList := by
  obtain ⟨front, back, shape, absent⟩ := List.eq_append_cons_of_mem split
  refine ⟨String.ofList front, String.ofList back, ?_, by rwa [String.toList_ofList]⟩
  rw [← String.toList_inj]
  simp [String.toList_append, shape]

inductive Fills.Malformed (raw : String) : Prop where
  | unparted (absent : '=' ∉ raw.toList)
  | unnamed (front back : String) (parted : raw = front ++ "=" ++ back)
      (first : '=' ∉ front.toList) (blank : Text.trim front = "")

theorem Fills.settingOf?_eq_none_iff {raw : String} : settingOf? raw = none ↔ Malformed raw := by
  constructor
  next =>
    intro unread
    by_cases split : '=' ∈ raw.toList
    next =>
      obtain ⟨front, back, rfl, first⟩ := Text.exists_cut split
      rw [settingOf?_cut first] at unread
      exact .unnamed front back rfl first (by simpa using unread)
    next => exact .unparted split
  next =>
    intro malformed
    cases malformed with
    | unparted absent =>
      have whole : raw.toList.dropWhile (· != '=') = [] :=
        List.dropWhile_eq_nil_iff.mpr fun c member =>
          bne_iff_ne.mpr fun same => absent (same ▸ member)
      rw [settingOf?, whole]
    | unnamed front back parted first blank =>
      rw [parted, settingOf?_cut first, if_pos blank]

theorem Fills.settingOf?_of_bare {key value : String} (keyed : '=' ∉ key.toList)
    (named : Text.trim key ≠ "") (bare : ∀ c ∈ value.toList, Text.isSpace c = false) :
    settingOf? (key ++ "=" ++ value) = some (Text.trim key, .ofLiteral value) := by
  have trimmed : Text.trim value = value := by
    have kept := @Text.trimChars_append value.toList [] bare (by simp)
    rw [List.append_nil] at kept
    rw [Text.trim, kept, String.ofList_toList]
  rw [settingOf?_cut keyed, if_neg named, trimmed]

theorem Fills.get?_ofTable_integer (key : String) (n : Int) :
    (ofTable [(key, .integer n)]).get? key = some (.number (Number.ofInt n)) := by
  have path : joinPath "" key = key := rfl
  rw [ofTable, addMembers, addNode, addMembers, path, Dict.get?_insert_self]
  rfl

theorem Script.parse_setting {sentence : Sentence} {setting : Setting} {line : String} (file : Nat)
    (among : setting ∈ sentence.settings)
    (named : ∀ name, sentence.name? = some name → Text.isName name.toList = true)
    (distinct : (sentence.settings.map Setting.parameter).Nodup)
    (onLine : sentence.OnLine line.toList) :
    ∃ statement, parse file line = .ok ⟨[statement], file⟩ ∧
      statement.call.arguments.get? setting.parameter = some setting.operand.argument := by
  obtain ⟨single, scans⟩ := onLine.scans
  obtain ⟨span, parsed⟩ := parseChars_of_scans file single scans ⟨rfl, named, distinct⟩
  refine ⟨_, parsed, ?_⟩
  rw [← Setting.map_fst_entry] at distinct
  exact (Dict.get?_ofList_iff distinct).mpr (List.mem_map_of_mem among)

/-- An integer gives one value as a setting, as an answer and as a word. In a file it gives the
same if it has fewer than sixteen digits; otherwise the file has a number and the others a text. -/
theorem integer_sources {n : Int} {key question member : String} {console : Console}
    {rest : List UInt8} {sentence : Sentence} {setting : Setting} {line : String} {file : Nat}
    (keyed : '=' ∉ key.toList) (named : Text.trim key ≠ "") (works : console.fault? = none)
    (typed : console.input = Console.entered (toString n) ++ rest)
    (word : setting.operand = .word (toString n)) (among : setting ∈ sentence.settings)
    (declared : ∀ name, sentence.name? = some name → Text.isName name.toList = true)
    (distinct : (sentence.settings.map Setting.parameter).Nodup)
    (onLine : sentence.OnLine line.toList) :
    ∃ value, Fills.settingOf? (key ++ "=" ++ toString n) = some (Text.trim key, value) ∧
      (Console.ask question console).1 = .ok value ∧
      (∃ statement, parse file line = .ok ⟨[statement], file⟩ ∧
        statement.call.arguments.get? setting.parameter = some (.given value)) ∧
      ((Fills.ofTable [(member, .integer n)]).get? member = some value ↔
        n.natAbs < 10 ^ 15) := by
  have bare := Text.isSpace_toString n
  have unbroken : '\n' ∉ (toString n).toList := fun member => by
    have inked := bare '\n' member
    cases inked
  have line' : Text.trim (toString n ++ "\n") = toString n := by
    have blank : ∀ c ∈ "\n".toList, Text.isSpace c = true := List.all_eq_true.mp (by decide)
    rw [Text.trim, String.toList_append, Text.trimChars_append bare blank, String.ofList_toList]
  have answer := Console.ask_entered question works typed unbroken (by
    rw [line']
    exact toString_ne_empty n)
  rw [line'] at answer
  obtain ⟨statement, parsed, argument⟩ := parse_setting file among declared distinct onLine
  rw [word] at argument
  refine ⟨.ofLiteral (toString n), Fills.settingOf?_of_bare keyed named bare, answer,
    ⟨statement, parsed, argument⟩, ?_⟩
  rw [Fills.get?_ofTable_integer, Value.ofLiteral_toString]
  simp

theorem integer_sources_small :
    ∃ value, Fills.settingOf? ("size" ++ "=" ++ toString (-40 : Int)) = some ("size", value) ∧
      (Console.ask "size" (.start (Console.entered (toString (-40 : Int))))).1 = .ok value ∧
      (∃ statement, parse 0 "grow disk by -40" = .ok ⟨[statement], 0⟩ ∧
        statement.call.arguments.get? "by" = some (.given value)) ∧
      ((Fills.ofTable [("size", .integer (-40))]).get? "size" = some value ↔
        (-40 : Int).natAbs < 10 ^ 15) := by
  let setting : Setting := ⟨"by", false, .word "-40"⟩
  let sentence : Sentence := ⟨none, "grow", "disk", [setting]⟩
  have space : isGap [' '] = true := by decide
  have empty : isGap [] = true := by decide
  have by' : setting.Written "by -40".toList :=
    .spaced (by decide) space (by decide) (.word (by decide))
  have all : Setting.AllWritten sentence.settings " by -40".toList :=
    .cons space (by decide) by' .nil
  have written : sentence.Written "grow disk by -40".toList :=
    .call (by decide) space (by decide) (by decide) all
  have onLine : sentence.OnLine "grow disk by -40".toList :=
    .line empty written (.gap empty) (by decide : [] ∈ lineEnds)
  have trimmed : Text.trim "size" = "size" := by decide
  have lowered : setting.parameter = "by" := by decide +kernel
  have typed : (Console.start (Console.entered (toString (-40 : Int)))).input =
      Console.entered (toString (-40 : Int)) ++ [] := (List.append_nil _).symm
  have distinct : (sentence.settings.map Setting.parameter).Nodup := by simp [sentence]
  have sources := @integer_sources (-40) "size" "size" "size" _ [] sentence setting _ 0
    (by decide) (by decide) rfl typed rfl List.mem_cons_self (fun _ named => by cases named)
    distinct onLine
  rwa [trimmed, lowered] at sources

theorem integer_sources_differ :
    (Fills.ofTable [("id", .integer 9007199254740993)]).get? "id" ≠
        (Fills.settingOf? "id=9007199254740993").map Prod.snd ∧
      (Fills.ofTable [("id", .integer 9007199254740993)]).get? "id" =
        (Fills.ofTable [("id", .integer 9007199254740992)]).get? "id" := by
  have rank : Decimal.rank ⟨9007199254740993, 0⟩ = Decimal.rank ⟨9007199254740992, 0⟩ := by
    decide +kernel
  have number : Number.ofInt 9007199254740993 = Number.ofInt 9007199254740992 :=
    Decimal.toNumber_congr rank false
  have text : Fills.settingOf? "id=9007199254740993" = some ("id", .text "9007199254740993") := by
    decide +kernel
  refine ⟨?_, by simp only [Fills.get?_ofTable_integer, number]⟩
  rw [Fills.get?_ofTable_integer, text]
  simp

end Runbook
