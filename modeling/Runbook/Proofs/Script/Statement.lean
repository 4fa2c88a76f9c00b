import Runbook.Script.Statement
import Runbook.Proofs.Number.Layout
import Runbook.Proofs.Script.Token
import Runbook.Text.Casing

set_option autoImplicit false

namespace Runbook

namespace Script

structure Renders (chars : List Char) (tokens : List Token) : Prop where
  scans : ∀ {after rest}, after.takeWhile isWordPart = [] → Scans after rest →
    Scans (chars ++ after) (tokens ++ rest)
  unbroken : '\n' ∉ chars
  ink : ∃ front last, chars = front ++ [last] ∧ Text.isBlank last = false

namespace Renders

theorem word {text : String} (isWord' : isWord text.toList = true) :
    Renders text.toList [.word text] := by
  have nonempty : text.toList ≠ [] := by
    intro empty
    simp [empty, isWord] at isWord'
  refine ⟨fun stops scans => ?_, fun newline => ?_, ?_⟩
  · simpa using Scans.word isWord' stops scans
  · exact absurd (isWordPart_of_mem isWord' newline) (by decide)
  · refine ⟨_, _, (List.dropLast_append_getLast nonempty).symm, ?_⟩
    exact (isWordPart_iff.mp (isWordPart_of_mem isWord' (List.getLast_mem nonempty))).1

theorem quoted (content : String) : Renders (Quoted.write content.toList) [.quoted content] := by
  refine ⟨fun _ scans => ?_, Quoted.newline_not_mem_write _, ?_⟩
  · simpa using scans.quoted content.toList
  · exact ⟨'"' :: content.toList.flatMap Quoted.escape, '"', rfl, by decide⟩

theorem braces {inner : List Char} (unclosed : '\x7d' ∉ inner) (unbroken : '\n' ∉ inner)
    (named : Text.trimChars inner ≠ []) :
    Renders ('\x7b' :: (inner ++ ['\x7d'])) [.hole (String.ofList (Text.trimChars inner))] := by
  refine ⟨fun _ scans => ?_, ?_, ⟨'\x7b' :: inner, '\x7d', rfl, by decide⟩⟩
  · simpa using scans.braces unclosed named
  · simpa using unbroken

theorem hole {key : String} (isKey : IsKey key.toList) :
    Renders ('\x7b' :: (key.toList ++ ['\x7d'])) [.hole key] := by
  have named : Text.trimChars key.toList ≠ [] := isKey.trimmed.symm ▸ isKey.nonempty
  simpa [isKey.trimmed] using braces isKey.unclosed isKey.unbroken named

theorem append {first second : List Char} {tokens others : List Token}
    (front : Renders first tokens) (back : Renders second others)
    (stops : second.takeWhile isWordPart = []) : Renders (first ++ second) (tokens ++ others) := by
  -- What follows stops the first part as the start of the second does, which is not empty.
  obtain ⟨start, last, shape, ink⟩ := back.ink
  refine ⟨fun {after rest} stops' scans => ?_, ?_, ?_⟩
  · have nonempty : second.length ≠ 0 := by simp [shape]
    have stops'' : (second ++ after).takeWhile isWordPart = [] := by
      rw [List.takeWhile_append, stops, if_neg (by simpa using nonempty.symm)]
    rw [List.append_assoc, List.append_assoc]
    exact front.scans stops'' (back.scans stops' scans)
  · simp [front.unbroken, back.unbroken]
  · exact ⟨first ++ start, last, by rw [shape, List.append_assoc], ink⟩

theorem blank {c : Char} {chars : List Char} {tokens : List Token}
    (isBlank : Text.isBlank c = true) (inside : c ≠ '\n') (renders : Renders chars tokens) :
    Renders (c :: chars) tokens := by
  obtain ⟨start, last, shape, ink⟩ := renders.ink
  refine ⟨fun stops scans => ?_, ?_, ⟨c :: start, last, by rw [shape]; rfl, ink⟩⟩
  · exact (renders.scans stops scans).blank isBlank
  · simpa using ⟨inside.symm, renders.unbroken⟩

theorem space {chars : List Char} {tokens : List Token} (renders : Renders chars tokens) :
    Renders (' ' :: chars) tokens :=
  renders.blank (by decide) (by decide)

theorem equals {chars : List Char} {tokens : List Token} (renders : Renders chars tokens) :
    Renders ('=' :: chars) (.equals :: tokens) := by
  obtain ⟨start, last, shape, ink⟩ := renders.ink
  refine ⟨fun stops scans => ?_, ?_, ⟨'=' :: start, last, by rw [shape]; rfl, ink⟩⟩
  · exact (renders.scans stops scans).equals
  · simpa using renders.unbroken

theorem line {chars : List Char} {tokens : List Token} (renders : Renders chars tokens) :
    Scans chars tokens := by
  have stops : ([] : List Char).takeWhile isWordPart = [] := rfl
  simpa using renders.scans stops Scans.nil

end Renders

structure IsKeyword (text : String) : Prop where
  word : isWord text.toList = true
  lowered : Text.lowercase text = text

end Script

open Script

theorem Text.isWord_of_isName {name : List Char} (isName' : isName name = true) :
    isWord name = true := by
  have free : delimiters.all (fun c => !isNamePart c) = true := by decide
  cases name with
  | nil => simp [isName] at isName'
  | cons c rest =>
    simp only [isName, Bool.and_eq_true, List.all_eq_true] at isName'
    refine isWord_of_disjoint (by simp) fun d member delimiter => ?_
    have part : isNamePart d = true := by
      rcases List.mem_cons.mp member with rfl | later
      · simp [isNamePart, isName'.1]
      · exact isName'.2 d later
    simpa [part] using List.all_eq_true.mp free d delimiter

theorem Number.isWord_toText (n : Number) : isWord n.toText.toList = true := by
  obtain ⟨nonempty, reported⟩ := Layout.reported_chars n
  have free : delimiters.all (fun c => !Layout.isReported c) = true := by decide
  rw [toText, Layout.write, String.toList_ofList]
  refine isWord_of_disjoint nonempty fun c member delimiter => ?_
  have letter := List.all_eq_true.mp reported c member
  simpa [letter] using List.all_eq_true.mp free c delimiter

namespace Argument

def Writable : Argument → Prop
  | .given (.reference name) => Text.isName name.toList = true
  | .given _ => True
  | .hole key => IsKey key.toList

def token : Argument → Token
  | .given (.text content) =>
    if needsQuotes content.toList then .quoted content else .word content
  | .given value => .word value.toText
  | .hole key => .hole key

theorem isWord_of_bare {chars : List Char} (bare : needsQuotes chars = false) :
    isWord chars = true := by
  have free : delimiters.all (fun c =>
      Text.isSpace c || Text.isControl c || c == '"' || c == '\x7b' || c == '\x7d' || c == '=' ||
        c == '#') = true := by
    decide
  simp only [needsQuotes, Bool.or_eq_false_iff, List.any_eq_false] at bare
  refine isWord_of_disjoint (by simpa using bare.1.1.1) fun c member delimiter => ?_
  exact bare.1.1.2 c member (List.all_eq_true.mp free c delimiter)

theorem renders {argument : Argument} (writable : argument.Writable) :
    Renders argument.toChars [argument.token] := by
  cases argument with
  | hole key => exact .hole writable
  | given value =>
    cases value with
    | text content =>
      simp only [toChars, token]
      split
      next => exact .quoted content
      next bare => exact .word (isWord_of_bare (by simpa using bare))
    | number n => exact .word n.isWord_toText
    | flag on => cases on <;> exact .word (by decide)
    | reference name =>
      refine .word ?_
      rw [Value.toText, String.toList_append]
      refine isWord_cons.mpr ⟨by decide, List.forall_mem_cons.mpr ⟨by decide, ?_⟩⟩
      exact fun c => isWordPart_of_mem (Text.isWord_of_isName writable)

end Argument

namespace Call

def WritableEntries (entries : List (String × Argument)) : Prop :=
  ∀ entry ∈ entries, IsKeyword entry.1 ∧ entry.2.Writable

structure Writable (call : Call) : Prop where
  action : IsKeyword call.action
  kind : IsKeyword call.kind
  arguments : WritableEntries call.arguments.entries

def entryTokens (entry : String × Argument) : List Token :=
  [.word entry.1, .equals, entry.2.token]

def tokens (call : Call) : List Token :=
  .word call.action :: .word call.kind :: call.arguments.entries.flatMap entryTokens

theorem renders_entries {front : List Char} {tokens : List Token} (renders : Renders front tokens)
    {entries : List (String × Argument)} (writable : WritableEntries entries) :
    Renders
      (front ++ entries.flatMap fun entry => ' ' :: entry.1.toList ++ '=' :: entry.2.toChars)
      (tokens ++ entries.flatMap entryTokens) := by
  induction entries generalizing front tokens with
  | nil => simpa using renders
  | cons entry rest ih =>
    obtain ⟨⟨name, argument⟩, later⟩ := List.forall_mem_cons.mp writable
    have here := (Renders.word name.word).append (Argument.renders argument).equals rfl
    have more := ih (renders.append here.space rfl) later
    simpa [entryTokens] using more

theorem renders {call : Call} (writable : call.Writable) : Renders call.toChars call.tokens :=
  renders_entries
    ((Renders.word writable.action.word).append (Renders.word writable.kind.word).space rfl)
    writable.arguments

end Call

namespace Statement

structure Writable (statement : Statement) : Prop where
  name : ∀ name, statement.name? = some name → Text.isName name.toList = true
  call : statement.call.Writable

def tokens (statement : Statement) : List Token :=
  match statement.name? with
  | none => statement.call.tokens
  | some name => .word name :: .equals :: statement.call.tokens

theorem renders {statement : Statement} (writable : statement.Writable) :
    Renders statement.toChars statement.tokens := by
  have call := Call.renders writable.call
  cases named : statement.name? with
  | none => simpa only [toChars, tokens, named] using call
  | some name =>
    have first := Renders.word (Text.isWord_of_isName (writable.name name named))
    have whole := first.append call.space.equals.space rfl
    simpa [toChars, tokens, named] using whole

end Statement

end Runbook
