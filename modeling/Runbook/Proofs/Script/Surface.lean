import Runbook.Proofs.Script.Locality
import Runbook.Proofs.Script.Statement
import Runbook.Proofs.Text.Casing

set_option autoImplicit false

namespace Runbook.Script

def isGap (chars : List Char) : Bool := chars.all fun c => Text.isBlank c && c != '\n'

theorem isGap_iff {chars : List Char} :
    isGap chars = true ↔ ∀ c ∈ chars, Text.isBlank c = true ∧ c ≠ '\n' := by
  simp [isGap]

theorem newline_not_mem_gap {gap : List Char} (isGap' : isGap gap = true) : '\n' ∉ gap :=
  fun member => (isGap_iff.mp isGap' _ member).2 rfl

inductive Operand.Written : Operand → List Char → Prop
  | word {text : String} (isWord' : isWord text.toList = true) : Written (.word text) text.toList
  | quoted {body : List Char} {reading : Quoted.Reading}
      (read : Quoted.read 0 1 .plain body = .ok reading) (whole : reading.rest = [])
      (unbroken : '\n' ∉ body) : Written (.quoted (String.ofList reading.text)) ('"' :: body)
  | hole {inner : List Char} (unclosed : '\x7d' ∉ inner) (unbroken : '\n' ∉ inner)
      (named : Text.trimChars inner ≠ []) :
      Written (.hole (String.ofList (Text.trimChars inner))) ('\x7b' :: (inner ++ ['\x7d']))

inductive Setting.Written : Setting → List Char → Prop
  | joined {name : String} {operand : Operand} {before after value : List Char}
      (isWord' : isWord name.toList = true) (space : isGap before = true)
      (space' : isGap after = true) (written : operand.Written value) :
      Written ⟨name, true, operand⟩ (name.toList ++ (before ++ '=' :: (after ++ value)))
  | spaced {name : String} {operand : Operand} {gap value : List Char}
      (isWord' : isWord name.toList = true) (space : isGap gap = true) (apart : gap ≠ [])
      (written : operand.Written value) :
      Written ⟨name, false, operand⟩ (name.toList ++ (gap ++ value))

inductive Setting.AllWritten : List Setting → List Char → Prop
  | nil : AllWritten [] []
  | cons {setting : Setting} {settings : List Setting} {gap chars rest : List Char}
      (space : isGap gap = true) (apart : gap ≠ []) (here : setting.Written chars)
      (later : AllWritten settings rest) :
      AllWritten (setting :: settings) (gap ++ (chars ++ rest))

inductive Sentence.Written : Sentence → List Char → Prop
  | call {action kind : String} {settings : List Setting} {gap rest : List Char}
      (isWord' : isWord action.toList = true) (space : isGap gap = true) (apart : gap ≠ [])
      (isWord'' : isWord kind.toList = true) (written : Setting.AllWritten settings rest) :
      Written ⟨none, action, kind, settings⟩ (action.toList ++ (gap ++ (kind.toList ++ rest)))
  | declaration {name action kind : String} {settings : List Setting}
      {before after chars : List Char} (isWord' : isWord name.toList = true)
      (space : isGap before = true) (space' : isGap after = true)
      (written : Written ⟨none, action, kind, settings⟩ chars) :
      Written ⟨some name, action, kind, settings⟩
        (name.toList ++ (before ++ '=' :: (after ++ chars)))

inductive Trailing : List Char → Prop
  | gap {gap : List Char} (space : isGap gap = true) : Trailing gap
  | comment {gap text : List Char} (space : isGap gap = true) (apart : gap ≠ [])
      (unbroken : '\n' ∉ text) : Trailing (gap ++ '#' :: text)

def lineEnds : List (List Char) := [[], ['\n'], ['\r', '\n']]

inductive Sentence.OnLine (sentence : Sentence) : List Char → Prop
  | line {lead body trail ending : List Char} (space : isGap lead = true)
      (written : sentence.Written body) (trailing : Trailing trail) (ends : ending ∈ lineEnds) :
      OnLine sentence (lead ++ body ++ (trail ++ ending))

namespace Renders

theorem gap {gap chars : List Char} {tokens : List Token} (space : isGap gap = true)
    (renders : Renders chars tokens) : Renders (gap ++ chars) tokens := by
  induction gap with
  | nil => exact renders
  | cons c rest ih =>
    obtain ⟨here, later⟩ := List.forall_mem_cons.mp (isGap_iff.mp space)
    exact (ih (isGap_iff.mpr later)).blank here.1 here.2

theorem literal {body : List Char} {reading : Quoted.Reading}
    (read : Quoted.read 0 1 .plain body = .ok reading) (whole : reading.rest = [])
    (unbroken : '\n' ∉ body) :
    Renders ('"' :: body) [.quoted (String.ofList reading.text)] := by
  obtain ⟨front, closed⟩ := Quoted.read_closes read
  rw [whole] at closed
  refine ⟨fun {after rest} _ scans => ?_, by simpa using unbroken, ?_⟩
  · rw [List.cons_append]
    refine scans.lexeme (by decide) (by decide) fun position =>
      ⟨⟨position, position + reading.stop⟩, ?_⟩
    have here := Quoted.read_append read after
    have there := Quoted.read_shift position 0 1 .plain (body ++ after)
    rw [here] at there
    simp only [Nat.add_zero, Quoted.Mode.shift] at there
    rw [readLexeme, if_neg (by decide), if_pos rfl, there]
    simp [Except.map, Quoted.Reading.followedBy, Quoted.Reading.shift, whole]
  · exact ⟨'"' :: front, '"', by rw [closed]; rfl, by decide⟩

end Renders

theorem stops_of_gap {gap chars : List Char} (space : isGap gap = true) (apart : gap ≠ []) :
    (gap ++ chars).takeWhile isWordPart = [] := by
  cases gap with
  | nil => exact absurd rfl apart
  | cons c rest =>
    have here := isGap_iff.mp space c List.mem_cons_self
    simp [isWordPart, here.1]

theorem stops_of_equals {gap chars : List Char} (space : isGap gap = true) :
    (gap ++ '=' :: chars).takeWhile isWordPart = [] := by
  cases gap with
  | nil => rfl
  | cons c rest => exact stops_of_gap space (List.cons_ne_nil c rest)

theorem Operand.renders {operand : Operand} {chars : List Char} (written : operand.Written chars) :
    Renders chars [operand.token] := by
  cases written with
  | word isWord' => exact .word isWord'
  | quoted read whole unbroken => exact .literal read whole unbroken
  | hole unclosed unbroken named => exact .braces unclosed unbroken named

theorem Setting.renders {setting : Setting} {chars : List Char} (written : setting.Written chars) :
    Renders chars setting.tokens := by
  cases written with
  | joined isWord' space space' written =>
    have value := (Operand.renders written).gap space'
    exact (Renders.word isWord').append (value.equals.gap space) (stops_of_equals space)
  | spaced isWord' space apart written =>
    have value := (Operand.renders written).gap space
    exact (Renders.word isWord').append value (stops_of_gap space apart)

theorem Setting.renders_all {settings : List Setting} {chars front : List Char}
    {tokens : List Token} (written : AllWritten settings chars) (renders : Renders front tokens) :
    Renders (front ++ chars) (tokens ++ settings.flatMap Setting.tokens) := by
  induction written generalizing front tokens with
  | nil => simpa using renders
  | cons space apart here later ih =>
    have longer := renders.append ((Setting.renders here).gap space) (stops_of_gap space apart)
    simpa using ih longer

theorem Sentence.renders {sentence : Sentence} {chars : List Char}
    (written : sentence.Written chars) : Renders chars sentence.tokens := by
  induction written with
  | call isWord' space apart isWord'' written =>
    have words := (Renders.word isWord').append ((Renders.word isWord'').gap space)
      (stops_of_gap space apart)
    simpa [Sentence.tokens, Sentence.callTokens] using Setting.renders_all written words
  | declaration isWord' space space' written ih =>
    exact (Renders.word isWord').append ((ih.gap space').equals.gap space) (stops_of_equals space)

theorem scans_trailing {blanks text kept : List Char} (blank : ∀ c ∈ blanks, Text.isBlank c = true)
    (part : kept <+: blanks ++ '#' :: text) : Scans kept [] := by
  induction blanks generalizing kept with
  | nil =>
    cases kept with
    | nil => exact Scans.nil
    | cons c rest =>
      obtain rfl : c = '#' := (List.cons_prefix_cons.mp part).1
      exact fun position => ⟨[], by rw [scan, if_neg (by decide), if_pos rfl], rfl⟩
  | cons first others ih =>
    cases kept with
    | nil => exact Scans.nil
    | cons c rest =>
      obtain ⟨rfl, behind⟩ := List.cons_prefix_cons.mp part
      obtain ⟨here, later⟩ := List.forall_mem_cons.mp blank
      exact (ih later behind).blank here

theorem stops_of_prefix {kept chars : List Char} (part : kept <+: chars)
    (stops : chars.takeWhile isWordPart = []) : kept.takeWhile isWordPart = [] := by
  obtain ⟨after, rfl⟩ := part
  cases kept with
  | nil => rfl
  | cons c rest =>
    by_cases inside : isWordPart c = true
    · simp [inside] at stops
    · simp [inside]

theorem blank_of_lineEnd {ending : List Char} (ends : ending ∈ lineEnds) :
    ∀ c ∈ ending, Text.isBlank c = true := by
  have blank : lineEnds.all (fun ending => ending.all Text.isBlank) = true := by decide
  exact List.all_eq_true.mp (List.all_eq_true.mp blank ending ends)

theorem stops_of_blanks {blanks : List Char} (blank : ∀ c ∈ blanks, Text.isBlank c = true) :
    blanks.takeWhile isWordPart = [] := by
  cases blanks with
  | nil => rfl
  | cons c rest => simp [isWordPart, blank c List.mem_cons_self]

theorem silent_of_trailing {trail ending kept : List Char} (trailing : Trailing trail)
    (ends : ending ∈ lineEnds) (part : kept <+: trail ++ ending) :
    Scans kept [] ∧ kept.takeWhile isWordPart = [] := by
  have closing := blank_of_lineEnd ends
  cases trailing with
  | gap space =>
    have blank : ∀ c ∈ trail ++ ending, Text.isBlank c = true := by
      intro c member
      rcases List.mem_append.mp member with early | late
      · exact (isGap_iff.mp space c early).1
      · exact closing c late
    have before : kept <+: (trail ++ ending) ++ '#' :: [] := part.trans (List.prefix_append _ _)
    exact ⟨scans_trailing blank before, stops_of_prefix part (stops_of_blanks blank)⟩
  | comment space apart unbroken =>
    rw [List.append_assoc, List.cons_append] at part
    exact ⟨scans_trailing (fun c member => (isGap_iff.mp space c member).1) part,
      stops_of_prefix part (stops_of_gap space apart)⟩

theorem withoutLineEnds_append {body : List Char} {tokens : List Token}
    (renders : Renders body tokens) (tail : List Char) :
    ∃ kept, kept <+: tail ∧ withoutLineEnds (body ++ tail) = body ++ kept := by
  obtain ⟨front, last, rfl, ink⟩ := renders.ink
  refine ⟨withoutLineEnds tail, List.rdropWhile_prefix _ _, Text.dropEnd_append ?_⟩
  simp_all [Text.isBlank]

theorem lines_of_line {body ending : List Char} (unbroken : '\n' ∉ body) (nonempty : body ≠ [])
    (ends : ending ∈ lineEnds) : Text.lines (body ++ ending) = [body ++ ending] := by
  have inside : ∀ {chars : List Char}, '\n' ∉ chars → ∀ c ∈ chars, (c == '\n') = false :=
    fun absent c member => beq_eq_false_iff_ne.mpr fun same => absent (same ▸ member)
  simp only [lineEnds, List.mem_cons, List.not_mem_nil, or_false] at ends
  rcases ends with rfl | rfl | rfl
  · rw [List.append_nil]
    exact Text.cutAfter_of_inside (inside unbroken) nonempty
  · exact Text.cutAfter_append (inside unbroken) rfl
  · have unbroken' : '\n' ∉ body ++ ['\r'] := by simp [unbroken]
    rw [List.append_cons]
    exact Text.cutAfter_append (inside unbroken') rfl

theorem newline_not_mem_trailing {trail : List Char} (trailing : Trailing trail) :
    '\n' ∉ trail := by
  cases trailing with
  | gap space => exact newline_not_mem_gap space
  | comment space apart unbroken => simp [newline_not_mem_gap space, unbroken]

theorem Sentence.OnLine.scans {sentence : Sentence} {line : List Char}
    (onLine : sentence.OnLine line) :
    Text.lines line = [line] ∧ Scans (withoutLineEnds line) sentence.tokens := by
  obtain @⟨lead, body, trail, ending, space, written, trailing, ends⟩ := onLine
  have renders := (Sentence.renders written).gap space
  constructor
  next =>
    obtain ⟨front, last, shape, -⟩ := renders.ink
    have unbroken : '\n' ∉ lead ++ body ++ trail := by
      simp only [List.mem_append, not_or]
      exact ⟨⟨newline_not_mem_gap space, (Sentence.renders written).unbroken⟩,
        newline_not_mem_trailing trailing⟩
    rw [← List.append_assoc]
    exact lines_of_line unbroken (by simp [shape]) ends
  next =>
    obtain ⟨kept, part, same⟩ := withoutLineEnds_append renders (trail ++ ending)
    obtain ⟨silent, stops⟩ := silent_of_trailing trailing ends part
    rw [same]
    simpa using renders.scans stops silent

theorem parseChars_of_scans {sentence : Sentence} {line : List Char} (file : Nat)
    (single : Text.lines line = [line]) (scans : Scans (withoutLineEnds line) sentence.tokens)
    (derives : sentence.Derives sentence.tokens) :
    ∃ span, parseChars file line = .ok ⟨[⟨sentence.name?, sentence.call, span⟩], file⟩ := by
  obtain ⟨lexemes, scanned, same⟩ := scans 0
  obtain ⟨⟨name?, call, span⟩, read, denotes, -⟩ := statementOf?_of_derives (same ▸ derives)
  obtain ⟨rfl, rfl⟩ := (Sentence.denotes_iff derives.distinct).mp denotes
  have reading : readLine 0 line = .ok (some ⟨sentence.name?, sentence.call, span⟩) := by
    rw [readLine, scanned]
    exact read
  refine ⟨span, ?_⟩
  rw [parseChars_of_line file single, reading]
  rfl

def SameLetters (first second : String) : Prop :=
  first.toList.map Char.toLower = second.toList.map Char.toLower

structure Setting.SameAs (first second : Setting) : Prop where
  name : SameLetters first.name second.name
  operand : first.operand = second.operand

-- Sentences that say the same, with the settings in any order and form.
structure Sentence.SameAs (first second : Sentence) : Prop where
  name : first.name? = second.name?
  action : SameLetters first.action second.action
  kind : SameLetters first.kind second.kind
  settings : ∃ ordered, ordered.Perm first.settings ∧
    List.Forall₂ Setting.SameAs ordered second.settings

theorem map_entry_eq {first second : List Setting} (same : List.Forall₂ Setting.SameAs first second) :
    first.map Setting.entry = second.map Setting.entry := by
  induction same with
  | nil => rfl
  | cons here later ih =>
    simp only [List.map_cons, ih, Setting.entry, Setting.parameter,
      Text.lowercase_eq_of_toLower here.name, here.operand]

namespace Sentence.SameAs

variable {first second : Sentence}

theorem entries (same : first.SameAs second) :
    (first.settings.map Setting.entry).Perm (second.settings.map Setting.entry) := by
  obtain ⟨ordered, perm, alike⟩ := same.settings
  rw [← map_entry_eq alike]
  exact (perm.map Setting.entry).symm

theorem call (same : first.SameAs second)
    (distinct : (first.settings.map Setting.parameter).Nodup) : first.call = second.call := by
  rw [← Setting.map_fst_entry] at distinct
  simp only [Sentence.call, Text.lowercase_eq_of_toLower same.action,
    Text.lowercase_eq_of_toLower same.kind, Dict.ofList_perm same.entries distinct]

theorem derives (same : first.SameAs second) (derives : first.Derives first.tokens) :
    second.Derives second.tokens := by
  refine ⟨rfl, fun name named => derives.name name (same.name.trans named), ?_⟩
  have distinct := derives.distinct
  rw [← Setting.map_fst_entry] at distinct ⊢
  exact (same.entries.map Prod.fst).nodup_iff.mp distinct

end Sentence.SameAs

/-- Every line that says what a sentence says gives the same call under the same name, whatever its
letter case, the order and form of its settings, its spaces, its comment and its line end. -/
theorem parse_of_sameAs {sentence other : Sentence} {line : String} (file : Nat)
    (named : ∀ name, sentence.name? = some name → Text.isName name.toList = true)
    (distinct : (sentence.settings.map Setting.parameter).Nodup) (same : sentence.SameAs other)
    (onLine : other.OnLine line.toList) :
    ∃ span, parse file line = .ok ⟨[⟨sentence.name?, sentence.call, span⟩], file⟩ := by
  obtain ⟨single, scans⟩ := onLine.scans
  rw [same.name, same.call distinct]
  exact parseChars_of_scans file single scans (same.derives ⟨rfl, named, distinct⟩)

def plain : Sentence :=
  ⟨some "a", "make", "vpc", [⟨"ip", true, .word "1"⟩, ⟨"tag", true, .quoted "x"⟩]⟩

def ornate : Sentence :=
  ⟨some "a", "MAKE", "Vpc", [⟨"Tag", false, .quoted "x"⟩, ⟨"ip", true, .word "1"⟩]⟩

theorem parse_of_sameAs_ornate :
    ∃ span, parse 4 "\ta= MAKE \tVpc Tag \"x\" ip\t= 1 # n\r\n" =
      .ok ⟨[⟨some "a", plain.call, span⟩], 4⟩ := by
  have named : ∀ name, plain.name? = some name → Text.isName name.toList = true := by
    rintro name isName
    obtain rfl : "a" = name := Option.some.inj isName
    decide
  have letters : SameLetters "make" "MAKE" ∧ SameLetters "vpc" "Vpc" ∧ SameLetters "tag" "Tag" := by
    unfold SameLetters
    decide
  have settings : List.Forall₂ Setting.SameAs plain.settings.reverse ornate.settings :=
    .cons ⟨letters.2.2, rfl⟩ (.cons ⟨rfl, rfl⟩ .nil)
  have same : plain.SameAs ornate :=
    ⟨rfl, letters.1, letters.2.1, _, List.reverse_perm _, settings⟩
  have empty : isGap [] = true := by decide
  have space : isGap [' '] = true := by decide
  have tab : isGap ['\t'] = true := by decide
  have wide : isGap [' ', '\t'] = true := by decide
  have read : Quoted.read 0 1 .plain ['x', '"'] = .ok ⟨['x'], 3, []⟩ := rfl
  have tag : Setting.Written ⟨"Tag", false, .quoted "x"⟩ "Tag \"x\"".toList :=
    .spaced (by decide) space (by decide) (.quoted read rfl (by decide))
  have ip : Setting.Written ⟨"ip", true, .word "1"⟩ "ip\t= 1".toList :=
    .joined (by decide) tab space (.word (by decide))
  have both : Setting.AllWritten ornate.settings " Tag \"x\" ip\t= 1".toList :=
    .cons space (by decide) tag (.cons space (by decide) ip .nil)
  have written : ornate.Written "a= MAKE \tVpc Tag \"x\" ip\t= 1".toList :=
    .declaration (by decide) empty space (.call (by decide) wide (by decide) (by decide) both)
  have trailing : Trailing " # n".toList := .comment space (by decide) (by decide)
  have ends : ['\r', '\n'] ∈ lineEnds := by decide
  exact parse_of_sameAs 4 named (by decide +kernel) same (.line tab written trailing ends)

end Runbook.Script
