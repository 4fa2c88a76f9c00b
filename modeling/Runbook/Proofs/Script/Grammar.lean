import Runbook.Proofs.Dict
import Runbook.Proofs.Script.Parse

set_option autoImplicit false

namespace Runbook

structure Statement.Spans (statement : Statement) (lexemes : List Script.Lexeme) : Prop where
  start : lexemes.head?.map (·.span.start) = some statement.span.start
  stop : lexemes.getLast?.map (·.span.stop) = some statement.span.stop

namespace Script

inductive Operand where
  | word (text : String)
  | quoted (text : String)
  | hole (key : String)
deriving DecidableEq

namespace Operand

def token : Operand → Token
  | .word text => .word text
  | .quoted text => .quoted text
  | .hole key => .hole key

def argument : Operand → Argument
  | .word text => .given (.ofLiteral text)
  | .quoted text => .given (.text text)
  | .hole key => .hole key

theorem token_injective : Function.Injective token := by
  intro first second same
  cases first <;> cases second <;> simp_all [token]

theorem token_ne_equals (operand : Operand) : operand.token ≠ .equals := by
  cases operand <;> simp [token]

end Operand

structure Setting where
  name : String
  joined : Bool
  operand : Operand
deriving DecidableEq

namespace Setting

def tokens (setting : Setting) : List Token :=
  if setting.joined then [.word setting.name, .equals, setting.operand.token]
  else [.word setting.name, setting.operand.token]

def parameter (setting : Setting) : String := Text.lowercase setting.name

def entry (setting : Setting) : String × Argument := (setting.parameter, setting.operand.argument)

theorem map_fst_entry (settings : List Setting) :
    (settings.map entry).map Prod.fst = settings.map parameter := by
  rw [List.map_map]
  rfl

end Setting

structure Sentence where
  name? : Option String
  action : String
  kind : String
  settings : List Setting
deriving DecidableEq

namespace Sentence

def callTokens (sentence : Sentence) : List Token :=
  .word sentence.action :: .word sentence.kind :: sentence.settings.flatMap Setting.tokens

def tokens (sentence : Sentence) : List Token :=
  match sentence.name? with
  | none => sentence.callTokens
  | some name => .word name :: .equals :: sentence.callTokens

structure Derives (sentence : Sentence) (tokens : List Token) : Prop where
  form : tokens = sentence.tokens
  name : ∀ name, sentence.name? = some name → Text.isName name.toList = true
  distinct : (sentence.settings.map Setting.parameter).Nodup

structure Denotes (sentence : Sentence) (statement : Statement) : Prop where
  name : statement.name? = sentence.name?
  action : statement.call.action = Text.lowercase sentence.action
  kind : statement.call.kind = Text.lowercase sentence.kind
  arguments : ∀ parameter argument, statement.call.arguments.get? parameter = some argument ↔
    (parameter, argument) ∈ sentence.settings.map Setting.entry

def call (sentence : Sentence) : Call :=
  ⟨Text.lowercase sentence.action, Text.lowercase sentence.kind,
    .ofList (sentence.settings.map Setting.entry)⟩

theorem denotes_iff {sentence : Sentence}
    (distinct : (sentence.settings.map Setting.parameter).Nodup) {statement : Statement} :
    sentence.Denotes statement ↔
      statement.name? = sentence.name? ∧ statement.call = sentence.call := by
  rw [← Setting.map_fst_entry] at distinct
  constructor
  next =>
    intro denotes
    obtain ⟨name?, ⟨action, kind, arguments⟩, span⟩ := statement
    obtain ⟨name, rfl, rfl, lookups⟩ := denotes
    refine ⟨name, congrArg (Call.mk _ _) (Dict.ext_get? fun parameter => Option.ext fun argument => ?_)⟩
    exact (lookups parameter argument).trans (Dict.get?_ofList_iff distinct).symm
  next =>
    rintro ⟨name, called⟩
    refine ⟨name, by rw [called]; rfl, by rw [called]; rfl, fun parameter argument => ?_⟩
    rw [called]
    exact Dict.get?_ofList_iff distinct

end Sentence

theorem flatMap_tokens_injective : Function.Injective (List.flatMap Setting.tokens) := by
  intro first second same
  induction first generalizing second with
  | nil =>
    cases second with
    | nil => rfl
    | cons setting rest =>
      cases joined : setting.joined <;> simp [Setting.tokens, joined] at same
  | cons setting rest ih =>
    cases second with
    | nil => cases joined : setting.joined <;> simp [Setting.tokens, joined] at same
    | cons other others =>
      obtain ⟨name, joined, operand⟩ := setting
      obtain ⟨name', joined', operand'⟩ := other
      -- What stands behind a name is an equals sign or an operand, never both.
      have apart := operand.token_ne_equals
      have apart' := operand'.token_ne_equals
      cases joined <;> cases joined' <;>
        simp only [List.flatMap_cons, Setting.tokens, Bool.false_eq_true, if_false, if_true,
          List.cons_append, List.nil_append, List.cons.injEq, Token.word.injEq, true_and] at same
      · obtain ⟨rfl, operands, rests⟩ := same
        rw [Operand.token_injective operands, ih rests]
      · exact absurd same.2.1 apart
      · exact absurd same.2.1.symm apart'
      · obtain ⟨rfl, operands, rests⟩ := same
        rw [Operand.token_injective operands, ih rests]

theorem tokens_injective : Function.Injective Sentence.tokens := by
  rintro ⟨name?, action, kind, settings⟩ ⟨name'?, action', kind', settings'⟩ same
  -- A second token that is an equals sign tells a declaration.
  cases name? <;> cases name'? <;>
    simp only [Sentence.tokens, Sentence.callTokens, List.cons.injEq, Token.word.injEq, reduceCtorEq,
      false_and, and_false, true_and] at same
  · obtain ⟨rfl, rfl, rests⟩ := same
    rw [flatMap_tokens_injective rests]
  · obtain ⟨rfl, rfl, rfl, rests⟩ := same
    rw [flatMap_tokens_injective rests]

theorem argumentOf_ok_iff {lexeme : Lexeme} {argument : Argument} :
    argumentOf lexeme = .ok argument ↔
      ∃ operand : Operand, lexeme.token = operand.token ∧ argument = operand.argument := by
  constructor
  next =>
    intro done
    unfold argumentOf at done
    split at done
    next text isToken => exact ⟨.word text, isToken, (Except.ok.inj done).symm⟩
    next text isToken => exact ⟨.quoted text, isToken, (Except.ok.inj done).symm⟩
    next key isToken => exact ⟨.hole key, isToken, (Except.ok.inj done).symm⟩
    next => cases done
  next =>
    rintro ⟨operand, isToken, rfl⟩
    cases operand <;> simp_all [argumentOf, Operand.token, Operand.argument]

section Arguments

variable {prior : List Setting}

theorem contains_settings_iff {parameter : String} :
    (Dict.ofList (prior.map Setting.entry)).contains parameter = true ↔
      parameter ∈ prior.map Setting.parameter := by
  rw [← Setting.map_fst_entry, Dict.contains, Option.isSome_iff_ne_none]
  exact not_iff_comm.mp Dict.get?_ofList_eq_none_iff.symm

theorem addArgument_ok_iff {text : String} {name value : Lexeme} {more : Dict String Argument}
    (joined : Bool) :
    addArgument (.ofList (prior.map Setting.entry)) (Text.lowercase text) name value = .ok more ↔
      ∃ operand : Operand, value.token = operand.token ∧
        Text.lowercase text ∉ prior.map Setting.parameter ∧
        more = .ofList ((prior ++ [Setting.mk text joined operand]).map Setting.entry) := by
  have longer (operand : Operand) :
      Dict.ofList ((prior ++ [Setting.mk text joined operand]).map Setting.entry) =
        (Dict.ofList (prior.map Setting.entry)).insert (Text.lowercase text) operand.argument := by
    rw [List.map_append, List.map_singleton, Dict.ofList_concat]
    rfl
  simp only [longer, ← contains_settings_iff]
  unfold addArgument
  constructor
  next =>
    intro done
    split at done
    next => cases done
    next argument found =>
      obtain ⟨operand, isToken, rfl⟩ := argumentOf_ok_iff.mp found
      split at done
      next => cases done
      next fresh => exact ⟨operand, isToken, fresh, (Except.ok.inj done).symm⟩
  next =>
    rintro ⟨operand, isToken, fresh, rfl⟩
    rw [argumentOf_ok_iff.mpr ⟨operand, isToken, rfl⟩]
    simp only [if_neg fresh]

theorem distinct_concat {setting : Setting} (distinct : (prior.map Setting.parameter).Nodup)
    (fresh : setting.parameter ∉ prior.map Setting.parameter) :
    ((prior ++ [setting]).map Setting.parameter).Nodup := by
  rw [List.map_append, List.map_singleton]
  refine List.nodup_append.mpr ⟨distinct, by simp, ?_⟩
  rintro parameter member _ single rfl
  exact fresh (List.mem_singleton.mp single ▸ member)

structure Follows (prior settings : List Setting) (lexemes : List Lexeme) : Prop where
  form : lexemes.map (·.token) = settings.flatMap Setting.tokens
  distinct : ((prior ++ settings).map Setting.parameter).Nodup

theorem exists_follows_cons {setting : Setting} {first others : List Lexeme}
    {result : Dict String Argument} (form : first.map (·.token) = setting.tokens)
    (later : ∃ settings, Follows (prior ++ [setting]) settings others ∧
      result = .ofList ((prior ++ [setting] ++ settings).map Setting.entry)) :
    ∃ settings, Follows prior settings (first ++ others) ∧
      result = .ofList ((prior ++ settings).map Setting.entry) := by
  obtain ⟨settings, follows, rfl⟩ := later
  refine ⟨setting :: settings, ⟨?_, by simpa using follows.distinct⟩, by simp⟩
  rw [List.map_append, form, follows.form, List.flatMap_cons]

theorem readArguments_follows {arguments result : Dict String Argument} {lexemes : List Lexeme}
    (taken : arguments = .ofList (prior.map Setting.entry))
    (distinct : (prior.map Setting.parameter).Nodup)
    (done : readArguments arguments lexemes = .ok result) :
    ∃ settings, Follows prior settings lexemes ∧
      result = .ofList ((prior ++ settings).map Setting.entry) := by
  fun_induction readArguments arguments lexemes generalizing prior with
  | case1 arguments =>
    obtain rfl : arguments = result := Except.ok.inj done
    exact ⟨[], ⟨rfl, by simpa using distinct⟩, by simpa using taken⟩
  | case2 => cases done
  | case3 => cases done
  | case4 => cases done
  | case5 arguments name text isWord parameter span value others more added =>
    rename_i ih
    subst taken
    obtain ⟨operand, isOperand, fresh, longer⟩ := (addArgument_ok_iff true).mp added
    have form : [name, ⟨.equals, span⟩, value].map (·.token) =
        (Setting.mk text true operand).tokens := by
      simp [Setting.tokens, isWord, isOperand]
    exact exists_follows_cons form (ih longer (distinct_concat distinct fresh) done)
  | case6 => cases done
  | case7 arguments name text isWord parameter value others _ _ more added =>
    rename_i ih
    subst taken
    obtain ⟨operand, isOperand, fresh, longer⟩ := (addArgument_ok_iff false).mp added
    have form : [name, value].map (·.token) = (Setting.mk text false operand).tokens := by
      simp [Setting.tokens, isWord, isOperand]
    exact exists_follows_cons form (ih longer (distinct_concat distinct fresh) done)
  | case8 => cases done

theorem readArguments_cons {setting : Setting} {first others : List Lexeme}
    {arguments more : Dict String Argument} (form : first.map (·.token) = setting.tokens)
    (added : ∀ name value, value.token = setting.operand.token →
      addArgument arguments setting.parameter name value = .ok more) :
    readArguments arguments (first ++ others) = readArguments more others := by
  obtain ⟨text, joined, operand⟩ := setting
  have taken (name value : Span) :
      (addArgument arguments (Text.lowercase text) ⟨.word text, name⟩ ⟨operand.token, value⟩ >>=
        (readArguments · others)) = readArguments more others := by
    have added' := added ⟨.word text, name⟩ ⟨operand.token, value⟩ rfl
    simp only [Setting.parameter] at added'
    rw [added']
    rfl
  cases joined with
  | true =>
    obtain ⟨name, _, rfl, afterName⟩ := exists_of_tokens form
    obtain ⟨equals, _, rfl, afterEquals⟩ := exists_of_tokens afterName
    obtain ⟨value, _, rfl, afterValue⟩ := exists_of_tokens afterEquals
    obtain rfl := List.map_eq_nil_iff.mp afterValue
    exact (readArguments_joined arguments rfl equals _ others).trans (taken name value)
  | false =>
    obtain ⟨name, _, rfl, afterName⟩ := exists_of_tokens form
    obtain ⟨value, _, rfl, afterValue⟩ := exists_of_tokens afterName
    obtain rfl := List.map_eq_nil_iff.mp afterValue
    exact (readArguments_spaced arguments rfl operand.token_ne_equals others).trans
      (taken name value)

theorem readArguments_of_follows {settings : List Setting} {lexemes : List Lexeme}
    (follows : Follows prior settings lexemes) :
    readArguments (.ofList (prior.map Setting.entry)) lexemes =
      .ok (.ofList ((prior ++ settings).map Setting.entry)) := by
  obtain ⟨form, distinct⟩ := follows
  induction settings generalizing prior lexemes with
  | nil =>
    rw [List.map_eq_nil_iff.mp form, readArguments, List.append_nil]
  | cons setting rest ih =>
    obtain ⟨first, others, rfl, here, later⟩ := List.map_eq_append_iff.mp form
    have fresh : setting.parameter ∉ prior.map Setting.parameter := by
      rw [List.map_append, List.nodup_append] at distinct
      exact fun member => distinct.2.2 _ member _ List.mem_cons_self rfl
    rw [List.append_cons] at distinct ⊢
    rw [readArguments_cons here fun name value isOperand =>
      (addArgument_ok_iff setting.joined).mpr ⟨setting.operand, isOperand, fresh, rfl⟩]
    exact ih later distinct

end Arguments

theorem readCall_ok_iff {stop : Nat} {lexemes : List Lexeme} {call : Call} (name? : Option String) :
    readCall stop lexemes = .ok call ↔
      ∃ sentence : Sentence, sentence.name? = name? ∧
        lexemes.map (·.token) = sentence.callTokens ∧
        (sentence.settings.map Setting.parameter).Nodup ∧ call = sentence.call := by
  constructor
  next =>
    intro done
    obtain ⟨⟨action, afterAction⟩, first, done⟩ := bind_eq_ok_iff.mp done
    obtain ⟨⟨kind, afterKind⟩, second, done⟩ := bind_eq_ok_iff.mp done
    obtain ⟨arguments, third, done⟩ := bind_eq_ok_iff.mp done
    cases done
    obtain ⟨_, rfl⟩ := readWord_ok_iff.mp first
    obtain ⟨_, rfl⟩ := readWord_ok_iff.mp second
    have fresh : (([] : List Setting).map Setting.parameter).Nodup := .nil
    obtain ⟨settings, follows, rfl⟩ := readArguments_follows rfl fresh third
    exact ⟨⟨name?, action, kind, settings⟩, rfl, by simp [Sentence.callTokens, follows.form],
      follows.distinct, rfl⟩
  next =>
    rintro ⟨sentence, -, form, distinct, rfl⟩
    obtain ⟨_, _, rfl, afterAction⟩ := exists_of_tokens form
    obtain ⟨_, _, rfl, afterKind⟩ := exists_of_tokens afterAction
    have follows : Follows [] sentence.settings _ := ⟨afterKind, distinct⟩
    have read := readArguments_of_follows follows
    simp only [readCall, readWord, bind, Except.bind]
    rw [show (∅ : Dict String Argument) = .ofList (([] : List Setting).map Setting.entry) from rfl,
      read]
    rfl

theorem spans_iff {statement : Statement} {first : Lexeme} {rest : List Lexeme} :
    statement.Spans (first :: rest) ↔ statement.span = spanOf first rest := by
  constructor
  next =>
    rintro ⟨start, stop⟩
    obtain ⟨name?, call, ⟨begins, ends⟩⟩ := statement
    rw [List.getLast?_eq_getLast_of_ne_nil (List.cons_ne_nil first rest)] at stop
    simp_all [spanOf]
  next =>
    intro same
    refine ⟨by rw [same]; rfl, ?_⟩
    rw [same, List.getLast?_eq_getLast_of_ne_nil (List.cons_ne_nil first rest)]
    rfl

theorem statementOf?_derives {lexemes : List Lexeme} {statement : Statement}
    (done : statementOf? lexemes = .ok (some statement)) :
    ∃ sentence : Sentence, sentence.Derives (lexemes.map (·.token)) ∧
      sentence.Denotes statement ∧ statement.Spans lexemes := by
  unfold statementOf? at done
  split at done
  next => cases done
  next first rest =>
    split at done
    next span body =>
      obtain ⟨name, named, done⟩ := bind_eq_ok_iff.mp done
      obtain ⟨call, called, done⟩ := bind_eq_ok_iff.mp done
      cases done
      obtain ⟨isWord, isName⟩ := readName_ok_iff.mp named
      obtain ⟨sentence, same, form, distinct, rfl⟩ := (readCall_ok_iff (some name)).mp called
      refine ⟨sentence, ⟨?_, ?_, distinct⟩,
        (Sentence.denotes_iff distinct).mpr ⟨same.symm, rfl⟩, spans_iff.mpr rfl⟩
      · simp [Sentence.tokens, same, isWord, form]
      · rintro other declared
        obtain rfl : name = other := by simpa [same] using declared
        exact isName
    next =>
      obtain ⟨call, called, done⟩ := bind_eq_ok_iff.mp done
      cases done
      obtain ⟨sentence, same, form, distinct, rfl⟩ := (readCall_ok_iff none).mp called
      refine ⟨sentence, ⟨?_, ?_, distinct⟩,
        (Sentence.denotes_iff distinct).mpr ⟨same.symm, rfl⟩, spans_iff.mpr rfl⟩
      · rw [form, Sentence.tokens, same]
      · simp [same]

theorem statementOf?_of_derives {sentence : Sentence} {lexemes : List Lexeme}
    (derives : sentence.Derives (lexemes.map (·.token))) :
    ∃ statement, statementOf? lexemes = .ok (some statement) ∧
      sentence.Denotes statement ∧ statement.Spans lexemes := by
  have denotes {statement : Statement} : sentence.Denotes statement ↔
      statement.name? = sentence.name? ∧ statement.call = sentence.call :=
    Sentence.denotes_iff derives.distinct
  have call {stop : Nat} {body : List Lexeme}
      (form : body.map (·.token) = sentence.callTokens) :
      readCall stop body = .ok sentence.call :=
    (readCall_ok_iff sentence.name?).mpr ⟨sentence, rfl, form, derives.distinct, rfl⟩
  have form := derives.form
  cases named : sentence.name? with
  | none =>
    rw [Sentence.tokens, named] at form
    obtain ⟨_, _, rfl, afterAction⟩ := exists_of_tokens form
    obtain ⟨_, _, rfl, afterKind⟩ := exists_of_tokens afterAction
    simp only [statementOf?]
    rw [call form]
    exact ⟨_, rfl, denotes.mpr ⟨named.symm, rfl⟩, spans_iff.mpr rfl⟩
  | some name =>
    rw [Sentence.tokens, named] at form
    obtain ⟨_, _, rfl, afterName⟩ := exists_of_tokens form
    obtain ⟨_, _, rfl, afterEquals⟩ := exists_of_tokens afterName
    simp only [statementOf?]
    rw [readName_ok_iff.mpr ⟨rfl, derives.name name named⟩, call afterEquals]
    exact ⟨_, rfl, denotes.mpr ⟨named.symm, rfl⟩, spans_iff.mpr rfl⟩

theorem Sentence.Denotes.unique {sentence : Sentence} {lexemes : List Lexeme}
    {first second : Statement} (distinct : (sentence.settings.map Setting.parameter).Nodup)
    (denotes : sentence.Denotes first) (denotes' : sentence.Denotes second)
    (spans : first.Spans lexemes) (spans' : second.Spans lexemes) : first = second := by
  obtain ⟨name, call⟩ := (denotes_iff distinct).mp denotes
  obtain ⟨name', call'⟩ := (denotes_iff distinct).mp denotes'
  have start := Option.some.inj (spans.start.symm.trans spans'.start)
  have stop := Option.some.inj (spans.stop.symm.trans spans'.stop)
  obtain ⟨_, _, ⟨_, _⟩⟩ := first
  obtain ⟨_, _, ⟨_, _⟩⟩ := second
  simp_all

theorem statementOf?_some_iff {lexemes : List Lexeme} {statement : Statement} :
    statementOf? lexemes = .ok (some statement) ↔
      ∃ sentence : Sentence, sentence.Derives (lexemes.map (·.token)) ∧
        sentence.Denotes statement ∧ statement.Spans lexemes := by
  refine ⟨statementOf?_derives, ?_⟩
  rintro ⟨sentence, derives, denotes, spans⟩
  obtain ⟨other, done, denotes', spans'⟩ := statementOf?_of_derives derives
  rw [done, denotes.unique derives.distinct denotes' spans spans']

theorem statementOf?_none_iff {lexemes : List Lexeme} :
    statementOf? lexemes = .ok none ↔ lexemes = [] := by
  constructor
  next =>
    intro done
    unfold statementOf? at done
    split at done
    next => rfl
    next first rest =>
      split at done
      next =>
        obtain ⟨name, -, done⟩ := bind_eq_ok_iff.mp done
        obtain ⟨call, -, done⟩ := bind_eq_ok_iff.mp done
        cases done
      next =>
        obtain ⟨call, -, done⟩ := bind_eq_ok_iff.mp done
        cases done
  next =>
    rintro rfl
    rfl

theorem statementOf?_error_iff {lexemes : List Lexeme} :
    (∃ fault, statementOf? lexemes = .error fault) ↔
      lexemes ≠ [] ∧ ¬ ∃ sentence : Sentence, sentence.Derives (lexemes.map (·.token)) := by
  rw [Ne, ← statementOf?_none_iff]
  constructor
  next =>
    rintro ⟨fault, failed⟩
    refine ⟨by simp [failed], ?_⟩
    rintro ⟨sentence, derives⟩
    obtain ⟨statement, done, -⟩ := statementOf?_of_derives derives
    simp [failed] at done
  next =>
    rintro ⟨something, formless⟩
    cases result : statementOf? lexemes with
    | error fault => exact ⟨fault, rfl⟩
    | ok statement? =>
      cases statement? with
      | none => exact absurd result something
      | some statement =>
        obtain ⟨sentence, derives, -⟩ := statementOf?_derives result
        exact absurd ⟨sentence, derives⟩ formless

/-- The parser accepts the token lists that have the form of a sentence, which is then the only
one, and gives the statement that it denotes. It finds nothing where there is no token, and faults
all the rest. -/
theorem statementOf?_grammar :
    (∀ lexemes : List Lexeme,
      (∀ statement, statementOf? lexemes = .ok (some statement) ↔
        ∃ sentence : Sentence, sentence.Derives (lexemes.map (·.token)) ∧
          sentence.Denotes statement ∧ statement.Spans lexemes) ∧
      ((∃ statement, statementOf? lexemes = .ok (some statement)) ↔
        ∃ sentence : Sentence, sentence.Derives (lexemes.map (·.token))) ∧
      (statementOf? lexemes = .ok none ↔ lexemes = []) ∧
      ((∃ fault, statementOf? lexemes = .error fault) ↔
        lexemes ≠ [] ∧ ¬ ∃ sentence : Sentence, sentence.Derives (lexemes.map (·.token)))) ∧
    ∀ (tokens : List Token) (first second : Sentence),
      first.Derives tokens → second.Derives tokens → first = second := by
  constructor
  next =>
    intro lexemes
    refine ⟨fun _ => statementOf?_some_iff, ⟨?_, ?_⟩, statementOf?_none_iff, statementOf?_error_iff⟩
    · rintro ⟨statement, done⟩
      obtain ⟨sentence, derives, -⟩ := statementOf?_derives done
      exact ⟨sentence, derives⟩
    · rintro ⟨sentence, derives⟩
      obtain ⟨statement, done, -⟩ := statementOf?_of_derives derives
      exact ⟨statement, done⟩
  next =>
    intro tokens first second derives derives'
    exact tokens_injective (derives.form.symm.trans derives'.form)

end Script

end Runbook
