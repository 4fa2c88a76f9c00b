import Runbook.Proofs.Json.Numeral
import Runbook.Proofs.Json.Quoted

set_option autoImplicit false

namespace Runbook.Json

variable {numeral? : List Char → Option Number}

def Stops (after : List Char) : Prop := ∀ c ∈ after.head?, isNumeralPart c = false

theorem stops_cons {c : Char} (other : isNumeralPart c = false) (rest : List Char) :
    Stops (c :: rest) := by
  rintro _ ⟨⟩
  exact other

theorem isNumeralPart_of_isBlank {c : Char} (blank : isBlank c = true) :
    isNumeralPart c = false := by
  simp only [isBlank, Bool.or_eq_true, beq_iff_eq] at blank
  rcases blank with ((rfl | rfl) | rfl) | rfl <;> decide

theorem stops_of_blanks {blanks : List Char} (blank : ∀ c ∈ blanks, isBlank c = true)
    {after : List Char} (stops : Stops after) : Stops (blanks ++ after) := by
  cases blanks with
  | nil => exact stops
  | cons c rest => exact stops_cons (isNumeralPart_of_isBlank (blank c List.mem_cons_self)) _

theorem tokens_blanks {blanks : List Char} (blank : ∀ c ∈ blanks, isBlank c = true)
    (after : List Char) : tokens numeral? (blanks ++ after) = tokens numeral? after := by
  induction blanks with
  | nil => rfl
  | cons c rest ih =>
    obtain ⟨here, later⟩ := List.forall_mem_cons.mp blank
    rw [List.cons_append, tokens, if_pos here, ih later]

theorem tokens_cons {c : Char} {rest after : List Char} {token : Token} (ink : isBlank c = false)
    (found : token? numeral? c rest = some (token, after)) :
    tokens numeral? (c :: rest) = token :: tokens numeral? after := by
  rw [tokens, if_neg (by simp [ink])]
  split
  next missing =>
    rw [found] at missing
    cases missing
  next token' after' found' =>
    rw [found] at found'
    cases found'
    rfl

def Reads (numeral? : List Char → Option Number) (chars : List Char) (token : Token) : Prop :=
  ∀ after, Stops after → tokens numeral? (chars ++ after) = token :: tokens numeral? after

theorem quote_reads (content : String) :
    Reads numeral? (quote content) (.value (.text content)) := by
  intro after _
  rw [quote, List.cons_append, List.append_assoc]
  exact tokens_cons (by decide) (token?_quote numeral? content after)

theorem words_eq : words = [(['n', 'u', 'l', 'l'], .null), (['t', 'r', 'u', 'e'], .bool true),
    (['f', 'a', 'l', 's', 'e'], .bool false)] := by
  simp [words]

theorem word_reads {word : List Char} {json : Json} (member : (word, json) ∈ words) :
    Reads numeral? word (.value json) := by
  intro after _
  simp only [words_eq, List.mem_cons, Prod.mk.injEq, List.not_mem_nil, or_false] at member
  rcases member with ⟨rfl, rfl⟩ | ⟨rfl, rfl⟩ | ⟨rfl, rfl⟩
  all_goals
    refine tokens_cons (by decide) ?_
    simp [token?, word?, words_eq, Text.startsWith, Text.isDigit]

theorem token?_numeral (numeral? : List Char → Option Number) {first : Char}
    {rest after : List Char} (opens : first = '-' ∨ Text.isDigit first = true)
    (parts : ∀ c ∈ first :: rest, isNumeralPart c = true) (stops : Stops after) :
    token? numeral? first (rest ++ after) =
      (numeral? (first :: rest)).map fun number => (.value (.number number), after) := by
  have step : token? numeral? first (rest ++ after) =
      (numeral? (first :: (rest ++ after).takeWhile isNumeralPart)).map fun number =>
        (.value (.number number), (rest ++ after).dropWhile isNumeralPart) := by
    unfold token?
    split
    case h_8 => exact if_pos (by simpa using opens)
    all_goals exact absurd opens (by decide)
  have parts' : ∀ c ∈ rest, isNumeralPart c = true :=
    fun c member => parts c (List.mem_cons_of_mem _ member)
  have ended : after.takeWhile isNumeralPart = [] ∧ after.dropWhile isNumeralPart = after := by
    cases after with
    | nil => exact ⟨rfl, rfl⟩
    | cons c others => simp [stops c rfl]
  rw [step, List.takeWhile_append_of_pos parts', List.dropWhile_append_of_pos parts', ended.1,
    ended.2, List.append_nil]

theorem numeral_reads {numeral : Numeral} {chars : List Char} {n : Number}
    (written : numeral.Written chars) (canonical : numeral.Canonical)
    (read : numeral? chars = some n) : Reads numeral? chars (.value (.number n)) := by
  intro after stops
  have parts := written.isNumeralPart
  obtain ⟨first, rest, rfl, opens⟩ := written.opens canonical
  have ink : isBlank first = false :=
    Bool.eq_false_iff.mpr fun blank => by
      have other := isNumeralPart_of_isBlank blank
      rw [parts first List.mem_cons_self] at other
      cases other
  have found := token?_numeral numeral? opens parts stops
  rw [read] at found
  exact tokens_cons ink found

structure Single (numeral? : List Char → Option Number) (json : Json) : Prop where
  reads : Reads numeral? json.compact (.value json)
  flat : ∀ level, json.prettyAt level = json.compact

def setMembers (lead gap : List Char) : List (String × Json) → List Char
  | [] => []
  | [(name, value)] => lead ++ (quote name ++ ':' :: (gap ++ value.compact))
  | (name, value) :: rest =>
    lead ++ (quote name ++ ':' :: (gap ++ (value.compact ++ ',' :: setMembers lead gap rest)))

theorem compactMembers_eq (members : List (String × Json)) :
    compactMembers members = setMembers [] [] members := by
  induction members with
  | nil => simp [compactMembers, setMembers]
  | cons member rest ih => cases rest <;> simp [compactMembers, setMembers, ih]

theorem prettyMembers_eq {members : List (String × Json)}
    (single : ∀ member ∈ members, Single numeral? member.2) (level : Nat) :
    prettyMembers level members = setMembers (lineStart level) [' '] members := by
  induction members with
  | nil => simp [prettyMembers, setMembers]
  | cons member rest ih =>
    obtain ⟨here, later⟩ := List.forall_mem_cons.mp single
    cases rest <;> simp [prettyMembers, setMembers, here.flat, ih later]

def memberTokens : List (String × Json) → List Token
  | [] => []
  | [(name, value)] => [.value (.text name), .colon, .value value]
  | (name, value) :: rest =>
    .value (.text name) :: .colon :: .value value :: .comma :: memberTokens rest

theorem tokens_mark {c : Char} {token : Token} (ink : isBlank c = false)
    (mark : ∀ rest, token? numeral? c rest = some (token, rest)) (after : List Char) :
    tokens numeral? (c :: after) = token :: tokens numeral? after :=
  tokens_cons ink (mark after)

theorem tokens_setMembers {lead gap : List Char} (blank : ∀ c ∈ lead, isBlank c = true)
    (blank' : ∀ c ∈ gap, isBlank c = true) {members : List (String × Json)}
    (single : ∀ member ∈ members, Single numeral? member.2) {after : List Char}
    (stops : Stops after) :
    tokens numeral? (setMembers lead gap members ++ after) =
      memberTokens members ++ tokens numeral? after := by
  have colon (rest : List Char) : Stops (':' :: rest) := stops_cons (by decide) rest
  have comma (rest : List Char) : Stops (',' :: rest) := stops_cons (by decide) rest
  induction members with
  | nil => rfl
  | cons member rest ih =>
    obtain ⟨name, value⟩ := member
    obtain ⟨here, later⟩ := List.forall_mem_cons.mp single
    cases rest with
    | nil =>
      simp only [setMembers, memberTokens, List.append_assoc, List.cons_append]
      rw [tokens_blanks blank, quote_reads name _ (colon _), tokens_mark (by decide) fun _ => rfl,
        tokens_blanks blank', here.reads _ stops]
      rfl
    | cons second others =>
      simp only [setMembers, memberTokens, List.append_assoc, List.cons_append]
      rw [tokens_blanks blank, quote_reads name _ (colon _), tokens_mark (by decide) fun _ => rfl,
        tokens_blanks blank', here.reads _ (comma _), tokens_mark (by decide) fun _ => rfl,
        ih later]

theorem read_members (taken : List (String × Json)) (orEnd : Bool) {members : List (String × Json)}
    (nonempty : members ≠ []) (after : List Token) :
    read [] (.name taken orEnd) (memberTokens members ++ .closing true :: after) =
      some (.object (taken.reverse ++ members), after) := by
  induction members generalizing taken orEnd with
  | nil => exact absurd rfl nonempty
  | cons member rest ih =>
    obtain ⟨name, value⟩ := member
    cases rest with
    | nil => simp [memberTokens, read, next, settle]
    | cons second others =>
      have later := ih ((name, value) :: taken) false (List.cons_ne_nil _ _)
      simp [memberTokens, read, next, settle, later]

theorem read_object (members : List (String × Json)) (after : List Token) :
    read [] (.value false) (.opening true :: (memberTokens members ++ .closing true :: after)) =
      some (.object members, after) := by
  rw [read]
  cases members with
  | nil => rfl
  | cons member rest => exact read_members [] true (List.cons_ne_nil _ _) after

theorem ofText?_set {lead gap back after : List Char} (blank : ∀ c ∈ lead, isBlank c = true)
    (blank' : ∀ c ∈ gap, isBlank c = true) (back' : ∀ c ∈ back, isBlank c = true)
    (after' : ∀ c ∈ after, isBlank c = true) {members : List (String × Json)}
    (single : ∀ member ∈ members, Single numeral? member.2) :
    ofText? numeral? (String.ofList
      ('\x7b' :: (setMembers lead gap members ++ (back ++ '\x7d' :: after)))) =
        some (.object members) := by
  have stops : Stops (back ++ '\x7d' :: after) :=
    stops_of_blanks back' (stops_cons (by decide) after)
  have ended : tokens numeral? after = [] := by
    rw [← List.append_nil after, tokens_blanks after', tokens]
  rw [ofText?, String.toList_ofList, tokens_mark (by decide) fun _ => rfl,
    tokens_setMembers blank blank' single stops, tokens_blanks back',
    tokens_mark (by decide) fun _ => rfl, ended, read_object]

theorem isBlank_lineStart (level : Nat) : ∀ c ∈ lineStart level, isBlank c = true := by
  refine List.forall_mem_cons.mpr ⟨by decide, fun c member => ?_⟩
  rw [List.eq_of_mem_replicate member]
  decide

theorem ofText?_object {members : List (String × Json)}
    (single : ∀ member ∈ members, Single numeral? member.2) (after : List Char)
    (blank : ∀ c ∈ after, isBlank c = true) :
    ofText? numeral? (String.ofList ((object members).compact ++ after)) =
        some (.object members) ∧
      ofText? numeral? (String.ofList ((object members).pretty ++ after)) =
        some (.object members) := by
  have nothing : ∀ c ∈ ([] : List Char), isBlank c = true := by simp
  have space : ∀ c ∈ [' '], isBlank c = true := by simp [isBlank]
  constructor
  next =>
    have set := ofText?_set nothing nothing nothing blank single
    rw [← compactMembers_eq] at set
    simpa [compact] using set
  next =>
    cases members with
    | nil =>
      have set := ofText?_set nothing nothing nothing blank single
      simpa [pretty, prettyAt, setMembers] using set
    | cons member rest =>
      have set := ofText?_set (isBlank_lineStart 1) space (isBlank_lineStart 0) blank single
      rw [← prettyMembers_eq single] at set
      simpa [pretty, prettyAt] using set

end Runbook.Json
