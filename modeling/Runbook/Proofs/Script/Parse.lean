import Runbook.Script.Parse
import Runbook.Proofs.Script.Token

set_option autoImplicit false

namespace Runbook.Script

theorem readWord_ok_iff {role : Role} {stop : Nat} {lexemes rest : List Lexeme} {text : String} :
    readWord role stop lexemes = .ok (text, rest) ↔
      ∃ span, lexemes = ⟨.word text, span⟩ :: rest := by
  constructor
  next =>
    intro done
    unfold readWord at done
    split at done
    next span _ =>
      obtain ⟨rfl, rfl⟩ : _ = text ∧ _ = rest := by simpa using done
      exact ⟨span, rfl⟩
    next => cases done
    next => cases done
  next =>
    rintro ⟨span, rfl⟩
    rfl

theorem readName_ok_iff {lexeme : Lexeme} {name : String} :
    readName lexeme = .ok name ↔ lexeme.token = .word name ∧ Text.isName name.toList = true := by
  unfold readName
  constructor
  next =>
    intro done
    split at done
    next text isWord =>
      split at done
      next isName => exact Except.ok.inj done ▸ ⟨isWord, isName⟩
      next => cases done
    next => cases done
  next =>
    rintro ⟨isWord, isName⟩
    simp [isWord, isName]

theorem readArguments_joined (arguments : Dict String Argument) {name : Lexeme} {text : String}
    (isWord : name.token = .word text) (equals : Span) (value : Lexeme) (others : List Lexeme) :
    readArguments arguments (name :: ⟨.equals, equals⟩ :: value :: others) =
      addArgument arguments (Text.lowercase text) name value >>= (readArguments · others) := by
  simp only [readArguments, isWord]
  cases addArgument arguments (Text.lowercase text) name value <;> rfl

theorem readArguments_spaced (arguments : Dict String Argument) {name value : Lexeme} {text : String}
    (isWord : name.token = .word text) (unequal : value.token ≠ .equals) (others : List Lexeme) :
    readArguments arguments (name :: value :: others) =
      addArgument arguments (Text.lowercase text) name value >>= (readArguments · others) := by
  obtain ⟨token, span⟩ := value
  cases token with
  | equals => exact absurd rfl unequal
  | word _ | quoted _ | hole _ =>
    simp only [readArguments, isWord]
    cases addArgument arguments (Text.lowercase text) name _ <;> rfl

theorem newline_not_mem_withoutLineEnds {source line : List Char}
    (member : line ∈ Text.lines source) :
    '\n' ∉ withoutLineEnds line := by
  obtain ⟨body, inside, shape⟩ := Text.of_mem_cutAfter member
  have unbroken : '\n' ∉ body := fun newline => by simpa using inside '\n' newline
  have trimmed : withoutLineEnds line = withoutLineEnds body := by
    rcases shape with rfl | ⟨last, closing, rfl⟩
    · rfl
    · exact List.rdropWhile_concat_pos _ _ _ (by simp_all)
  rw [trimmed]
  exact fun newline => unbroken ((List.rdropWhile_prefix _ _).subset newline)

theorem readLines_append (position : Nat) (first second : List (List Char)) :
    readLines position (first ++ second) =
      readLines position first ++
        readLines (position + Text.utf8Length first.flatten) second := by
  induction first generalizing position with
  | nil => rfl
  | cons line rest ih =>
    rw [List.cons_append, readLines, readLines, ih, List.flatten_cons, Text.utf8Length_append,
      Nat.add_assoc, List.cons_append]

theorem length_readLines (position : Nat) (lines : List (List Char)) :
    (readLines position lines).length = lines.length := by
  induction lines generalizing position with
  | nil => rfl
  | cons line rest ih => simp [readLines, ih]

theorem getElem?_readLines {position index : Nat} {lines : List (List Char)} {line : List Char}
    (here : lines[index]? = some line) :
    (readLines position lines)[index]? =
      some (readLine (position + Text.utf8Length (lines.take index).flatten) line) := by
  induction lines generalizing position index with
  | nil => simp at here
  | cons first rest ih =>
    cases index with
    | zero =>
      obtain rfl : first = line := by simpa using here
      rfl
    | succ index =>
      rw [readLines, List.getElem?_cons_succ, ih here, List.take_succ_cons, List.flatten_cons,
        Text.utf8Length_append, Nat.add_assoc]

theorem exists_line_of_mem_readLines {position : Nat} {lines : List (List Char)}
    {reading : Except Fault (Option Statement)} (member : reading ∈ readLines position lines) :
    ∃ front line back, lines = front ++ line :: back ∧
      readLine (position + Text.utf8Length front.flatten) line = reading := by
  obtain ⟨index, here⟩ := List.mem_iff_getElem?.mp member
  have bound : index < lines.length := by
    rw [← length_readLines position]
    exact (List.getElem?_eq_some_iff.mp here).1
  rw [getElem?_readLines (List.getElem?_eq_getElem bound)] at here
  refine ⟨lines.take index, lines[index], lines.drop (index + 1), ?_, Option.some.inj here⟩
  rw [List.getElem_cons_drop, List.take_append_drop]

theorem acceptedOf?_eq_some_iff {reading : Except Fault (Option Statement)}
    {statement : Statement} :
    acceptedOf? reading = some statement ↔ reading = .ok (some statement) := by
  cases reading <;> simp [acceptedOf?]

theorem faultOf?_eq_some_iff {reading : Except Fault (Option Statement)} {fault : Fault} :
    faultOf? reading = some fault ↔ reading = .error fault := by
  cases reading <;> simp [faultOf?]

section Lines

variable {file : Nat} {source : List Char} {script : Script} {errors : List ParseError}

theorem statements_of_parseChars (done : parseChars file source = .ok script) :
    script.statements = (readLines 0 (Text.lines source)).filterMap acceptedOf? := by
  simp only [parseChars] at done
  split at done
  next =>
    cases done
    rfl
  next => cases done

theorem errors_of_parseChars (failed : parseChars file source = .error errors) :
    errors = ((readLines 0 (Text.lines source)).filterMap faultOf?).map (⟨·, file⟩) := by
  simp only [parseChars] at failed
  split at failed
  next => cases failed
  next =>
    cases failed
    rfl

theorem exists_line_of_statement (done : parseChars file source = .ok script)
    {statement : Statement} (member : statement ∈ script.statements) :
    ∃ front line back, Text.lines source = front ++ line :: back ∧
      readLine (Text.utf8Length front.flatten) line = .ok (some statement) := by
  rw [statements_of_parseChars done] at member
  obtain ⟨reading, among, accepted⟩ := List.mem_filterMap.mp member
  obtain ⟨front, line, back, cut, read⟩ := exists_line_of_mem_readLines among
  rw [Nat.zero_add] at read
  exact ⟨front, line, back, cut, read.trans (acceptedOf?_eq_some_iff.mp accepted)⟩

theorem exists_line_of_error (failed : parseChars file source = .error errors)
    {error : ParseError} (member : error ∈ errors) :
    error.file = file ∧ ∃ front line back, Text.lines source = front ++ line :: back ∧
      readLine (Text.utf8Length front.flatten) line = .error error.fault := by
  rw [errors_of_parseChars failed] at member
  obtain ⟨fault, listed, rfl⟩ := List.mem_map.mp member
  obtain ⟨reading, among, found⟩ := List.mem_filterMap.mp listed
  obtain ⟨front, line, back, cut, read⟩ := exists_line_of_mem_readLines among
  rw [Nat.zero_add] at read
  exact ⟨rfl, front, line, back, cut, read.trans (faultOf?_eq_some_iff.mp found)⟩

end Lines

end Runbook.Script
