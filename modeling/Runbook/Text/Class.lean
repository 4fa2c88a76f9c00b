/-!
Character classes, byte lengths, trimming and the cutting of text into lines. A line keeps its
newline, so the lines of a text always join to the text again.
-/

set_option autoImplicit false

namespace Runbook.Text

def within (ranges : List (Nat × Nat)) (c : Char) : Bool :=
  ranges.any fun range => range.1 ≤ c.toNat && c.toNat ≤ range.2

def spaceRanges : List (Nat × Nat) :=
  [(0x9, 0xD), (0x20, 0x20), (0x85, 0x85), (0xA0, 0xA0), (0x1680, 0x1680), (0x2000, 0x200A),
    (0x2028, 0x2029), (0x202F, 0x202F), (0x205F, 0x205F), (0x3000, 0x3000)]

def isSpace (c : Char) : Bool := within spaceRanges c

def isControl (c : Char) : Bool := within [(0x0, 0x1F), (0x7F, 0x9F)] c

/-- Blanks between the tokens of a line; the vertical tab is not among them. -/
def isBlank (c : Char) : Bool :=
  c == ' ' || c == '\t' || c == '\n' || c == '\x0c' || c == '\r'

def isDigit (c : Char) : Bool := '0' ≤ c && c ≤ '9'

def isLetter (c : Char) : Bool := ('a' ≤ c && c ≤ 'z') || ('A' ≤ c && c ≤ 'Z')

def isNameStart (c : Char) : Bool := isLetter c || c == '_'

def isNamePart (c : Char) : Bool := isNameStart c || isDigit c

def isName : List Char → Bool
  | [] => false
  | c :: rest => isNameStart c && rest.all isNamePart

def utf8Length : List Char → Nat
  | [] => 0
  | c :: rest => c.utf8Size + utf8Length rest

@[simp] theorem utf8Length_append (first second : List Char) :
    utf8Length (first ++ second) = utf8Length first + utf8Length second := by
  induction first with
  | nil => exact (Nat.zero_add _).symm
  | cons c rest ih => simp only [List.cons_append, utf8Length, ih, Nat.add_assoc]

def dropEnd (drop : Char → Bool) (chars : List Char) : List Char :=
  (chars.reverse.dropWhile drop).reverse

def trimChars (chars : List Char) : List Char := dropEnd isSpace (chars.dropWhile isSpace)

def trim (text : String) : String := String.ofList (trimChars text.toList)

section Cutting

variable {α : Type}

/-- Cuts after every element that ends a piece; no piece is empty. -/
def cutAfter (ends : α → Bool) : List α → List (List α)
  | [] => []
  | head :: rest =>
    if ends head then [head] :: cutAfter ends rest
    else
      match cutAfter ends rest with
      | [] => [[head]]
      | piece :: others => (head :: piece) :: others

theorem flatten_cutAfter (ends : α → Bool) (list : List α) : (cutAfter ends list).flatten = list := by
  induction list with
  | nil => rfl
  | cons head rest ih =>
    simp only [cutAfter]
    split
    · simp [ih]
    · split <;> rename_i pieces <;> simp [pieces] at ih <;> simp [← ih]

end Cutting

def lines (chars : List Char) : List (List Char) := cutAfter (· == '\n') chars

/-- Drops the line end, `\n` or `\r\n`; a lone `\r` at the end of the text stays. -/
def withoutLineEnd (line : List Char) : List Char :=
  match line.reverse with
  | '\n' :: '\r' :: rest => rest.reverse
  | '\n' :: rest => rest.reverse
  | _ => line

def startsWith (start text : List Char) : Bool := start.isPrefixOf text

def contains (part : List Char) : List Char → Bool
  | [] => part.isEmpty
  | c :: rest => startsWith part (c :: rest) || contains part rest

def join (separator : String) : List String → String := String.intercalate separator

end Runbook.Text
