import Automation.Failure

/-!
# A place in a YAML text

What remains of a text together with its line and column, and the classes of characters that the
structure of YAML depends on. Moving on never adds text (`length_skip_le`), which bounds every loop
over a cursor by the length of what remains.
-/

namespace Automation.Yaml

/-- A text that is not YAML. -/
def invalid {α : Type} : Outcome α := .malformed (.document .invalidText)

/-- A character that ends a line. -/
def isBreak (c : Char) : Bool :=
  c == '\n' || c == '\r' || c.toNat == 0x85 || c.toNat == 0x2028 || c.toNat == 0x2029

/-- A code that may stand in a YAML text. -/
def isAllowed (n : Nat) : Bool :=
  n == 0x09 || n == 0x0A || n == 0x0D || (0x20 ≤ n && n ≤ 0x7E) || n == 0x85
    || (0xA0 ≤ n && n ≤ 0xD7FF) || (0xE000 ≤ n && n ≤ 0xFFFD) || 0x10000 ≤ n

/-- A character of the names of anchors, tag handles and directives. -/
def isWordChar (c : Char) : Bool := c.isAlphanum || c == '-' || c == '_'

/-- The end of the text or of the line. -/
def endsLine : Option Char → Bool
  | none => true
  | some c => isBreak c

/-- The end of the text, of the line, or a space. -/
def endsWord : Option Char → Bool
  | none => true
  | some c => c == ' ' || isBreak c

/-- The end of the text, of the line, a space or a tab. -/
def endsToken : Option Char → Bool
  | none => true
  | some c => c == ' ' || c == '\t' || isBreak c

/-- A place in a text. -/
structure Cursor where
  rest : List Char
  index : Nat := 0
  line : Nat := 0
  column : Nat := 0

namespace Cursor

/-- The character after the given number of others. -/
def peek (c : Cursor) (n : Nat := 0) : Option Char := c.rest[n]?

/-- Whether the next character is the given one. -/
def sees (c : Cursor) (ch : Char) : Bool := c.peek == some ch

/-- The place behind the next character. A carriage return ends a line only when no line feed
follows it, and a byte order mark takes no column. -/
def advance (c : Cursor) : Cursor :=
  match c.rest with
  | [] => c
  | ch :: rest =>
    if isBreak ch && !(ch == '\r' && rest.head? == some '\n') then
      { rest, index := c.index + 1, line := c.line + 1, column := 0 }
    else
      { rest, index := c.index + 1, line := c.line
        column := if ch.toNat == 0xFEFF then c.column else c.column + 1 }

/-- The place behind a number of characters. -/
def skip : Nat → Cursor → Cursor
  | 0, c => c
  | n + 1, c => skip n c.advance

/-- The characters from here on that satisfy a predicate, and the place behind them. -/
def span (p : Char → Bool) (c : Cursor) : List Char × Cursor :=
  let taken := c.rest.takeWhile p
  (taken, c.skip taken.length)

/-- The place behind the characters that satisfy a predicate. -/
def skipWhile (p : Char → Bool) (c : Cursor) : Cursor := (c.span p).2

/-- The place behind the spaces. -/
def skipSpaces (c : Cursor) : Cursor := c.skipWhile (· == ' ')

/-- The place behind a comment, if one starts here. -/
def skipComment (c : Cursor) : Cursor :=
  if c.sees '#' then c.skipWhile fun ch => !isBreak ch else c

/-- The line break here, and the place behind it. All line breaks of one line are a line feed; the
separators of lines and paragraphs stay as they are. No break gives no characters. -/
def lineBreak (c : Cursor) : List Char × Cursor :=
  match c.rest with
  | '\r' :: '\n' :: _ => (['\n'], c.skip 2)
  | ch :: _ =>
    if !isBreak ch then ([], c)
    else if ch.toNat == 0x2028 || ch.toNat == 0x2029 then ([ch], c.advance)
    else (['\n'], c.advance)
  | [] => ([], c)

/-- Whether a line that starts here starts with one of the marks between documents. -/
def seesDocumentMark (c : Cursor) : Bool :=
  (c.rest.take 3 == ['-', '-', '-'] || c.rest.take 3 == ['.', '.', '.']) && endsToken (c.peek 3)

theorem length_advance_le (c : Cursor) : c.advance.rest.length ≤ c.rest.length := by
  unfold advance
  split
  · exact Nat.le_refl _
  · rename_i rest h
    rw [h]
    split <;> simp

theorem length_skip_le (n : Nat) (c : Cursor) : (c.skip n).rest.length ≤ c.rest.length := by
  induction n generalizing c with
  | zero => exact Nat.le_refl _
  | succ n ih => exact Nat.le_trans (ih c.advance) (length_advance_le c)

end Cursor

end Automation.Yaml
