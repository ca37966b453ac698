import Automation.Text.Blank
import Automation.Yaml.Cursor
import Automation.Yaml.Token

/-!
# Scalars of a YAML text

The five ways to write a scalar, and what their line breaks and indentation stand for. Each function
starts at the first character of the scalar and gives its text and the place behind it.
-/

namespace Automation.Yaml

namespace Cursor

/-! ## Quoted scalars -/

/-- The line breaks and blanks in front of the next line with text inside quotes. A mark between
documents may not stand there. -/
def quotedBreaks : Nat → Cursor → Outcome (List Char × Cursor)
  | 0, c => .ok ([], c)
  | fuel + 1, c =>
    if c.seesDocumentMark then invalid
    else
      let c := c.skipWhile fun ch => ch == ' ' || ch == '\t'
      if (c.peek).any isBreak then do
        let (br, c) := c.lineBreak
        let (more, c) ← quotedBreaks fuel c
        return (br ++ more, c)
      else .ok ([], c)

/-- Blanks inside quotes: they stay on one line, and a single line break becomes a space. -/
def quotedBlanks (c : Cursor) : Outcome (List Char × Cursor) :=
  let (blanks, c) := c.span fun ch => ch == ' ' || ch == '\t'
  match c.peek with
  | none => invalid
  | some ch =>
    if isBreak ch then do
      let (br, c) := c.lineBreak
      let (more, c) ← quotedBreaks c.rest.length c
      let first := if br != ['\n'] then br else if more.isEmpty then [' '] else []
      return (first ++ more, c)
    else .ok (blanks, c)

/-- The character of an escape with a letter. -/
def escapeLetter? (c : Char) : Option Char :=
  match c with
  | '0' => some '\x00'
  | 'a' => some '\x07'
  | 'b' => some '\x08'
  | 't' => some '\t'
  | '\t' => some '\t'
  | 'n' => some '\n'
  | 'v' => some '\x0b'
  | 'f' => some '\x0c'
  | 'r' => some '\r'
  | 'e' => some '\x1b'
  | ' ' => some ' '
  | '"' => some '"'
  | '\\' => some '\\'
  | '/' => some '/'
  | 'N' => some (Char.ofNat 0x85)
  | '_' => some (Char.ofNat 0xA0)
  | 'L' => some (Char.ofNat 0x2028)
  | 'P' => some (Char.ofNat 0x2029)
  | _ => none

/-- The number of hexadecimal digits behind the letter of an escape. -/
def escapeWidth? (c : Char) : Option Nat :=
  match c with
  | 'x' => some 2
  | 'u' => some 4
  | 'U' => some 8
  | _ => none

/-- The characters of a code that is given by its number. A number beyond the last code is a fault,
another one when it has more than 31 bits. -/
def escapedCode (n : Nat) : Outcome (List Char) :=
  if n < Text.codeBound then .ok (Text.ofCode n)
  else if n < 0x80000000 then Outcome.fault .value
  else Outcome.fault .overflow

/-- The text of an escape in double quotes behind its backslash. -/
def escaped (c : Cursor) : Outcome (List Char × Cursor) :=
  match c.peek with
  | none => invalid
  | some ch =>
    match escapeLetter? ch, escapeWidth? ch with
    | some e, _ => .ok ([e], c.advance)
    | none, some width => do
      let c := c.advance
      let digits := c.rest.take width
      let values := digits.filterMap Text.hexValue?
      if values.length = width then
        let e ← escapedCode (values.foldl (fun n d => n * 16 + d) 0)
        return (e, c.skip width)
      else invalid
    | none, none =>
      if isBreak ch then
        let (_, c) := c.lineBreak
        quotedBreaks c.rest.length c
      else invalid

/-- The text inside quotes from a place that is not blank up to the next blank or the quote. -/
def quotedWord (double : Bool) : Nat → Cursor → Outcome (List Char × Cursor)
  | 0, c => .ok ([], c)
  | fuel + 1, c =>
    let (word, c) := c.span fun ch =>
      !(ch == '\'' || ch == '"' || ch == '\\' || ch == ' ' || ch == '\t' || isBreak ch)
    let plain := Text.ofChars word
    match c.rest with
    | '\'' :: '\'' :: _ =>
      if double then do
        let (more, c) ← quotedWord double fuel c.advance
        return (plain ++ '\'' :: more, c)
      else do
        let (more, c) ← quotedWord double fuel (c.skip 2)
        return (plain ++ '\'' :: more, c)
    | ch :: _ =>
      if (double && ch == '\'') || (!double && (ch == '"' || ch == '\\')) then do
        let (more, c) ← quotedWord double fuel c.advance
        return (plain ++ ch :: more, c)
      else if double && ch == '\\' then do
        let (text, c) ← c.advance.escaped
        let (more, c) ← quotedWord double fuel c
        return (plain ++ text ++ more, c)
      else .ok (plain, c)
    | [] => .ok (plain, c)

/-- The text inside quotes up to the closing quote. -/
def quotedText (double : Bool) : Nat → Cursor → Outcome (List Char × Cursor)
  | 0, _ => invalid
  | fuel + 1, c => do
    let (word, c) ← c.quotedWord double (c.rest.length + 1)
    if c.sees (if double then '"' else '\'') then return (word, c.advance)
    else
      let (blanks, c) ← c.quotedBlanks
      let (more, c) ← quotedText double fuel c
      return (word ++ blanks ++ more, c)

/-- A quoted scalar. -/
def quotedScalar (double : Bool) (c : Cursor) : Outcome (Token × Cursor) := do
  let (text, c) ← quotedText double (c.rest.length + 1) c.advance
  return (.scalar (String.ofList text) (if double then .doubleQuoted else .singleQuoted), c)

/-! ## Plain scalars -/

/-- The number of characters of a plain scalar up to a blank, a colon that ends a key, or, in a flow
collection, a mark of it. -/
def plainLength (inFlow : Bool) : List Char → Nat
  | [] => 0
  | c :: rest =>
    let closes (ch : Char) : Bool :=
      ch == ',' || ch == '[' || ch == ']' || ch == '\x7b' || ch == '\x7d'
    let colonEnds : Bool :=
      c == ':' && (endsToken rest.head? || (inFlow && rest.head?.any closes))
    if endsToken (some c) || colonEnds || (inFlow && (closes c || c == '?')) then 0
    else plainLength inFlow rest + 1

/-- What stands between two parts of a plain scalar. -/
inductive PlainGap where
  /-- nothing, so the scalar ends -/
  | none
  /-- blanks or line breaks, and the text that they stand for -/
  | blanks (text : List Char)
  /-- a mark between documents, so the scalar ends -/
  | documentMark

/-- The spaces and line breaks in front of the next line with text in a plain scalar; none at a mark
between documents. -/
def plainBreaks : Nat → Cursor → Option (List Char) × Cursor
  | 0, c => (some [], c)
  | fuel + 1, c =>
    let c := c.skipSpaces
    if (c.peek).any isBreak then
      let (br, c) := c.lineBreak
      if c.seesDocumentMark then (none, c)
      else
        let (more, c) := plainBreaks fuel c
        (more.map (br ++ ·), c)
    else (some [], c)

/-- The gap behind a part of a plain scalar, whether it has a line break, and the place behind. -/
def plainGap (c : Cursor) : PlainGap × Bool × Cursor :=
  let (spaces, c) := c.span (· == ' ')
  if (c.peek).any isBreak then
    let (br, c) := c.lineBreak
    if c.seesDocumentMark then (.documentMark, true, c)
    else
      match plainBreaks (c.rest.length + 1) c with
      | (none, c) => (.documentMark, true, c)
      | (some more, c) =>
        let first := if br != ['\n'] then br else if more.isEmpty then [' '] else []
        (.blanks (first ++ more), true, c)
  else if spaces.isEmpty then (.none, false, c)
  else (.blanks spaces, false, c)

/-- The parts of a plain scalar from here on. `gap` is the text between the part before and this
one; `lineStart` tells whether the place is behind a line break, so that a key may start there. -/
def plainParts (inFlow : Bool) (indent : Nat) :
    Nat → List Char → Bool → Cursor → List Char × Bool × Cursor
  | 0, _, lineStart, c => ([], lineStart, c)
  | fuel + 1, gap, lineStart, c =>
    let length := if c.sees '#' then 0 else plainLength inFlow c.rest
    if length = 0 then ([], lineStart, c)
    else
      let part := gap ++ c.rest.take length
      match (c.skip length).plainGap with
      | (.blanks text, hasBreak, c) =>
        if c.sees '#' || (!inFlow && c.column < indent) then (part, hasBreak, c)
        else
          let (more, lineStart, c) := plainParts inFlow indent fuel text hasBreak c
          (part ++ more, lineStart, c)
      | (_, hasBreak, c) => (part, hasBreak, c)

/-- A plain scalar, and whether a key may start behind it because it ended with a line. -/
def plainScalar (inFlow : Bool) (indent : Nat) (c : Cursor) : Token × Bool × Cursor :=
  let (text, lineStart, c) := plainParts inFlow indent (c.rest.length + 1) [] false c
  (.scalar (String.ofList (Text.ofChars text)) .plain, lineStart, c)

/-! ## Block scalars -/

/-- Whether the line breaks at the end of a block scalar are kept: all, none, or one. -/
inductive Chomping where
  | keep | strip | clip
  deriving DecidableEq

/-- The marks behind the start of a block scalar: chomping and indentation in any order. -/
def blockHeader (c : Cursor) : Outcome ((Chomping × Option Nat) × Cursor) :=
  let chomping (c : Cursor) : Chomping × Cursor :=
    if c.sees '+' then (.keep, c.advance)
    else if c.sees '-' then (.strip, c.advance)
    else (.clip, c)
  let increment (c : Cursor) : Outcome (Option Nat × Cursor) :=
    match c.peek with
    | some d =>
      if d == '0' then invalid
      else if d.isDigit then .ok (some (d.toNat - 48), c.advance)
      else .ok (none, c)
    | none => .ok (none, c)
  do
    let (first, afterFirst) := chomping c
    let ((chomp, inc), c) ←
      if first != .clip then do
        let (inc, c) ← increment afterFirst
        pure ((first, inc), c)
      else do
        let (inc, c) ← increment c
        let (chomp, c) := if inc.isSome then chomping c else (.clip, c)
        pure ((chomp, inc), c)
    if endsWord c.peek then return ((chomp, inc), c) else invalid

/-- The place behind the rest of a line that holds nothing but a comment. -/
def ignoredLine (c : Cursor) : Outcome Cursor :=
  let c := c.skipSpaces.skipComment
  if endsLine c.peek then .ok c.lineBreak.2 else invalid

/-- The place behind spaces, but not behind the given column. -/
def skipIndent (indent : Nat) (c : Cursor) : Cursor :=
  c.skip (min (indent - c.column) (c.rest.takeWhile (· == ' ')).length)

/-- The empty lines in front of the first line of a block scalar whose indentation is not given, and
the widest indentation seen. -/
def blockIndentation : Nat → Nat → Cursor → List Char × Nat × Cursor
  | 0, widest, c => ([], widest, c)
  | fuel + 1, widest, c =>
    let c := c.skipSpaces
    let widest := max widest c.column
    if (c.peek).any isBreak then
      let (br, c) := c.lineBreak
      let (more, widest, c) := blockIndentation fuel widest c
      (br ++ more, widest, c)
    else ([], widest, c)

/-- The empty lines in front of a line of a block scalar. -/
def blockBreaks (indent : Nat) : Nat → Cursor → List Char × Cursor
  | 0, c => ([], c)
  | fuel + 1, c =>
    let c := c.skipIndent indent
    if (c.peek).any isBreak then
      let (br, c) := c.lineBreak
      let (more, c) := blockBreaks indent fuel c
      (br ++ more, c)
    else ([], c)

/-- What a line of a block scalar is followed by: the text that its break stands for if the scalar
goes on, its own break, the empty lines behind it, and the place. -/
structure BlockTail where
  text : List Char
  lastBreak : List Char
  emptyLines : List Char
  cursor : Cursor

/-- The lines of a block scalar from a place at its indentation. A folded scalar has a space for the
single break between two lines that do not start with a blank. -/
def blockLines (folded : Bool) (indent : Nat) : Nat → List Char → Cursor → BlockTail
  | 0, breaks, c => ⟨[], [], breaks, c⟩
  | fuel + 1, breaks, c =>
    if c.column != indent || c.peek.isNone then ⟨[], [], breaks, c⟩
    else
      let startsBlank (c : Cursor) : Bool := c.sees ' ' || c.sees '\t'
      let blank := startsBlank c
      let (line, c) := c.span fun ch => !isBreak ch
      let (lineBreak, c) := c.lineBreak
      let (next, c) := blockBreaks indent (c.rest.length + 1) c
      if c.column == indent && c.peek.isSome then
        let joint : List Char :=
          if folded && lineBreak == ['\n'] && !blank && !startsBlank c then
            if next.isEmpty then [' '] else []
          else lineBreak
        let tail := blockLines folded indent fuel next c
        { tail with text := breaks ++ line ++ joint ++ tail.text }
      else ⟨breaks ++ line, lineBreak, next, c⟩

/-- A block scalar in a collection with the given indentation. -/
def blockScalar (folded : Bool) (parentIndent : Int) (c : Cursor) : Outcome (Token × Cursor) := do
  let ((chomp, increment), c) ← c.advance.blockHeader
  let c ← c.ignoredLine
  let least := max 1 (parentIndent + 1).toNat
  let fuel := c.rest.length + 1
  let (breaks, indent, c) :=
    match increment with
    | some n =>
      let indent := least + n - 1
      let (breaks, c) := blockBreaks indent fuel c
      (breaks, indent, c)
    | none =>
      let (breaks, widest, c) := blockIndentation fuel 0 c
      (breaks, max least widest, c)
  let tail := blockLines folded indent fuel breaks c
  let text := tail.text
    ++ (if chomp = .strip then [] else tail.lastBreak)
    ++ (if chomp = .keep then tail.emptyLines else [])
  return (.scalar (String.ofList (Text.ofChars text)) (if folded then .folded else .literal),
    tail.cursor)

end Cursor

end Automation.Yaml
