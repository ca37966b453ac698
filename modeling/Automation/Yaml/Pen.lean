import Automation.Yaml.Cursor

/-!
# Writing YAML scalars

A `Pen` writes a text and knows its column. Scalars are folded at a width of eighty columns: a plain
or single-quoted one at a single space, a double-quoted one anywhere, with a backslash at the end of
the line. Which style a text may have is `TextShape`, read off the text alone.
-/

namespace Automation.Yaml

/-- A text that is being written. -/
structure Pen where
  out : String := ""
  column : Nat := 0
  /-- nothing or a blank has been written last -/
  blank : Bool := true
  /-- nothing but indentation and marks of collections is on the line -/
  fresh : Bool := true
  /-- the text ends with a plain scalar that is the whole document -/
  openEnded : Bool := false

namespace Pen

/-- The width at which scalars are folded. -/
def width : Nat := 80

/-- Writes characters without a line break among them. -/
def put (cs : List Char) (p : Pen) : Pen :=
  { p with out := p.out ++ String.ofList cs, column := p.column + cs.length }

/-- Ends the line with the given break. -/
def breakLine (br : Char) (p : Pen) : Pen :=
  { p with out := p.out.push br, column := 0, blank := true, fresh := true }

/-- Writes a mark, behind a space where one is needed. `blank` tells whether the mark counts as a
blank, `fresh` whether a collection may go on behind it on the same line. -/
def mark (text : String) (spaced : Bool) (blank fresh : Bool) (p : Pen) : Pen :=
  let cs := if p.blank || !spaced then text.toList else ' ' :: text.toList
  { p.put cs with blank, fresh := p.fresh && fresh, openEnded := false }

/-- Goes to the given column, on a new line unless only indentation precedes it. -/
def indentTo (indent : Nat) (p : Pen) : Pen :=
  let p :=
    if !p.fresh || p.column > indent || (p.column == indent && !p.blank) then p.breakLine '\n'
    else p
  if p.column < indent then
    { p.put (List.replicate (indent - p.column) ' ') with blank := true }
  else p

/-- Neither a blank nor a collection mark has been written last. -/
def settle (p : Pen) : Pen := { p with blank := false, fresh := false }

end Pen

/-! ## What a text looks like -/

/-- A character at which a written line breaks. -/
def isLineBreak (c : Char) : Bool :=
  c == '\n' || c.toNat == 0x85 || c.toNat == 0x2028 || c.toNat == 0x2029

/-- A character that can be written as it is outside double quotes. -/
def isWritable (c : Char) : Bool :=
  let n := c.toNat
  c == '\n' || (0x20 ≤ n && n ≤ 0x7E) || n == 0x85
    || (((0xA0 ≤ n && n ≤ 0xD7FF) || (0xE000 ≤ n && n ≤ 0xFFFD) || (0x10000 ≤ n && n < 0x10FFFF))
      && n != 0xFEFF)

/-- The properties of a text that decide how it can be written. -/
structure TextShape where
  isEmpty : Bool
  /-- has a line break -/
  multiline : Bool
  /-- has a mark that means something else when it is not in quotes -/
  indicators : Bool
  /-- has a character that only an escape can give -/
  special : Bool
  /-- starts or ends with a space or a line break -/
  looseEnds : Bool
  /-- has a space in front of a line break -/
  spaceBeforeBreak : Bool
  /-- has a space behind a line break -/
  spaceAfterBreak : Bool
  deriving Repr

/-- Whether two neighbours of a text satisfy two predicates. -/
def hasNeighbours (p q : Char → Bool) : List Char → Bool
  | a :: b :: rest => (p a && q b) || hasNeighbours p q (b :: rest)
  | _ => false

/-- Whether a text has a colon in front of a blank, or a number sign behind one. -/
def hasInnerIndicator : List Char → Bool
  | [] => false
  | a :: rest =>
    (match rest with
      | [] => false
      | b :: more =>
        (b == ':' && endsToken more.head?) || (b == '#' && endsToken (some a)))
      || hasInnerIndicator rest

/-- Whether a text starts with a mark. -/
def hasLeadingIndicator (cs : List Char) : Bool :=
  match cs with
  | [] => false
  | c :: rest =>
    "#,[]\x7b\x7d&*!|>'\"%@\x60".toList.contains c
      || ((c == '?' || c == ':' || c == '-') && endsToken rest.head?)
      || cs.take 3 == ['-', '-', '-'] || cs.take 3 == ['.', '.', '.']

/-- The shape of a text. -/
def TextShape.of (cs : List Char) : TextShape :=
  let loose (c : Option Char) : Bool := c.any fun c => c == ' ' || isLineBreak c
  { isEmpty := cs.isEmpty
    multiline := cs.any isLineBreak
    indicators := hasLeadingIndicator cs || hasInnerIndicator cs
    special := cs.any fun c => !isWritable c
    looseEnds := loose cs.head? || loose cs.getLast?
    spaceBeforeBreak := hasNeighbours (· == ' ') isLineBreak cs
    spaceAfterBreak := hasNeighbours isLineBreak (· == ' ') cs }

namespace TextShape

/-- Whether a text can be written without quotes. -/
def allowsPlain (s : TextShape) : Bool :=
  !s.looseEnds && !s.spaceAfterBreak && !s.spaceBeforeBreak && !s.special && !s.multiline
    && !s.indicators

/-- Whether a text can be written in single quotes. -/
def allowsSingle (s : TextShape) : Bool :=
  !s.spaceAfterBreak && !s.spaceBeforeBreak && !s.special

/-- Whether a text can be written in lines of its own. -/
def allowsBlock (s : TextShape) (cs : List Char) : Bool :=
  !s.isEmpty && !s.spaceBeforeBreak && !s.special && cs.getLast? != some ' '

end TextShape

namespace Pen

/-! ## The styles -/

/-- A stretch of a text: spaces, line breaks, or anything else. -/
inductive Stretch where
  | spaces (count : Nat)
  | breaks (cs : List Char)
  | word (cs : List Char)

/-- A text as its stretches. -/
def stretches : List Char → List Stretch
  | [] => []
  | c :: rest =>
    if c == ' ' then
      match stretches rest with
      | .spaces n :: more => .spaces (n + 1) :: more
      | more => .spaces 1 :: more
    else if isLineBreak c then
      match stretches rest with
      | .breaks cs :: more => .breaks (c :: cs) :: more
      | more => .breaks [c] :: more
    else
      match stretches rest with
      | .word cs :: more => .word (c :: cs) :: more
      | more => .word [c] :: more

/-- Writes a text without quotes. A single space beyond the width becomes a line break. -/
def plainScalar (indent : Nat) (fold isRoot : Bool) (text : List Char) (p : Pen) : Pen :=
  let p := { p with openEnded := p.openEnded || isRoot }
  if text.isEmpty then p
  else
    let p := (if p.blank then p else p.put [' ']).settle
    (stretches text).foldl
      (fun p s =>
        match s with
        | .spaces n =>
          if n == 1 && p.column > width && fold then (p.indentTo indent).settle
          else p.put (List.replicate n ' ')
        | .breaks cs => p.put cs
        | .word cs => p.put cs)
      p

/-- Writes the stretches of a text in single quotes. A single space beyond the width becomes a line
break, unless it is the first or the last of the text; a line feed becomes two. -/
def singleQuotedStretches (indent : Nat) (fold : Bool) : Bool → List Stretch → Pen → Pen
  | _, [], p => p
  | first, s :: rest, p =>
    let p :=
      match s with
      | .spaces n =>
        if n == 1 && p.column > width && fold && !first && !rest.isEmpty then p.indentTo indent
        else p.put (List.replicate n ' ')
      | .breaks cs =>
        let p := if cs.head? == some '\n' then p.breakLine '\n' else p
        (cs.foldl (fun p c => p.breakLine c) p).indentTo indent
      | .word cs => p.put (cs.flatMap fun c => if c == '\'' then [c, c] else [c])
    singleQuotedStretches indent fold false rest p

/-- Writes a text in single quotes. -/
def singleQuoted (indent : Nat) (fold : Bool) (text : List Char) (p : Pen) : Pen :=
  let p := p.mark "'" true false false
  (singleQuotedStretches indent fold true (stretches text) p).mark "'" false false false

/-- The hexadecimal digits of a number in upper case. -/
def upperHex (width n : Nat) : List Char := (Text.hex width n).map Char.toUpper

/-- The letter of an escape. -/
def escapeLetter? (code : Nat) : Option Char :=
  match code with
  | 0x00 => some '0'
  | 0x07 => some 'a'
  | 0x08 => some 'b'
  | 0x09 => some 't'
  | 0x0A => some 'n'
  | 0x0B => some 'v'
  | 0x0C => some 'f'
  | 0x0D => some 'r'
  | 0x1B => some 'e'
  | 0x22 => some '"'
  | 0x5C => some '\\'
  | 0x85 => some 'N'
  | 0xA0 => some '_'
  | 0x2028 => some 'L'
  | 0x2029 => some 'P'
  | _ => none

/-- A code as an escape. -/
def escape (code : Nat) : List Char :=
  match escapeLetter? code with
  | some e => ['\\', e]
  | none =>
    if code ≤ 0xFF then '\\' :: 'x' :: upperHex 2 code
    else if code ≤ 0xFFFF then '\\' :: 'u' :: upperHex 4 code
    else '\\' :: 'U' :: upperHex 8 code

/-- A code that has to be an escape in double quotes, as all halves of surrogate pairs are. -/
def needsEscape (n : Nat) : Bool :=
  n == 0x22 || n == 0x5C || n == 0x85 || n == 0x2028 || n == 0x2029 || n == 0xFEFF
    || !((0x20 ≤ n && n ≤ 0x7E) || (0xA0 ≤ n && n ≤ 0xD7FF) || (0xE000 ≤ n && n ≤ 0xFFFD))

/-- Ends a line inside double quotes; a space at the start of the next one is written behind a
backslash. -/
def foldQuoted (indent : Nat) (next : Option Nat) (p : Pen) : Pen :=
  let p := ((p.put ['\\']).indentTo indent).settle
  if next == some 0x20 then p.put ['\\'] else p

/-- Writes the codes of a text in double quotes. `pending` are the characters read but not written,
in reverse, and `first` tells whether nothing has been read. The line is folded in front of a space
and behind an escape, but neither at the first nor at the last code. -/
def doubleQuotedCodes (indent : Nat) (fold : Bool) : List Char → Bool → List Nat → Pen → Pen
  | pending, _, [], p => p.put pending.reverse
  | pending, first, n :: rest, p =>
    let inside := fold && !first && !rest.isEmpty
    if needsEscape n then
      let p := (p.put pending.reverse).put (escape n)
      let p := if inside && p.column > width + 1 then p.foldQuoted indent rest.head? else p
      doubleQuotedCodes indent fold [] false rest p
    else if inside && (n == 0x20 || pending.isEmpty) && p.column + pending.length > width then
      doubleQuotedCodes indent fold [Char.ofNat n] false rest
        ((p.put pending.reverse).foldQuoted indent (some n))
    else doubleQuotedCodes indent fold (Char.ofNat n :: pending) false rest p

/-- Writes a text in double quotes. -/
def doubleQuoted (indent : Nat) (fold : Bool) (text : List Char) (p : Pen) : Pen :=
  let p := p.mark "\"" true false false
  (doubleQuotedCodes indent fold [] true (Text.codes text) p).mark "\"" false false false

/-- Writes a text whose lines all end with a line feed in lines of its own. -/
def literal (indent : Nat) (text : List Char) (p : Pen) : Pen :=
  let p := (p.mark "|" true false false).breakLine '\n'
  let lines := (text.splitOn '\n').dropLast
  lines.foldl (fun p line => ((p.indentTo indent).put line).breakLine '\n') p

end Pen

end Automation.Yaml
