import Automation.Number.Literal
import Automation.Text.CharName
import Automation.Text.Code
import Automation.Text.Front
import Automation.Text.Identifier
import Automation.Text.Line
import Automation.Text.Normal
import Automation.Value.Basic

/-!
# Tokens of template expressions

The tokens of the expression inside a template: names, numbers, texts and marks. A text that has no
tokens (`Template.tokens?` gives none) is no expression. Blanks, comments and line ends inside
brackets separate tokens and leave no trace. A formatted text keeps its characters, in which
`literalPart?` and `fieldText?` find the fields that are computed.
-/

namespace Automation.Template

open Text

/-- What a constant of an expression stands for: a document value, or one of the two constants that
no document holds. -/
inductive Datum where
  | value (v : Value)
  | imaginary (x : Binary64)
  | ellipsis
  deriving Repr

inductive Token where
  /-- a name or a keyword, of ASCII characters -/
  | name (s : String)
  /-- the normal form of a name with other characters; it is no keyword, however it is spelled -/
  | identifier (s : String)
  | constant (d : Datum)
  /-- a text with parts that are computed, as it is written, and whether backslashes are plain -/
  | formatted (isRaw : Bool) (raw : List Char)
  | mark (s : String)
  | lineEnd
  deriving Repr

/-! ## Numbers -/

/-- Digits with single low lines in front of some, and the rest. A low line that no digit follows is
an error. -/
def digitRun (isDigit : Char → Bool) : List Char → Option (List Char × List Char)
  | [] => some ([], [])
  | '_' :: d :: rest =>
    if isDigit d then (digitRun isDigit rest).map fun r => (d :: r.1, r.2) else none
  | ['_'] => none
  | c :: rest =>
    if isDigit c then (digitRun isDigit rest).map fun r => (c :: r.1, r.2)
    else some ([], c :: rest)

/-- The words that may follow a number at once. -/
def wordsBehindNumber : List String := ["and", "else", "for", "if", "in", "is", "or", "not"]

/-- Whether a number may end in front of a text. -/
def endsNumber (cs : List Char) : Bool :=
  match cs with
  | [] => true
  | c :: _ =>
    !(c.toNat < 0x80 && isNameChar c)
      || wordsBehindNumber.any fun w => (dropFront? w.toList cs).isSome

/-- An integer in a radix, behind the mark of the radix. -/
def radixNumber? (radix : Nat) (cs : List Char) : Option (Token × List Char) := do
  let (digits, rest) ← digitRun (fun c => (hexValue? c).any (· < radix)) cs
  let n ← Literal.groupedDigits? radix digits
  if endsNumber rest then some (.constant (.value (.int n)), rest) else none

/-- The exponent of a number. Without digits behind it a mark of an exponent is none, unless a sign
follows it. -/
def exponent? (cs : List Char) : Option (List Char × List Char) :=
  match cs with
  | e :: rest =>
    if e = 'e' || e = 'E' then
      match rest with
      | '+' :: d :: more => if d.isDigit then signed "e+" (d :: more) else none
      | '-' :: d :: more => if d.isDigit then signed "e-" (d :: more) else none
      | ['+'] => none
      | ['-'] => none
      | d :: more => if d.isDigit then signed "e" (d :: more) else some ([], cs)
      | [] => some ([], cs)
    else some ([], cs)
  | [] => some ([], [])
where
  signed (mark : String) (digits : List Char) : Option (List Char × List Char) :=
    (digitRun Char.isDigit digits).map fun r => (mark.toList ++ r.1, r.2)

/-- A decimal number. An integer may start with a zero, and have any number of digits, only when it
is zero. -/
def decimalNumber? (cs : List Char) : Option (Token × List Char) := do
  let (whole, afterWhole) ← digitRun Char.isDigit cs
  let (fraction, afterFraction) ← match afterWhole with
    | '.' :: d :: rest =>
      if d.isDigit then (digitRun Char.isDigit (d :: rest)).map fun r => ('.' :: r.1, r.2)
      else some (['.'], d :: rest)
    | ['.'] => some (['.'], [])
    | rest => some ([], rest)
  let (exponent, afterExponent) ← exponent? afterFraction
  let (isImaginary, rest) := match afterExponent with
    | 'j' :: rest => (true, rest)
    | 'J' :: rest => (true, rest)
    | rest => (false, rest)
  if !endsNumber rest then none
  else if isImaginary || !fraction.isEmpty || !exponent.isEmpty then do
    let x ← Literal.plainFloat? (whole ++ fraction ++ exponent)
    return (.constant (if isImaginary then .imaginary x else .value (.float x)), rest)
  else do
    let n ← Literal.groupedDigits? 10 whole
    if n != 0 && (whole.head? = some '0' || Literal.isTooLong whole) then none
    else return (.constant (.value (.int n)), rest)

/-- A number at the start of a text. -/
def number? (cs : List Char) : Option (Token × List Char) :=
  match cs with
  | '0' :: c :: rest =>
    if c = 'x' || c = 'X' then radixNumber? 16 rest
    else if c = 'o' || c = 'O' then radixNumber? 8 rest
    else if c = 'b' || c = 'B' then radixNumber? 2 rest
    else decimalNumber? cs
  | _ => decimalNumber? cs

/-! ## Texts -/

/-- The characters up to a closing quote, escapes kept, and the rest. -/
def untilQuote (q : Char) : List Char → Option (List Char × List Char)
  | [] => none
  | '\\' :: c :: rest => (untilQuote q rest).map fun r => ('\\' :: c :: r.1, r.2)
  | c :: rest =>
    if c = q then some ([], rest)
    else if c = '\n' then none
    else (untilQuote q rest).map fun r => (c :: r.1, r.2)

/-- The characters up to three closing quotes, escapes kept, and the rest. -/
def untilTripleQuote (q : Char) : List Char → Option (List Char × List Char)
  | [] => none
  | '\\' :: c :: rest => (untilTripleQuote q rest).map fun r => ('\\' :: c :: r.1, r.2)
  | c :: rest =>
    match dropFront? [q, q, q] (c :: rest) with
    | some behind => some ([], behind)
    | none => (untilTripleQuote q rest).map fun r => (c :: r.1, r.2)

/-- The escapes of one letter. -/
def letterEscape? : Char → Option (List Char)
  | '\n' => some []
  | '\\' => some ['\\']
  | '\'' => some ['\'']
  | '"' => some ['"']
  | 'a' => some ['\x07']
  | 'b' => some ['\x08']
  | 'f' => some ['\x0c']
  | 'n' => some ['\n']
  | 'r' => some ['\r']
  | 't' => some ['\t']
  | 'v' => some ['\x0b']
  | _ => none

/-- The value of a given number of hexadecimal digits, and the rest. -/
def hexEscape? (count : Nat) (cs : List Char) : Option (Nat × List Char) :=
  let digits := cs.take count
  if digits.length = count && digits.all fun c => (hexValue? c).isSome then
    (Literal.groupedDigits? 16 digits).map (·, cs.drop count)
  else none

/-- How many digits follow the letter of a hexadecimal escape. -/
def hexWidth? (isBytes : Bool) : Char → Option Nat
  | 'x' => some 2
  | 'u' => if isBytes then none else some 4
  | 'U' => if isBytes then none else some 8
  | _ => none

/-- Whether a digit is one of an octal escape. -/
def isOctal (c : Char) : Bool := '0' ≤ c && c ≤ '7'

/-- The code of the character whose name stands in braces, and the rest. -/
def nameEscape? (cs : List Char) : Option (Nat × List Char) := do
  let cs ← dropFront? ['\x7b'] cs
  let rest ← dropFront? ['\x7d'] (cs.dropWhile (· != '\x7d'))
  return (← codeNamed? (cs.takeWhile (· != '\x7d')), rest)

/-- A text with its escapes resolved, by at most the given number of steps. -/
def unescape (isBytes : Bool) : Nat → List Char → Option (List Char)
  | 0, cs => some cs
  | _, [] => some []
  | steps + 1, '\\' :: c :: rest =>
    match letterEscape? c with
    | some out => (unescape isBytes steps rest).map (out ++ ·)
    | none =>
      if isOctal c then do
        let digits := ((c :: rest).take 3).takeWhile isOctal
        let n ← Literal.groupedDigits? 8 digits
        let n := if isBytes then n % 256 else n
        (unescape isBytes steps ((c :: rest).drop digits.length)).map (Char.ofNat n :: ·)
      else match hexWidth? isBytes c with
        | some width => do
          let (n, rest) ← hexEscape? width rest
          if n < codeBound then (unescape isBytes steps rest).map (ofCode n ++ ·) else none
        | none =>
          if c = 'N' && !isBytes then do
            let (n, rest) ← nameEscape? rest
            (unescape isBytes steps rest).map (ofCode n ++ ·)
          else (unescape isBytes steps rest).map fun out => '\\' :: c :: out
  | steps + 1, c :: rest => (unescape isBytes steps rest).map (c :: ·)

/-- The letters in front of a quote that say how the text is written. -/
def textKinds : List String := ["", "r", "u", "b", "br", "rb", "f", "fr", "rf"]

/-- A text whose kind is known, at its opening quote. -/
def text? (kind : List Char) (cs : List Char) : Option (Token × List Char) := do
  let (q, afterQuote) ← match cs with
    | q :: rest => if q = '"' || q = '\'' then some (q, rest) else none
    | [] => none
  let (raw, rest) ← match dropFront? [q, q] afterQuote with
    | some body => untilTripleQuote q body
    | none => untilQuote q afterQuote
  if kind.contains 'f' then return (.formatted (kind.contains 'r') raw, rest)
  let isBytes := kind.contains 'b'
  let plain ← if kind.contains 'r' then some raw else unescape isBytes raw.length raw
  if isBytes then
    if raw.all (·.toNat < 0x80) then
      return (.constant (.value (.bytes (plain.map fun c => UInt8.ofNat c.toNat))), rest)
    else none
  else return (.constant (.value (.str (String.ofList plain))), rest)

/-! ## Marks -/

/-- The marks, those of more characters first. -/
def marks : List String := ["...", "**", "//", "<<", ">>", "==", "!=", "<=", ">=", ":=",
  "+", "-", "*", "/", "%", "@", "&", "|", "^", "~", "<", ">", "(", ")", "[", "]", "\x7b", "\x7d",
  ",", ":", ".", "=", ";"]

/-- A mark at the start of a text. -/
def mark? (cs : List Char) : Option (String × List Char) :=
  marks.findSome? fun m => (dropFront? m.toList cs).map (m, ·)

/-- The mark that closes a bracket. -/
def closing? : String → Option String
  | "(" => some ")"
  | "[" => some "]"
  | "\x7b" => some "\x7d"
  | _ => none

/-- How many brackets may be open at once. -/
def maxBrackets : Nat := 200

/-- The brackets that are open behind a mark; none when it closes what is not open, or opens too
many. -/
def brackets? (mark : String) (openings : List String) : Option (List String) :=
  match closing? mark with
  | some close => if openings.length < maxBrackets then some (close :: openings) else none
  | none =>
    if mark = ")" || mark = "]" || mark = "\x7d" then
      match openings with
      | close :: rest => if close = mark then some rest else none
      | [] => none
    else some openings

/-! ## Formatted texts -/

/-- The literal characters at the start of a formatted text, up to a brace, and the rest. Doubled
braces stand for one, but not in the format of a field. The second flag says whether the name of an
escaped character goes on, in whose braces no field stands. -/
def literalPart? (isRaw isFormat : Bool) : Bool → List Char → Option (List Char × List Char)
  | _, [] => some ([], [])
  | true, c :: rest =>
    (literalPart? isRaw isFormat (c != '\x7d') rest).map fun r => (c :: r.1, r.2)
  | false, '\\' :: c :: rest =>
    if isRaw || c = '\x7b' || c = '\x7d' then
      (literalPart? isRaw isFormat false (c :: rest)).map fun r => ('\\' :: r.1, r.2)
    else if c = 'N' && rest.head? != some '\x7b' then none
    else (literalPart? isRaw isFormat (c = 'N') rest).map fun r => ('\\' :: c :: r.1, r.2)
  | false, c :: rest =>
    if c = '\x7b' || c = '\x7d' then
      match isFormat, rest with
      | true, rest => some ([], c :: rest)
      | false, d :: more =>
        if d = c then (literalPart? isRaw isFormat false more).map fun r => (c :: r.1, r.2)
        else if c = '\x7b' then some ([], c :: d :: more)
        else none
      | false, [] => none
    else (literalPart? isRaw isFormat false rest).map fun r => (c :: r.1, r.2)

/-- The text of the expression in a field of a formatted text, and the rest from the mark on that
ends it. The first argument counts the characters that are passed unseen, the second is what closes
the text that is open, if one is. -/
def fieldText? : Nat → Option (List Char) → List String → List Char →
    Option (List Char × List Char)
  | _, _, _, [] => none
  | unseen + 1, quotes?, openings, c :: rest =>
    (fieldText? unseen quotes? openings rest).map fun r => (c :: r.1, r.2)
  | 0, quotes?, openings, c :: rest =>
    let goOn (unseen : Nat) (quotes? : Option (List Char)) (openings : List String) :=
      (fieldText? unseen quotes? openings rest).map fun r => (c :: r.1, r.2)
    if c = '\\' then none
    else match quotes? with
      | some quotes =>
        if (dropFront? quotes (c :: rest)).isSome then goOn (quotes.length - 1) none openings
        else goOn 0 (some quotes) openings
      | none =>
        if c = '"' || c = '\'' then
          if (dropFront? [c, c] rest).isSome then goOn 2 (some [c, c, c]) openings
          else goOn 0 (some [c]) openings
        else if c = '#' then none
        else if openings.isEmpty && ['!', '=', '<', '>'].contains c && rest.head? = some '=' then
          goOn 1 none openings
        else if openings.isEmpty && ['!', '=', ':', '\x7d'].contains c then some ([], c :: rest)
        else do goOn 0 none (← brackets? c.toString openings)

/-! ## All tokens -/

/-- The token of a word. -/
def wordToken (word : List Char) : Token :=
  if word.all (·.toNat < 0x80) then .name (String.ofList word)
  else .identifier (String.ofList (normalForm word))

/-- One token at the start of a text that starts with no blank. -/
def token? (cs : List Char) : Option (Token × List Char) :=
  match cs with
  | [] => none
  | c :: rest =>
    if isNameStart c then
      let word := c :: rest.takeWhile isNameChar
      let behind := rest.dropWhile isNameChar
      let kind := lowerAscii word
      match behind with
      | q :: _ =>
        if (q = '"' || q = '\'') && textKinds.contains (String.ofList kind) then text? kind behind
        else some (wordToken word, behind)
      | [] => some (wordToken word, [])
    else if c.isDigit || (c = '.' && rest.head?.any Char.isDigit) then number? cs
    else if c = '"' || c = '\'' then text? [] cs
    else (mark? cs).map fun m => (.mark m.1, m.2)

/-- The tokens of a text, by at most the given number of steps, with the given marks due to close
brackets. -/
def tokensFrom? : Nat → List String → List Char → Option (List Token)
  | 0, _, _ => none
  | _, openings, [] => if openings.isEmpty then some [] else none
  | steps + 1, openings, c :: rest =>
    if c = ' ' || c = '\t' || c = '\x0c' then tokensFrom? steps openings rest
    else if c = '\n' then
      let following := tokensFrom? steps openings rest
      if openings.isEmpty then following.map (.lineEnd :: ·) else following
    else if c = '#' then tokensFrom? steps openings (rest.dropWhile (· != '\n'))
    else if c = '\\' then
      match rest with
      | '\n' :: next :: more => tokensFrom? steps openings (next :: more)
      | _ => none
    else do
      let (token, behind) ← token? (c :: rest)
      let openings ← match token with
        | .mark m => brackets? m openings
        | _ => some openings
      (tokensFrom? steps openings behind).map (token :: ·)

/-- A text without the lines in front that have no token, by at most the given number of steps; none
when the first line with one is indented. The flags say whether the line is indented so far, and
whether it was where it was continued on the next. -/
def dropEmptyLines? : Nat → Bool → Bool → List Char → Option (List Char)
  | 0, _, _, _ => none
  | _, _, _, [] => some []
  | steps + 1, isIndented, wasIndented, c :: rest =>
    if c = ' ' || c = '\t' then dropEmptyLines? steps true wasIndented rest
    else if c = '\x0c' then dropEmptyLines? steps false wasIndented rest
    else if c = '\n' then dropEmptyLines? steps false false rest
    else if c = '#' then dropEmptyLines? steps isIndented wasIndented (rest.dropWhile (· != '\n'))
    else if c = '\\' then
      match rest with
      | '\n' :: next :: more =>
        dropEmptyLines? steps isIndented (wasIndented || isIndented) (next :: more)
      | _ => none
    else if isIndented || wasIndented then none
    else some (c :: rest)

/-- Whether a token is the end of a line. -/
def Token.isLineEnd : Token → Bool
  | .lineEnd => true
  | _ => false

/-- The tokens of an expression, without line ends behind it. A text with half of a surrogate pair
has none, nor has one with the character zero. -/
def tokens? (cs : List Char) : Option (List Token) := do
  let cs := unifyBreaks cs
  if (codes cs).any isHalf || cs.contains '\x00' then none
  else
    let cs ← dropEmptyLines? (cs.length + 1) false false cs
    let ts ← tokensFrom? (cs.length + 1) [] cs
    return (ts.reverse.dropWhile Token.isLineEnd).reverse

end Automation.Template
