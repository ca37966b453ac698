import Automation.Number.Binary64
import Automation.Text.Blank

/-!
# Reading numbers

Integers and floating point numbers as texts give them: blanks around, a sign, digits of any
script, and single low lines between digits. No text with a low line at its end is a number
(`groupedFrom?_nil`), and an empty text is none (`groupedDigits?_nil`).

A decimal integer has a bound on its digits, both where it is read and where it is written; the
radices two, eight and sixteen have none.
-/

namespace Automation.Literal

open Text

/-- The most digits that a decimal integer may be read from or written with. -/
def maxDigits : Nat := 4300

/-- The least integer that has too many digits to be written. -/
def writingBound : Nat := Binary64.pow10 maxDigits

/-- Whether an integer can be written in decimal digits. -/
def hasDecimal (n : Int) : Bool := n.natAbs < writingBound

/-- Whether digits, perhaps with low lines among them, are too many for a decimal integer. -/
def isTooLong (cs : List Char) : Bool := maxDigits < cs.countP (· != '_')

/-- The value of digits in a radix, with single low lines allowed between two digits. The second
argument is the value so far, the third whether the last character was a digit. -/
def groupedFrom? (radix : Nat) : Nat → Bool → List Char → Option Nat
  | value, afterDigit, [] => if afterDigit then some value else none
  | value, afterDigit, c :: rest =>
    if c = '_' then
      if afterDigit then groupedFrom? radix value false rest else none
    else
      match hexValue? c with
      | some d => if d < radix then groupedFrom? radix (value * radix + d) true rest else none
      | none => none

/-- The value of digits in a radix, with single low lines allowed between two digits. -/
def groupedDigits? (radix : Nat) (cs : List Char) : Option Nat := groupedFrom? radix 0 false cs

/-- What has been read counts only when it ends with a digit. -/
theorem groupedFrom?_nil (radix value : Nat) : groupedFrom? radix value false [] = none := rfl

/-- No digits are no number. -/
theorem groupedDigits?_nil (radix : Nat) : groupedDigits? radix [] = none := rfl

/-- A blank that may stand around a number: any but the four separators of ASCII. -/
def isPadding (c : Char) : Bool := isBlank c && !(28 ≤ c.toNat && c.toNat ≤ 31)

/-- A text without the blanks that may stand around a number. -/
def unpad (cs : List Char) : List Char :=
  ((cs.dropWhile isPadding).reverse.dropWhile isPadding).reverse

/-- A sign in front of a text, and the rest. -/
def splitSign : List Char → Bool × List Char
  | '-' :: rest => (true, rest)
  | '+' :: rest => (false, rest)
  | cs => (false, cs)

/-- The letter that marks a radix behind a leading zero. -/
def radixLetter : Nat → Char
  | 2 => 'b'
  | 8 => 'o'
  | 16 => 'x'
  | _ => '0'

/-- The digits behind a mark of the radix such as `0x`, if there is one. -/
def dropRadixMark (radix : Nat) : List Char → List Char
  | '0' :: c :: rest =>
    if c.isAlpha && c.toLower == radixLetter radix then
      match rest with
      | '_' :: more => more
      | _ => rest
    else '0' :: c :: rest
  | cs => cs

/-- The integer that a text stands for in a radix. -/
def int? (radix : Nat) (cs : List Char) : Option Int :=
  let (negative, body) := splitSign (unpad (asciiDigits cs))
  if radix = 10 && isTooLong body then none
  else
    let value := groupedDigits? radix (dropRadixMark radix body)
    value.map fun n => if negative then -(n : Int) else n

/-- A text without its low lines, each of which must stand between two digits. -/
def dropLowLines? : List Char → Option (List Char)
  | [] => some []
  | '_' :: _ => none
  | c :: '_' :: d :: rest =>
    if c.isDigit && d.isDigit then (dropLowLines? (d :: rest)).map (c :: ·) else none
  | c :: rest => (dropLowLines? rest).map (c :: ·)

/-- A decimal with an optional fraction and exponent, as its digits and a power of ten. -/
def decimal? (cs : List Char) : Option (Nat × Int) :=
  let whole := cs.takeWhile Char.isDigit
  let afterWhole := cs.dropWhile Char.isDigit
  let (fraction, afterFraction) :=
    match afterWhole with
    | '.' :: rest => (rest.takeWhile Char.isDigit, rest.dropWhile Char.isDigit)
    | rest => ([], rest)
  let exponent? : Option Int :=
    match afterFraction with
    | [] => some 0
    | e :: rest =>
      if e == 'e' || e == 'E' then
        let (negative, digits) := splitSign rest
        if digits.all Char.isDigit then
          (groupedDigits? 10 digits).map fun n => if negative then -(n : Int) else n
        else none
      else none
  match groupedDigits? 10 (whole ++ fraction), exponent? with
  | some digits, some exponent => some (digits, exponent - fraction.length)
  | _, _ => none

/-- The floating point number that a text without blanks and low lines stands for. -/
def plainFloat? (cs : List Char) : Option Binary64 :=
  let (negative, body) := splitSign cs
  let word := lowerAscii body
  if word = "inf".toList || word = "infinity".toList then some (.infinity negative)
  else if word = "nan".toList then some .nan
  else (decimal? body).map fun (digits, scale) => .ofDecimal negative digits scale

/-- The floating point number that a text stands for. -/
def float? (cs : List Char) : Option Binary64 :=
  (dropLowLines? (unpad (asciiDigits cs))).bind plainFloat?

/-- Whether there are low lines in a text, none of them at an end or next to another. -/
def hasInnerLowLines (cs : List Char) : Bool :=
  cs.contains '_' && cs.head? != some '_' && cs.getLast? != some '_'
    && !(cs.zip cs.tail).contains ('_', '_')

/-- A floating point number as the fields of a record accept it: digits of ASCII with blanks around,
or with inner low lines anywhere. -/
def fieldFloat? (cs : List Char) : Option Binary64 :=
  (plainFloat? (unpad cs)).or
    (if hasInnerLowLines cs then plainFloat? (cs.filter (· != '_')) else none)

/-! ## Whole numbers of records -/

/-- Why a text is no whole number for a field of a record. -/
inductive WholeFault where
  | malformed
  | tooLong
  deriving DecidableEq, Repr

/-- An integer in its plain form: perhaps a minus sign, and digits of which the first is no zero
unless it is the only one. -/
def plainInteger (cs : List Char) : Except WholeFault Int :=
  let (negative, body) := match cs with
    | '-' :: rest => (true, rest)
    | _ => (false, cs)
  let digits := body.takeWhile Char.isDigit
  let startsWithZero := digits.head? == some '0'
  if !startsWithZero && maxDigits < digits.length + (if negative then 1 else 0) then .error .tooLong
  else if digits.length = body.length && (!startsWithZero || digits.length = 1) then
    match groupedDigits? 10 digits with
    | some n => .ok (if negative then -(n : Int) else n)
    | none => .error .malformed
  else .error .malformed

/-- Whether a character may be the first of a number that no zeros stand in front of. -/
def startsNumber (c : Char) : Bool := ('1' ≤ c && c ≤ '9') || c == '-'

/-- What follows leading zeros and the low lines among them, given the last of those. In front of a
point, and at the end, the last of them is kept. -/
def behindZeros? (last : Char) : List Char → Option (List Char)
  | [] => some [last]
  | c :: rest =>
    if c = '0' || c = '_' then behindZeros? c rest
    else if startsNumber c then some (c :: rest)
    else if c = '.' then some (last :: c :: rest)
    else none

/-- A number without its leading zeros. -/
def dropLeadingZeros? : List Char → Option (List Char)
  | [] => none
  | c :: rest =>
    if c = '0' then behindZeros? c rest
    else if startsNumber c then some (c :: rest)
    else none

/-- A number without a fraction of zeros. -/
def dropZeroFraction (cs : List Char) : List Char :=
  let fraction := cs.dropWhile (· != '.')
  if 1 < fraction.length && fraction.tail.all (· == '0') then cs.takeWhile (· != '.') else cs

/-- A lenient integer in its plain form: without blanks around it, a plus sign, leading zeros, a
fraction of zeros, and inner low lines. -/
def tidyInteger? (cs : List Char) : Option (List Char) := do
  let unsigned ← match unpad cs with
    | '+' :: '-' :: _ => none
    | '+' :: rest => some rest
    | rest => some rest
  let trimmed ← match unsigned with
    | '-' :: rest => (dropLeadingZeros? rest).map ('-' :: ·)
    | rest => dropLeadingZeros? rest
  let whole := dropZeroFraction trimmed
  return if hasInnerLowLines whole then whole.filter (· != '_') else whole

/-- An integer as the fields of a record accept it. -/
def wholeNumber (cs : List Char) : Except WholeFault Int :=
  match plainInteger cs with
  | .error .malformed =>
    match tidyInteger? cs with
    | some tidy => plainInteger tidy
    | none => .error .malformed
  | result => result

example : int? 10 " -1_000 ".toList = some (-1000) := by cbv
example : int? 16 "0xff".toList = some 255 := by cbv
example : int? 10 "1__0".toList = none := by cbv
example : decimal? ['1', '.', '5', 'e', '3'] = some (15, 2) := by decide +kernel
example : wholeNumber "+12.00".toList = .ok 12 := by cbv
example : wholeNumber "1.".toList = .error .malformed := by cbv
example : wholeNumber "00-12".toList = .ok (-12) := by cbv

end Automation.Literal
