import Automation.Failure

/-!
# Reading JSON

A JSON text as a document value. Objects keep the order of their keys, and a repeated key keeps its
first place and its last value. Integers are exact, but one with too many digits is a fault, even
when what follows it is no JSON; the words `NaN`, `Infinity` and `-Infinity` are numbers. Each level
of nesting and each item takes at least one character, so a text of `n` characters is read in at
most `n + 1` steps.
-/

namespace Automation.Json

/-- A text that is no JSON. -/
def malformed {α : Type} : Outcome α := .fault .json

/-- A text without the blanks of JSON at its start. -/
def skipBlanks (cs : List Char) : List Char :=
  cs.dropWhile fun c => c == ' ' || c == '\t' || c == '\n' || c == '\r'

/-- Four hexadecimal digits. -/
def codeUnit? : List Char → Option (Nat × List Char)
  | a :: b :: c :: d :: rest => do
    let a ← Text.hexValue? a
    let b ← Text.hexValue? b
    let c ← Text.hexValue? c
    let d ← Text.hexValue? d
    return (((a * 16 + b) * 16 + c) * 16 + d, rest)
  | _ => none

/-- The character of an escape with a letter. -/
def escapeLetter? : Char → Option Char
  | '"' => some '"'
  | '\\' => some '\\'
  | '/' => some '/'
  | 'b' => some '\x08'
  | 'f' => some '\x0c'
  | 'n' => some '\n'
  | 'r' => some '\r'
  | 't' => some '\t'
  | _ => none

/-- The code of a pair of code units, when the first one starts a pair and the second ends it. -/
def pairedCode? (high low : Nat) : Option Nat :=
  if 0xD800 ≤ high && high < 0xDC00 && 0xDC00 ≤ low && low < 0xE000 then
    some (0x10000 + (high - 0xD800) * 0x400 + (low - 0xDC00))
  else none

/-- The code of an escape by number, and what follows it: that of a pair of code units, or else a
single unit, which may be half of a pair. -/
def escapedCode? (cs : List Char) : Option (Nat × List Char) := do
  let (unit, rest) ← codeUnit? cs
  let paired? : Option (Nat × List Char) :=
    match rest with
    | '\\' :: 'u' :: more => do
      let (low, more) ← codeUnit? more
      let code ← pairedCode? unit low
      return (code, more)
    | _ => none
  return paired?.getD (unit, rest)

/-- The characters of a string up to its closing quote, and what follows it. -/
def string? : Nat → List Char → Option (List Char × List Char)
  | 0, _ => none
  | _ + 1, [] => none
  | _ + 1, '"' :: rest => some ([], rest)
  | fuel + 1, '\\' :: 'u' :: rest => do
    let (code, rest) ← escapedCode? rest
    let (cs, rest) ← string? fuel rest
    return (Text.ofCode code ++ cs, rest)
  | fuel + 1, '\\' :: e :: rest => do
    let c ← escapeLetter? e
    let (cs, rest) ← string? fuel rest
    return (c :: cs, rest)
  | fuel + 1, c :: rest =>
    if c.toNat < 0x20 || c == '\\' then none
    else do
      let (cs, rest) ← string? fuel rest
      return (c :: cs, rest)

/-- A string behind its opening quote, and what follows it. -/
def string (cs : List Char) : Outcome (String × List Char) := do
  let (text, rest) ← Outcome.orFault (string? (cs.length + 1) cs) .json
  return (String.ofList text, rest)

/-- What a text starts with, and the rest, when it starts with the given word. -/
def dropWord? (word cs : List Char) : Option (List Char) :=
  if cs.take word.length = word then some (cs.drop word.length) else none

/-- The digits of a decimal integer without superfluous zeros. -/
def wholeDigits? (cs : List Char) : Option (List Char × List Char) :=
  match cs with
  | '0' :: rest => some (['0'], rest)
  | _ =>
    let digits := cs.takeWhile Char.isDigit
    if digits.isEmpty then none else some (digits, cs.dropWhile Char.isDigit)

/-- The digits of a fraction behind its point. -/
def fractionDigits (cs : List Char) : List Char × List Char :=
  match cs with
  | '.' :: rest =>
    let digits := rest.takeWhile Char.isDigit
    if digits.isEmpty then ([], cs) else (digits, rest.dropWhile Char.isDigit)
  | _ => ([], cs)

/-- The value of an exponent behind its letter, if there is one. -/
def exponent (cs : List Char) : Option Int × List Char :=
  match cs with
  | e :: rest =>
    if e == 'e' || e == 'E' then
      let (negative, digitsOn) := Literal.splitSign rest
      let digits := digitsOn.takeWhile Char.isDigit
      match Literal.groupedDigits? 10 digits with
      | some n => (some (if negative then -(n : Int) else n), digitsOn.dropWhile Char.isDigit)
      | none => (none, cs)
    else (none, cs)
  | [] => (none, cs)

/-- The undefined number of a JSON text. -/
def undefinedNumber : Binary64 := .undefined 1

/-- A number, and what follows it. -/
def number (cs : List Char) : Outcome (Value × List Char) := do
  let (negative, body) := match cs with
    | '-' :: rest => (true, rest)
    | _ => (false, cs)
  match dropWord? "Infinity".toList body with
  | some rest => return (.float (.infinity negative), rest)
  | none =>
    let (whole, rest) ← Outcome.orFault (wholeDigits? body) .json
    let (fraction, rest) := fractionDigits rest
    let (exponent?, rest) := exponent rest
    let digits := (Literal.groupedDigits? 10 (whole ++ fraction)).getD 0
    if !fraction.isEmpty || exponent?.isSome then
      return (.float (.ofDecimal negative digits (exponent?.getD 0 - fraction.length)), rest)
    else if Literal.isTooLong whole then Outcome.fault .value
    else return (.int (if negative then -(digits : Int) else digits), rest)

mutual
/-- A value, and what follows it. -/
def value : Nat → List Char → Outcome (Value × List Char)
  | 0, _ => malformed
  | fuel + 1, cs =>
    match cs with
    | '"' :: rest => do
      let (s, rest) ← string rest
      return (.str s, rest)
    | '\x7b' :: rest =>
      match skipBlanks rest with
      | '\x7d' :: rest => .ok (.ofEntries [], rest)
      | rest => members fuel [] rest
    | '[' :: rest =>
      match skipBlanks rest with
      | ']' :: rest => .ok (.ofItems [], rest)
      | rest => elements fuel [] rest
    | _ =>
      match dropWord? "null".toList cs, dropWord? "true".toList cs, dropWord? "false".toList cs,
        dropWord? "NaN".toList cs with
      | some rest, _, _, _ => .ok (.null, rest)
      | _, some rest, _, _ => .ok (.bool true, rest)
      | _, _, some rest, _ => .ok (.bool false, rest)
      | _, _, _, some rest => .ok (.float undefinedNumber, rest)
      | _, _, _, _ => number cs

/-- The remaining members of an object, behind those already read. -/
def members : Nat → Entries → List Char → Outcome (Value × List Char)
  | 0, _, _ => malformed
  | fuel + 1, done, cs =>
    match cs with
    | '"' :: rest => do
      let (key, rest) ← string rest
      match skipBlanks rest with
      | ':' :: rest =>
        let (v, rest) ← value fuel (skipBlanks rest)
        let done := Entries.set done key v
        match skipBlanks rest with
        | ',' :: rest => members fuel done (skipBlanks rest)
        | '\x7d' :: rest => return (.ofEntries done, rest)
        | _ => malformed
      | _ => malformed
    | _ => malformed

/-- The remaining elements of an array, behind those already read in reverse. -/
def elements : Nat → List Value → List Char → Outcome (Value × List Char)
  | 0, _, _ => malformed
  | fuel + 1, done, cs => do
    let (v, rest) ← value fuel cs
    match skipBlanks rest with
    | ',' :: rest => elements fuel (v :: done) (skipBlanks rest)
    | ']' :: rest => return (.ofItems (v :: done).reverse, rest)
    | _ => malformed
end

/-- The value of a whole text. -/
def read (s : String) : Outcome Value := do
  let cs := s.toList
  let (v, rest) ← value (cs.length + 1) (skipBlanks cs)
  if (skipBlanks rest).isEmpty then return v else malformed

end Automation.Json
