import Automation.Text.Blank

/-!
# The kind of a plain scalar

Which plain scalars are not texts. The same rules say when a text has to be quoted in order to be
read back as a text: exactly when `kindOf` is not `text`.
-/

namespace Automation.Yaml

/-- What a plain scalar stands for. -/
inductive ScalarKind where
  | null | bool | int | float | timestamp | merge | value | indicator | text
  deriving DecidableEq, Repr

namespace ScalarKind

/-- The words for truth values, in lower case with their values. -/
def boolWords : List (String × Bool) :=
  [("yes", true), ("no", false), ("true", true), ("false", false), ("on", true), ("off", false)]

/-- A word in lower case, capitalised, or in upper case. -/
def isCased (word : String) (cs : List Char) : Bool :=
  let lower := word.toList
  let upper := lower.map Char.toUpper
  let capital := match lower with
    | c :: rest => c.toUpper :: rest
    | [] => []
  cs == lower || cs == capital || cs == upper

def isBool (cs : List Char) : Bool := boolWords.any fun w => isCased w.1 cs

def isNull (cs : List Char) : Bool := cs.isEmpty || cs == ['~'] || isCased "null" cs

/-- A text without a sign. -/
def unsigned (cs : List Char) : List Char :=
  match cs with
  | '-' :: rest => rest
  | '+' :: rest => rest
  | _ => cs

def isDigitOrLow (c : Char) : Bool := c.isDigit || c == '_'

/-- Groups of base sixty: a colon and one or two digits each, at least one of them. -/
def sexagesimalGroups : List Char → Option (List Char)
  | ':' :: a :: b :: rest =>
    if '0' ≤ a && a ≤ '5' && b.isDigit then some ((sexagesimalGroups rest).getD rest)
    else if a.isDigit then some ((sexagesimalGroups (b :: rest)).getD (b :: rest))
    else none
  | [':', a] => if a.isDigit then some [] else none
  | _ => none

/-- An integer in base two, eight, ten, sixteen or sixty. -/
def isInt (cs : List Char) : Bool :=
  match unsigned cs with
  | ['0'] => true
  | '0' :: rest =>
    (match rest with
      | 'b' :: digits => !digits.isEmpty && digits.all fun c => c == '0' || c == '1' || c == '_'
      | 'x' :: digits =>
        !digits.isEmpty && digits.all fun c => (Text.hexValue? c).isSome || c == '_'
      | _ => false)
      || rest.all fun c => ('0' ≤ c && c ≤ '7') || c == '_'
  | c :: rest =>
    c.isDigit
      && (let behind := rest.dropWhile isDigitOrLow
          behind.isEmpty || sexagesimalGroups behind == some [])
  | [] => false

/-- An exponent with a sign, or nothing. -/
def isExponent (cs : List Char) : Bool :=
  match cs with
  | [] => true
  | e :: sign :: digits =>
    (e == 'e' || e == 'E') && (sign == '+' || sign == '-') && !digits.isEmpty
      && digits.all Char.isDigit
  | _ => false

/-- A number with a point: decimal, in base sixty, infinite or none. -/
def isFloat (cs : List Char) : Bool :=
  let infinite (body : List Char) : Bool :=
    body == ".inf".toList || body == ".Inf".toList || body == ".INF".toList
  let positional : Bool :=
    match unsigned cs with
    | c :: rest =>
      c.isDigit
        && (match rest.dropWhile isDigitOrLow with
          | '.' :: behind => isExponent (behind.dropWhile isDigitOrLow)
          | behind =>
            match sexagesimalGroups behind with
            | some ('.' :: fraction) => fraction.all isDigitOrLow
            | _ => false)
    | [] => false
  let fraction : Bool :=
    match cs with
    | '.' :: d :: rest => d.isDigit && isExponent (rest.dropWhile isDigitOrLow)
    | _ => false
  positional || fraction || infinite (unsigned cs)
    || cs == ".nan".toList || cs == ".NaN".toList || cs == ".NAN".toList

/-- The numbers of a timestamp; a date has no time. -/
structure TimestampParts where
  year : List Char
  month : List Char
  day : List Char
  time : Option (List Char × List Char × List Char)
  fraction : List Char
  /-- a sign, hours and minutes -/
  offset : Option (Bool × List Char × List Char)

/-- One or two digits, and what follows. -/
def oneOrTwoDigits? (cs : List Char) : Option (List Char × List Char) :=
  match cs with
  | a :: b :: rest =>
    if a.isDigit && b.isDigit then some ([a, b], rest)
    else if a.isDigit then some ([a], b :: rest) else none
  | [a] => if a.isDigit then some ([a], []) else none
  | [] => none

/-- Exactly two digits, and what follows. -/
def twoDigits? (cs : List Char) : Option (List Char × List Char) :=
  match cs with
  | a :: b :: rest => if a.isDigit && b.isDigit then some ([a, b], rest) else none
  | _ => none

/-- The rest of a text behind a character. -/
def after? (ch : Char) (cs : List Char) : Option (List Char) :=
  match cs with
  | c :: rest => if c == ch then some rest else none
  | [] => none

def isSpaceOrTab (c : Char) : Bool := c == ' ' || c == '\t'

/-- The offset at the end of a timestamp: nothing, `Z`, or a sign with hours and minutes. -/
def offset? (cs : List Char) : Option (Option (Bool × List Char × List Char)) :=
  match cs.dropWhile isSpaceOrTab with
  | [] => if cs.isEmpty then some none else none
  | ['Z'] => some (some (false, [], []))
  | sign :: rest =>
    if sign == '-' || sign == '+' then do
      let (hours, rest) ← oneOrTwoDigits? rest
      match rest with
      | [] => return some (sign == '-', hours, [])
      | _ =>
        let rest ← after? ':' rest
        let (minutes, rest) ← twoDigits? rest
        if rest.isEmpty then return some (sign == '-', hours, minutes) else none
    else none

/-- The parts of a timestamp whose month and day may have one digit. -/
def timestamp? (cs : List Char) : Option TimestampParts := do
  let year := cs.take 4
  if year.length != 4 || !year.all Char.isDigit then none
  else
    let rest ← after? '-' (cs.drop 4)
    let (month, rest) ← oneOrTwoDigits? rest
    let rest ← after? '-' rest
    let (day, rest) ← oneOrTwoDigits? rest
    match rest with
    | [] => return ⟨year, month, day, none, [], none⟩
    | c :: behind =>
      let start ←
        if c == 'T' || c == 't' then some behind
        else if isSpaceOrTab c then some (behind.dropWhile isSpaceOrTab)
        else none
      let (hour, rest) ← oneOrTwoDigits? start
      let rest ← after? ':' rest
      let (minute, rest) ← twoDigits? rest
      let rest ← after? ':' rest
      let (second, rest) ← twoDigits? rest
      let (fraction, rest) := match rest with
        | '.' :: behind => (behind.takeWhile Char.isDigit, behind.dropWhile Char.isDigit)
        | _ => ([], rest)
      let offset ← offset? rest
      return ⟨year, month, day, some (hour, minute, second), fraction, offset⟩

/-- A timestamp as a plain scalar gives it: a date alone has two digits for month and day. -/
def isTimestamp (cs : List Char) : Bool :=
  match timestamp? cs with
  | some parts => parts.time.isSome || (parts.month.length == 2 && parts.day.length == 2)
  | none => false

/-- The kind of a plain scalar. A line feed at its end is overlooked, except that nothing but a line
feed is a text. -/
def kindOf (text : List Char) : ScalarKind :=
  let cs := match text.getLast? with
    | some '\n' => text.dropLast
    | _ => text
  if text.isEmpty then .null
  else if cs.isEmpty then .text
  else if isBool cs then .bool
  else if isFloat cs then .float
  else if isInt cs then .int
  else if cs == ['<', '<'] then .merge
  else if isNull cs then .null
  else if isTimestamp cs then .timestamp
  else if cs == ['='] then .value
  else if cs == ['!'] || cs == ['&'] || cs == ['*'] then .indicator
  else .text

end ScalarKind

end Automation.Yaml
