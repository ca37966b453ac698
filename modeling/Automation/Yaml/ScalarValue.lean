import Automation.Number.Literal
import Automation.Text.Base64
import Automation.Yaml.Node

/-!
# Values of scalars

What the text of a scalar stands for under each tag. A text that does not fit its tag is a fault,
and which one depends on what it lacks: a character, a digit, a known word, the form of a timestamp.
-/

namespace Automation.Yaml

namespace Scalar

/-- The integer of a scalar: binary, octal, decimal, hexadecimal or in base sixty. -/
def int (text : List Char) : Outcome Value :=
  let plain := text.filter (· != '_')
  match plain with
  | [] => .fault .index
  | c :: rest =>
    let negative := c == '-'
    let body := if c == '-' || c == '+' then rest else plain
    let signed (n : Int) : Value := .int (if negative then -n else n)
    let readIn (radix : Nat) (cs : List Char) : Outcome Value :=
      (Outcome.orFault (Literal.int? radix cs) .value).map signed
    match body with
    | [] => .fault .index
    | ['0'] => .ok (.int 0)
    | '0' :: 'b' :: digits => readIn 2 digits
    | '0' :: 'x' :: digits => readIn 16 digits
    | '0' :: _ => readIn 8 body
    | _ =>
      if body.contains ':' then
        let groups := (body.splitOn ':').map (Literal.int? 10)
        if groups.all (·.isSome) then
          .ok (signed (groups.foldl (fun n g => n * 60 + g.getD 0) 0))
        else .fault .value
      else readIn 10 body

/-- The sum of the groups of a number in base sixty, given from the last. Each is multiplied by the
power of sixty of its place, which has to be within the range of binary numbers. -/
def sexagesimal (sum : Binary64) (base : Int) : List Binary64 → Outcome Binary64
  | [] => .ok sum
  | group :: groups =>
    let factor := Binary64.ofInt base
    if factor.isFinite then sexagesimal (sum.add (group.mul factor)) (base * 60) groups
    else Outcome.fault .overflow

/-- The floating point number of a scalar, with a mark for when it is undefined. The undefined
number that has a word of its own is one for all texts. -/
def float (mark : Nat) (text : List Char) : Outcome Value :=
  let plain := Text.lowerAscii (text.filter (· != '_'))
  match plain with
  | [] => .fault .index
  | c :: rest =>
    let negative := c == '-'
    let body := if c == '-' || c == '+' then rest else plain
    let signed (x : Binary64) : Value :=
      .float (if x.isNaN then .undefined mark else if negative then x.neg else x)
    if body = ".inf".toList then .ok (.float (.infinity negative))
    else if body = ".nan".toList then .ok (.float .nan)
    else if body.contains ':' then
      let groups := (body.splitOn ':').map Literal.float?
      if groups.all (·.isSome) then
        (sexagesimal .zero 1 (groups.reverse.filterMap id)).map signed
      else .fault .value
    else (Outcome.orFault (Literal.float? body) .value).map signed

/-- The truth value of a scalar. -/
def bool (text : List Char) : Outcome Value :=
  let word := String.ofList (Text.lowerAscii text)
  (Outcome.orFault (ScalarKind.boolWords.lookup word) .key).map .bool

/-- The number that digits stand for. -/
def digits (cs : List Char) : Nat := (Literal.groupedDigits? 10 cs).getD 0

/-- The date or moment of a scalar. A fraction of the second counts to six digits. -/
def timestamp (origin : Origin) (text : List Char) : Outcome Value :=
  let cs := match text.getLast? with
    | some '\n' => text.dropLast
    | _ => text
  match ScalarKind.timestamp? cs with
  | none => .fault .property
  | some parts => do
    let date ← Outcome.orFault
      (Date.of? (digits parts.year) (digits parts.month) (digits parts.day)) .value
    match parts.time with
    | none => return .date origin date
    | some (hour, minute, second) =>
      let sixDigits := (parts.fraction ++ List.replicate 6 '0').take 6
      let offset := parts.offset.map fun (negative, hours, minutes) =>
        let seconds : Int := (digits hours * 60 + digits minutes) * 60
        if negative then -seconds else seconds
      let inDay := digits hour < 24 && digits minute < 60 && digits second < 60
        && (offset.getD 0).natAbs < 86400
      if inDay then
        return .moment origin
          { date, hour := digits hour, minute := digits minute, second := digits second
            micro := digits sixDigits, offset }
      else .fault .value

/-- The bytes of a scalar in base 64. -/
def binary (text : List Char) : Outcome Value :=
  if text.all fun c => c.toNat < 0x80 then
    match Text.Base64.decode? text with
    | some bs => .ok (.bytes bs)
    | none => invalid
  else invalid

/-- The value of a scalar with a tag: `number` tells its node, and `mark` an undefined number. -/
def ofTag (number mark : Nat) (tag : Tag) (text : List Char) : Outcome Value :=
  match tag with
  | .null => .ok .null
  | .bool => bool text
  | .int => int text
  | .float => float mark text
  | .binary => binary text
  | .timestamp => timestamp (.written number) text
  | .str => .ok (.str (String.ofList text))
  | _ => invalid

end Scalar

end Automation.Yaml
