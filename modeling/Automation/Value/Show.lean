import Automation.Value.Basic
import Automation.Number.Literal
import Automation.Number.Shortest
import Automation.Text.Code
import Automation.Text.Printable

/-!
# Values in messages

The text of a value inside a message. `Value.quoted` writes texts in quotes with escapes, so that
the kind of a value can be seen; `Value.plain` writes a text as it is and a date in its usual form,
and agrees with `quoted` on everything else but those (`plain_str`, `plain_int`).

An integer with too many digits has no text; `Value.hasText` tells whether there is one in a value.
-/

namespace Automation

namespace Text

/-- The hexadecimal digits of a number, in lower case, with at least the given count. -/
def hex (width n : Nat) : List Char :=
  let digits := Nat.toDigits 16 n
  List.replicate (width - digits.length) '0' ++ digits

/-- A character inside quotes: the quote and the backslash behind a backslash, what is not printable
as its letter or its number, and all else as it is. -/
def escapeChar (quote c : Char) : List Char :=
  if c = quote || c = '\\' then ['\\', c]
  else if c = '\n' then ['\\', 'n']
  else if c = '\r' then ['\\', 'r']
  else if c = '\t' then ['\\', 't']
  else if isPrintable c then [c]
  else if c.toNat < 0x100 then '\\' :: 'x' :: hex 2 c.toNat
  else if c.toNat < 0x10000 then '\\' :: 'u' :: hex 4 c.toNat
  else '\\' :: 'U' :: hex 8 c.toNat

/-- The quote for a text: the double one only when the text has a single quote and no double. -/
def chooseQuote (cs : List Char) : Char :=
  if cs.contains '\'' && !cs.contains '"' then '"' else '\''

/-- A code inside quotes. Half of a surrogate pair is written by its number. -/
def escapeCode (quote : Char) (n : Nat) : List Char :=
  if isHalf n then '\\' :: 'u' :: hex 4 n else escapeChar quote (Char.ofNat n)

/-- A text in quotes. -/
def quote (s : String) : String :=
  let cs := s.toList
  let q := chooseQuote cs
  String.ofList (q :: (codes cs).flatMap (escapeCode q) ++ [q])

/-- A byte string in quotes. -/
def quoteBytes (bs : List UInt8) : String :=
  let cs := bs.map fun b => Char.ofNat b.toNat
  let q := chooseQuote cs
  let escape (c : Char) : List Char :=
    if c.toNat < 0x7F then escapeChar q c else '\\' :: 'x' :: hex 2 c.toNat
  String.ofList ('b' :: q :: cs.flatMap escape ++ [q])

end Text

/-- The numbers of a date in a message. -/
def Date.quoted (d : Date) : String := s!"datetime.date({d.year}, {d.month}, {d.day})"

/-- The offset of a moment in a message. A negative one is whole days below and seconds above. -/
def quotedOffset (offset : Int) : String :=
  if offset = 0 then "datetime.timezone.utc"
  else if offset < 0 then
    s!"datetime.timezone(datetime.timedelta(days=-1, seconds={86400 + offset}))"
  else s!"datetime.timezone(datetime.timedelta(seconds={offset}))"

/-- The numbers of a moment in a message; seconds and microseconds are left out when all that
follows is zero. -/
def Moment.quoted (t : Moment) : String :=
  let day := s!"{t.date.year}, {t.date.month}, {t.date.day}"
  let head := s!"datetime.datetime({day}, {t.hour}, {t.minute}"
  let seconds := if t.second = 0 && t.micro = 0 then "" else s!", {t.second}"
  let micros := if t.micro = 0 then "" else s!", {t.micro}"
  let zone :=
    match t.offset with
    | some o => ", tzinfo=" ++ quotedOffset o
    | none => ""
  head ++ seconds ++ micros ++ zone ++ ")"

namespace Value

/-- The text of a truth value. -/
def boolText (b : Bool) : String := if b then "True" else "False"

/-- Whether an origin is that of one of the collections around. -/
def isAround (around : List Origin) (o : Origin) : Bool := o.path.isSome && around.contains o

mutual
/-- A value in a message, inside collections of the given origins. A collection inside itself is
shown by its brackets alone. -/
def quotedIn (around : List Origin) : Value → String
  | .null => "None"
  | .bool b => boolText b
  | .int n => toString n
  | .float x => x.render Binary64.plainLayout
  | .str s => Text.quote s
  | .bytes bs => Text.quoteBytes bs
  | .date _ d => d.quoted
  | .moment _ t => t.quoted
  | .list o items =>
    if isAround around o then "[...]"
    else "[" ++ String.intercalate ", " (quotedItems (o :: around) items) ++ "]"
  | .tuple o items =>
    if isAround around o then "(...)"
    else
      "(" ++ String.intercalate ", " (quotedItems (o :: around) items)
        ++ (if items.length = 1 then ",)" else ")")
  | .set _ items =>
    if items.isEmpty then "set()"
    else "\x7b" ++ String.intercalate ", " (quotedItems around items) ++ "\x7d"
  | .map o es =>
    if isAround around o then "\x7b...\x7d"
    else "\x7b" ++ String.intercalate ", " (quotedEntries (o :: around) es) ++ "\x7d"
  | .enclosing _ isMap => if isMap then "\x7b...\x7d" else "[...]"

/-- The items of a list in a message. -/
def quotedItems (around : List Origin) : List Value → List String
  | [] => []
  | v :: vs => quotedIn around v :: quotedItems around vs

/-- The entries of a mapping in a message. -/
def quotedEntries (around : List Origin) : List (Value × Value) → List String
  | [] => []
  | (k, v) :: es => (quotedIn around k ++ ": " ++ quotedIn around v) :: quotedEntries around es
end

/-- A value in a message, with its texts in quotes. -/
def quoted (v : Value) : String := quotedIn [] v

/-- A value as a text of its own. -/
def plain : Value → String
  | .str s => s
  | .date _ d => d.render
  | .moment _ t => t.render " "
  | v => quoted v

mutual
/-- Whether every integer in a value can be written. -/
def hasText : Value → Bool
  | .int n => Literal.hasDecimal n
  | .list _ items => haveText items
  | .tuple _ items => haveText items
  | .set _ items => haveText items
  | .map _ es => entriesHaveText es
  | _ => true

/-- Whether every integer in some values can be written. -/
def haveText : List Value → Bool
  | [] => true
  | v :: vs => hasText v && haveText vs

/-- Whether every integer in the entries of a mapping can be written. -/
def entriesHaveText : List (Value × Value) → Bool
  | [] => true
  | (k, v) :: es => hasText k && hasText v && entriesHaveText es
end

theorem haveText_eq_all (vs : List Value) : haveText vs = vs.all hasText := by
  induction vs with
  | nil => rfl
  | cons v vs ih => simp [haveText, ih]

theorem plain_str (s : String) : plain (.str s) = s := rfl

theorem plain_int (n : Int) : plain (.int n) = quoted (.int n) := rfl

end Value

end Automation
