import Automation.Failure

/-!
# Writing JSON

A document value as a JSON text in ASCII. Dates, byte strings and sets have no text in JSON, nor do
keys other than texts, numbers, truth values and null; nor does an integer with too many digits, or
a collection inside itself. Of several faults in a value the first in the order of writing counts.
-/

namespace Automation.Json

/-- A code unit as an escape. -/
def escapeUnit (n : Nat) : List Char := '\\' :: 'u' :: Text.hex 4 n

/-- A code inside a string. Half of a surrogate pair is a unit like any other. -/
def escapeCode (n : Nat) : List Char :=
  if n < 0x80 then
    match Char.ofNat n with
    | '"' => ['\\', '"']
    | '\\' => ['\\', '\\']
    | '\n' => ['\\', 'n']
    | '\r' => ['\\', 'r']
    | '\t' => ['\\', 't']
    | '\x08' => ['\\', 'b']
    | '\x0c' => ['\\', 'f']
    | c => if 0x20 ≤ n && n < 0x7F then [c] else escapeUnit n
  else if n < 0x10000 then escapeUnit n
  else escapeUnit (0xD800 + (n - 0x10000) / 0x400) ++ escapeUnit (0xDC00 + (n - 0x10000) % 0x400)

/-- A string in quotes. -/
def quote (s : String) : String :=
  String.ofList ('"' :: (Text.codes s.toList).flatMap escapeCode ++ ['"'])

/-- Numbers that are none or not finite are words. -/
def numberLayout : Binary64.DecimalLayout := ⟨"NaN", "Infinity", "-Infinity", false⟩

/-- The text of a value without parts. -/
def scalar : Value → Outcome String
  | .null => .ok "null"
  | .bool b => .ok (if b then "true" else "false")
  | .int n => if Literal.hasDecimal n then .ok (toString n) else Outcome.fault .value
  | .float x => .ok (x.render numberLayout)
  | .str s => .ok (quote s)
  | .enclosing .. => Outcome.fault .value
  | _ => Outcome.fault .type

/-- The text of a key. -/
def key : Value → Outcome String
  | .str s => .ok (quote s)
  | .enclosing .. => Outcome.fault .type
  | v => do return "\"" ++ (← scalar v) ++ "\""

/-- The line break and the indentation of an item, or nothing when all is on one line. -/
def lineStart (indent : Option Nat) (depth : Nat) : String :=
  match indent with
  | some width => "\n" ++ String.ofList (List.replicate (width * depth) ' ')
  | none => ""

/-- What stands between two items. -/
def separator (indent : Option Nat) (depth : Nat) : String :=
  match indent with
  | some _ => "," ++ lineStart indent depth
  | none => ", "

/-- Items between two brackets. -/
def bracket (indent : Option Nat) (depth : Nat) (opening closing : String) (items : List String) :
    String :=
  if items.isEmpty then opening ++ closing
  else
    opening ++ lineStart indent (depth + 1)
      ++ String.intercalate (separator indent (depth + 1)) items
      ++ lineStart indent depth ++ closing

mutual
/-- The text of a value, in lines with the given indentation or on one line. -/
def textOf (indent : Option Nat) (depth : Nat) : Value → Outcome String
  | .list _ items => do
    return bracket indent depth "[" "]" (← itemTexts indent (depth + 1) items)
  | .tuple _ items => do
    return bracket indent depth "[" "]" (← itemTexts indent (depth + 1) items)
  | .map _ es => do
    return bracket indent depth "\x7b" "\x7d" (← memberTexts indent (depth + 1) es)
  | v => scalar v

/-- The texts of the items of an array. -/
def itemTexts (indent : Option Nat) (depth : Nat) : List Value → Outcome (List String)
  | [] => .ok []
  | v :: vs => do
    let text ← textOf indent depth v
    return text :: (← itemTexts indent depth vs)

/-- The texts of the members of an object. -/
def memberTexts (indent : Option Nat) (depth : Nat) :
    List (Value × Value) → Outcome (List String)
  | [] => .ok []
  | (k, v) :: es => do
    let name ← key k
    let text ← textOf indent depth v
    return (name ++ ": " ++ text) :: (← memberTexts indent depth es)
end

/-- The text of a value with two blanks of indentation for each level. -/
def indented (v : Value) : Outcome String := textOf (some 2) 0 v

/-- The text of a value on one line. -/
def inline (v : Value) : Outcome String := textOf none 0 v

example : (textOf none 0 (.ofItems [.bool true, .null])).toOption = some "[true, null]" := by cbv

end Automation.Json
