import Automation.Text.Base64
import Automation.Yaml.Node
import Automation.Yaml.Pen

/-!
# Writing YAML

A document value as a YAML text in block style. Texts are quoted where a plain scalar would be read
as something else. A value that is written once and used twice gets a name at its first place and is
an alias at the others; names are given in the order in which second uses are found.
-/

namespace Automation.Yaml

/-- The name of a value that occurs more than once, and the values met on the way. -/
structure Sharing where
  seen : List (List Place) := []
  shared : List (List Place) := []

namespace Sharing

/-- Notes a place; tells whether what is there has not been met before. -/
def visit (s : Sharing) (origin : Origin) : Sharing × Bool :=
  match origin.path with
  | none => (s, true)
  | some path =>
    if s.seen.contains path then
      (if s.shared.contains path then s else { s with shared := s.shared ++ [path] }, false)
    else ({ s with seen := path :: s.seen }, true)

mutual
/-- The values that occur more than once in a value. What is met again is not searched again. -/
def ofValue (s : Sharing) : Value → Sharing
  | .date o _ => (s.visit o).1
  | .moment o _ => (s.visit o).1
  | .list o items =>
    let (s, isNew) := s.visit o
    if isNew then ofItems s items else s
  | .tuple o items =>
    if items.isEmpty then s
    else
      let (s, isNew) := s.visit o
      if isNew then ofItems s items else s
  | .set o items =>
    let (s, isNew) := s.visit o
    if isNew then ofItems s items else s
  | .map o es =>
    let (s, isNew) := s.visit o
    if isNew then ofEntries s es else s
  | .enclosing o _ => (s.visit o).1
  | _ => s

/-- The values that occur more than once in a list. -/
def ofItems (s : Sharing) : List Value → Sharing
  | [] => s
  | v :: vs => ofItems (ofValue s v) vs

/-- The values that occur more than once in a mapping. -/
def ofEntries (s : Sharing) : List (Value × Value) → Sharing
  | [] => s
  | (k, v) :: es => ofEntries (ofValue (ofValue s k) v) es
end

end Sharing

/-- The layout of numbers: words for what is no number, and always a point. -/
def numberLayout : Binary64.DecimalLayout := ⟨".nan", ".inf", "-.inf", true⟩

/-- The tag and the text of a value without parts. -/
def scalar? : Value → Option (Tag × String)
  | .null => some (.null, "null")
  | .bool b => some (.bool, if b then "true" else "false")
  | .int n => some (.int, toString n)
  | .float x => some (.float, x.render numberLayout)
  | .str s => some (.str, s)
  | .bytes bs => some (.binary, String.ofList (Text.Base64.encode bs))
  | .date _ d => some (.timestamp, d.render)
  | .moment _ t => some (.timestamp, t.render " ")
  | _ => none

/-- The text of a tag. -/
def Tag.text (t : Tag) : String := "!!" ++ ((Tag.names.find? fun e => e.2 = t).map (·.1)).getD ""

/-- Where a value stands. -/
inductive Position where
  | root | item | key | explicitKey | mappingValue
  deriving DecidableEq

/-- What is being written: the text, the names of shared values, and those already written. -/
structure Writer where
  pen : Pen := {}
  names : List (List Place)
  written : List (List Place) := []

namespace Writer

def onPen (w : Writer) (f : Pen → Pen) : Writer := { w with pen := f w.pen }

/-- The name of the shared value with an origin. -/
def name? (w : Writer) (origin : Origin) : Option String :=
  origin.path.bind fun path =>
    (w.names.findIdx? (· == path)).map fun i => "id" ++ padded 3 (i + 1)

/-- Whether the value with an origin has been written. -/
def isWritten (w : Writer) (origin : Origin) : Bool :=
  origin.path.any fun path => w.written.contains path

/-- Writes the name of a shared value in front of it. -/
def anchor (w : Writer) (origin : Origin) : Writer :=
  match w.name? origin, origin.path with
  | some name, some path =>
    { w.onPen (·.mark ("&" ++ name) true false false) with written := path :: w.written }
  | _, _ => w

/-- Writes a value without parts. Inside a key nothing is folded and nothing has lines. -/
def scalar (w : Writer) (position : Position) (indent : Nat) (tag : Tag) (text : String) : Writer :=
  let cs := text.toList
  let shape := TextShape.of cs
  let inKey : Bool := position = .key
  let isPlain := Tag.ofKind (ScalarKind.kindOf cs) = tag
  let fold := !inKey
  if tag = .binary then
    let w := w.onPen (·.mark tag.text true false false)
    if !inKey && shape.allowsBlock cs then w.onPen (·.literal indent cs)
    else w.onPen (·.doubleQuoted indent fold cs)
  else if isPlain && shape.allowsPlain && !(inKey && shape.isEmpty) then
    w.onPen (·.plainScalar indent fold (position = .root) cs)
  else
    let w := if tag = .str then w else w.onPen (·.mark tag.text true false false)
    if shape.allowsSingle && !(inKey && shape.multiline) then
      w.onPen (·.singleQuoted indent fold cs)
    else w.onPen (·.doubleQuoted indent fold cs)

/-- Whether a key can stand in front of its colon on one line: an alias, a short scalar of one line
that is not empty, or an empty collection. -/
def isShortKey (w : Writer) (k : Value) : Bool :=
  let origin := k.origin
  let nameLength := ((w.name? origin).map String.length).getD 0
  if w.isWritten origin then nameLength < 128
  else
    match scalar? k with
    | some (tag, text) =>
      let shape := TextShape.of text.toList
      nameLength + tag.text.length + Text.length text < 128 && !shape.isEmpty && !shape.multiline
    | none =>
      match k with
      | .list _ items => items.isEmpty
      | .tuple _ items => items.isEmpty
      | .set _ items => items.isEmpty
      | .map _ es => es.isEmpty
      | _ => false

/-- An empty collection. -/
def emptyCollection (w : Writer) (opening closing : String) : Writer :=
  (w.onPen (·.mark opening true true false)).onPen (·.mark closing false false false)

/-- Where the entries of a mapping are indented to. -/
def inner (indent : Option Nat) : Nat := indent.elim 0 (· + 2)

/-- Where the items of a sequence are indented to. The value of a key is not indented, unless it
starts on the line of a question mark. -/
def sequenceIndent (w : Writer) (position : Position) (indent : Option Nat) : Nat :=
  if (position = .mappingValue || position = .explicitKey) && !w.pen.fresh then indent.getD 0
  else inner indent

mutual
/-- Writes a value at a position; `indent` is the column of the collection around it. -/
def node (w : Writer) (position : Position) (indent : Option Nat) (v : Value) : Writer :=
  let origin := v.origin
  if w.isWritten origin && (w.name? origin).isSome then
    w.onPen (·.mark ("*" ++ (w.name? origin).getD "") true false false)
  else
    let w := w.anchor origin
    match v with
    | .list _ items =>
      if items.isEmpty then w.emptyCollection "[" "]"
      else w.items (w.sequenceIndent position indent) items
    | .tuple _ items =>
      if items.isEmpty then w.emptyCollection "[" "]"
      else w.items (w.sequenceIndent position indent) items
    | .set _ items =>
      let w := w.onPen (·.mark Tag.set.text true false false)
      if items.isEmpty then w.emptyCollection "\x7b" "\x7d"
      else w.members (inner indent) items
    | .map _ es =>
      if es.isEmpty then w.emptyCollection "\x7b" "\x7d" else w.pairs (inner indent) es
    | _ =>
      match scalar? v with
      | some (tag, text) => w.scalar position (indent.elim 2 (· + 2)) tag text
      | none => w

/-- Writes the items of a sequence. -/
def items (w : Writer) (indent : Nat) : List Value → Writer
  | [] => w
  | v :: vs =>
    let w := w.onPen fun p => (p.indentTo indent).mark "-" true false true
    items (node w .item (some indent) v) indent vs

/-- Writes the entries of a mapping. -/
def pairs (w : Writer) (indent : Nat) : List (Value × Value) → Writer
  | [] => w
  | (k, v) :: es =>
    let w := w.onPen (·.indentTo indent)
    let w :=
      if w.isShortKey k then
        (node w .key (some indent) k).onPen (·.mark ":" false false false)
      else
        let w := w.onPen (·.mark "?" true false true)
        (node w .explicitKey (some indent) k).onPen fun p =>
          (p.indentTo indent).mark ":" true false true
    pairs (node w .mappingValue (some indent) v) indent es

/-- Writes the members of a set, as keys without values. -/
def members (w : Writer) (indent : Nat) : List Value → Writer
  | [] => w
  | k :: ks =>
    let w := w.onPen (·.indentTo indent)
    let w :=
      if w.isShortKey k then
        (node w .key (some indent) k).onPen (·.mark ":" false false false)
      else
        let w := w.onPen (·.mark "?" true false true)
        (node w .explicitKey (some indent) k).onPen fun p =>
          (p.indentTo indent).mark ":" true false true
    members (w.scalar .mappingValue (indent + 2) .null "null") indent ks
end

end Writer

/-- The text of a value whose integers can all be written. A text that is a single plain scalar is
closed with a mark. -/
def textOf (v : Value) : String :=
  let w := Writer.node { names := (Sharing.ofValue {} v).shared } .root none v
  let p := w.pen.indentTo 0
  let p := if p.openEnded then (p.mark "..." true false false).indentTo 0 else p
  p.out

/-- The text of a value. An integer with too many digits is a fault. -/
def render (v : Value) : Outcome String :=
  if v.hasText then .ok (textOf v) else Outcome.fault .value

end Automation.Yaml
