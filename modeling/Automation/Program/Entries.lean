import Automation.Condition
import Automation.Entry
import Automation.Program.Basic

/-!
# Entries of programs

The action entries that a program is written as, the reverse of `Program.read`. A step is its
payload. A choice with one option is an if block, with the name of its condition on the block; any
other is a choose block, with the names on its options. Flags are those of the first option and
stand on the block; branches without blocks are left out where a reader does not need them.
-/

namespace Automation

namespace Entries

/-- The entries with a field set, unless there is nothing to set. -/
def setAny (es : Entries) (name : String) (items : List Value) : Entries :=
  if items.isEmpty then es else es.set name (.ofItems items)

end Entries

namespace Block

/-- The entry of a field for the name of a node, if it has one. -/
def aliasOf (n : Node) : Entries := Entries.field "alias" n.label.ifTruthy

/-- The conditions of a node as a list. -/
def conditionsOf (n : Node) : Value := .ofItems (Condition.spread n.data)

/-- An if block. -/
def ifEntry (n : Node) (whenTrue whenFalse : List Value) : Entries :=
  ((((aliasOf n).merge n.flags).set "if" (conditionsOf n)).set "then" (.ofItems whenTrue)).setAny
    "else" whenFalse

/-- A choose block. -/
def chooseEntry (flags : Entries) (options otherwise : List Value) : Entries :=
  ((Entries.merge [] flags).set "choose" (.ofItems options)).setAny "default" otherwise

/-- An option of a choose block. -/
def optionEntry (n : Node) (body : List Value) : Entries :=
  aliasOf n ++ [(.str "conditions", conditionsOf n), (.str "sequence", .ofItems body)]

/-- The flags of the first option. -/
def headFlags : List (Node × List Block) → Entries
  | [] => []
  | (n, _) :: _ => n.flags

mutual
/-- The entry of a block. -/
def toEntries : Block → Entries
  | step node => node.data
  | choice options otherwise =>
    let bodies := bodyValues options
    match options with
    | [(n, _)] => ifEntry n (bodies.headD []) (listValues otherwise)
    | _ => chooseEntry (headFlags options)
        ((options.zip bodies).map fun o => .ofEntries (optionEntry o.1.1 o.2))
        (listValues otherwise)

/-- The entries of a list of blocks. -/
def listValues : List Block → List Value
  | [] => []
  | b :: bs => .ofEntries (toEntries b) :: listValues bs

/-- The entries of the body of each option. -/
def bodyValues : List (Node × List Block) → List (List Value)
  | [] => []
  | (_, body) :: rest => listValues body :: bodyValues rest
end

theorem listValues_eq_map (bs : List Block) :
    listValues bs = bs.map fun b => .ofEntries (toEntries b) := by
  induction bs with
  | nil => rfl
  | cons b bs ih => simp [listValues, ih]

theorem bodyValues_eq_map (options : List (Node × List Block)) :
    bodyValues options = options.map fun o => listValues o.2 := by
  induction options with
  | nil => rfl
  | cons o os ih => simp [bodyValues, ih]

end Block

/-- The entry that a node by itself is written as: its payload. Nodes of foreign kinds have none,
and a kind that is a collection cannot even be looked up. -/
def Node.entry (n : Node) : Outcome Entries :=
  match n.kind with
  | .foreign kind =>
    if kind.isKey then Outcome.malformed (.unknownNodeKind kind) else Outcome.fault .type
  | _ => .ok n.data

namespace Program

/-- The payloads of nodes, as entries of a list. -/
def payloads (nodes : List Node) : List Value := nodes.map fun n => .ofEntries n.data

/-- The action entries of a program. -/
def actions (p : Program) : List Value := Block.listValues p.body

end Program

end Automation
