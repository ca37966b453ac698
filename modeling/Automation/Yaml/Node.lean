import Automation.Yaml.ScalarKind
import Automation.Yaml.Tree

/-!
# Nodes

A document with its aliases resolved and its tags decided. Its nodes are kept in a table, where a
collection holds the numbers of its parts. An alias is the number of the node that it names, so that
what is written once and used twice can be told from what is written twice, and a collection may be
a part of itself.
-/

namespace Automation.Yaml

/-- The tag of a node. -/
inductive Tag where
  | null | bool | int | float | binary | timestamp | omap | pairs | set | str | seq | map
  | merge | value
  /-- a tag that stands for nothing -/
  | unknown
  deriving DecidableEq, Repr, Inhabited

namespace Tag

/-- The tags of the common schema by their last part. -/
def names : List (String × Tag) :=
  [("null", .null), ("bool", .bool), ("int", .int), ("float", .float), ("binary", .binary),
    ("timestamp", .timestamp), ("omap", .omap), ("pairs", .pairs), ("set", .set), ("str", .str),
    ("seq", .seq), ("map", .map), ("merge", .merge), ("value", .value)]

/-- The tag with the given absolute name. -/
def ofName (name : String) : Tag :=
  ((names.find? fun e => name == "tag:yaml.org,2002:" ++ e.1).map (·.2)).getD .unknown

/-- The tag of a scalar whose text decides. -/
def ofKind : ScalarKind → Tag
  | .null => .null
  | .bool => .bool
  | .int => .int
  | .float => .float
  | .timestamp => .timestamp
  | .merge => .merge
  | .value => .value
  | .indicator => .unknown
  | .text => .str

/-- Whether a tag stands for a collection. -/
def isCollection : Tag → Bool
  | .seq | .map | .set | .omap | .pairs => true
  | _ => false

end Tag

/-- What a node consists of. Parts are given by their numbers. -/
inductive Content where
  | scalar (text : List Char)
  | sequence (items : List Nat)
  | mapping (pairs : List (Nat × Nat))
  deriving Repr, Inhabited

/-- A node of a document. -/
structure Node where
  tag : Tag
  content : Content
  deriving Repr, Inhabited

/-- The nodes of a document, each at its number. -/
abbrev Nodes := Array Node

/-- The pairs of a mapping; no other node has any. -/
def Nodes.pairs (nodes : Nodes) (n : Nat) : List (Nat × Nat) :=
  match (nodes[n]?.getD default).content with
  | .mapping pairs => pairs
  | _ => []

/-- The nodes read so far. -/
structure Composition where
  nodes : Nodes := #[]
  /-- the named nodes -/
  anchors : List (String × Nat) := []
  /-- the collections around -/
  around : List Nat := []
  /-- whether a collection has been named inside itself -/
  isKnotted : Bool := false

namespace Composition

/-- A further node, which takes a name that no other node has. -/
def add? (c : Composition) (anchor : Option String) (node : Node) : Option (Nat × Composition) :=
  let number := c.nodes.size
  let c := { c with nodes := c.nodes.push node }
  match anchor with
  | none => some (number, c)
  | some name =>
    if (c.anchors.lookup name).isSome then none
    else some (number, { c with anchors := (name, number) :: c.anchors })

/-- The node of an alias. -/
def named? (c : Composition) (name : String) : Option (Nat × Composition) :=
  (c.anchors.lookup name).map fun number =>
    (number, { c with isKnotted := c.isKnotted || c.around.contains number })

/-- A collection whose parts follow. -/
def enter (c : Composition) (number : Nat) : Composition :=
  { c with around := number :: c.around }

/-- A collection whose parts have been read. -/
def leave (c : Composition) (number : Nat) (content : Content) : Composition :=
  { c with
    nodes := c.nodes.modify number fun node => { node with content }
    around := c.around.drop 1 }

/-- The tag of a collection, given by its name or by its form. -/
def collectionTag (p : Properties) (byForm : Tag) : Tag := (p.tag.map Tag.ofName).getD byForm

mutual
/-- Reads the nodes of a tree, and tells the number of its root. -/
def ofTree? (c : Composition) : Tree → Option (Nat × Composition)
  | .repeated name => c.named? name
  | .scalar p text byForm =>
    let cs := text.toList
    let tag := match p.tag with
      | some t => Tag.ofName t
      | none => if byForm then Tag.ofKind (ScalarKind.kindOf cs) else .str
    c.add? p.anchor ⟨tag, .scalar cs⟩
  | .sequence p items => do
    let (number, c) ← c.add? p.anchor ⟨collectionTag p .seq, .sequence []⟩
    let (items, c) ← ofTrees? (c.enter number) items
    return (number, c.leave number (.sequence items))
  | .mapping p pairs => do
    let (number, c) ← c.add? p.anchor ⟨collectionTag p .map, .mapping []⟩
    let (pairs, c) ← ofTreePairs? (c.enter number) pairs
    return (number, c.leave number (.mapping pairs))

/-- Reads the nodes of a list of trees. -/
def ofTrees? (c : Composition) : List Tree → Option (List Nat × Composition)
  | [] => some ([], c)
  | t :: ts => do
    let (number, c) ← ofTree? c t
    let (numbers, c) ← ofTrees? c ts
    return (number :: numbers, c)

/-- Reads the nodes of a list of pairs of trees. -/
def ofTreePairs? (c : Composition) : List (Tree × Tree) → Option (List (Nat × Nat) × Composition)
  | [] => some ([], c)
  | (k, v) :: ts => do
    let (key, c) ← ofTree? c k
    let (value, c) ← ofTree? c v
    let (pairs, c) ← ofTreePairs? c ts
    return ((key, value) :: pairs, c)
end

end Composition

end Automation.Yaml
