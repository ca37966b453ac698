import Automation.Yaml.ScalarValue

/-!
# Parts

What each node of a document stands for: a scalar has a value, and a collection has parts, which are
nodes again. Collections are filled one after another in the order in which they are met, so of
several nodes without a value the one nearest to the root counts, and of those the first.

A mapping takes over the pairs of the mappings that its merge keys name before it is filled. This
changes the nodes, for the same mapping may be merged elsewhere: `Filling.flatten`.
-/

namespace Automation.Yaml

/-- What a node stands for. -/
inductive Part where
  | atom (v : Value)
  | items (ns : List Nat)
  /-- a list of pairs -/
  | tuples (ps : List (Nat × Nat))
  | entries (es : List (Value × Nat))
  | keys (ks : List Value)
  deriving Inhabited

namespace Part

/-- The nodes that a part refers to. -/
def children : Part → List Nat
  | .atom _ => []
  | .items ns => ns
  | .tuples ps => ps.flatMap fun p => [p.1, p.2]
  | .entries es => es.map (·.2)
  | .keys _ => []

/-- Entries with a further key, in the place of one that it agrees with. -/
def insert (es : List (Value × Nat)) (key : Value) (value : Nat) : List (Value × Nat) :=
  if es.any fun e => e.1.agrees key then
    es.map fun e => if e.1.agrees key then (e.1, value) else e
  else es ++ [(key, value)]

end Part

/-- What is known of the nodes of a document while they are filled. -/
structure Filling where
  nodes : Nodes
  parts : Array (Option Part)
  /-- how many pairs all mappings have as they are written -/
  pairCount : Nat
  /-- the collections met so far -/
  met : Array Nat := #[]

namespace Filling

/-- A step that may fail. -/
abbrev Step (α : Type) := StateT Filling Outcome α

def lift {α : Type} (o : Outcome α) : Step α := StateT.lift o

def node (n : Nat) : Step Node := do return (← get).nodes[n]?.getD default

def part? (n : Nat) : Step (Option Part) := do return ((← get).parts[n]?).join

def setPart (n : Nat) (p : Part) : Step Unit :=
  modify fun s => { s with parts := s.parts.setIfInBounds n (some p) }

def setPairs (n : Nat) (pairs : List (Nat × Nat)) : Step Unit :=
  modify fun s => { s with nodes := s.nodes.modify n fun node =>
    { node with content := .mapping pairs } }

/-- The text of a node that is to be a scalar: its own, or that of the value of the key `=`. -/
def scalarText? (nodes : Nodes) : Nat → Nat → Option (List Char)
  | 0, _ => none
  | fuel + 1, n =>
    match (nodes[n]?.getD default).content with
    | .scalar text => some text
    | .sequence _ => none
    | .mapping pairs =>
      match pairs.find? fun p => (nodes[p.1]?.getD default).tag = .value with
      | some p => scalarText? nodes fuel p.2
      | none => none

/-- The value of a node whose tag is that of a scalar. Only a scalar itself can be a timestamp. -/
def scalarValue (nodes : Nodes) (reading n : Nat) : Outcome Value := do
  let node := nodes[n]?.getD default
  match scalarText? nodes (nodes.size + 1) n, node.tag, node.content with
  | none, _, _ => invalid
  | some _, .timestamp, .mapping _ => Outcome.fault .type
  | some text, tag, _ => Scalar.ofTag n ((reading + 1) * Binary64.pow2 24 + n) tag text

/-- Meets a node: a scalar gets its value at once, a collection is filled later. -/
def meet (reading n : Nat) : Step Unit := do
  if (← part? n).isSome then return
  if (← node n).tag.isCollection then
    setPart n (.items [])
    modify fun s => { s with met := s.met.push n }
  else setPart n (.atom (← lift (scalarValue (← get).nodes reading n)))

/-! ## Merge keys -/

/-- Removes the first merge key of a mapping, and tells the node that it names. -/
def takeMerge (n : Nat) : Step (Option Nat) := do
  let nodes := (← get).nodes
  let isMerge (p : Nat × Nat) : Bool := (nodes[p.1]?.getD default).tag = .merge
  let pairs := nodes.pairs n
  match pairs.find? isMerge with
  | none => return none
  | some p =>
    setPairs n (pairs.eraseIdx (pairs.findIdx isMerge))
    return some p.2

/-- Makes the keys `=` of a mapping plain texts. -/
def settleKeys (n : Nat) : Step Unit := do
  let settled (node : Node) : Node :=
    if node.tag = .value then { node with tag := .str } else node
  let pairs := (← get).nodes.pairs n
  modify fun s => { s with
    nodes := pairs.foldl (fun nodes p => nodes.modify p.1 settled) s.nodes }

/-- Puts the pairs that merge keys name in front of the others, behind those `taken` already. Of
several mappings that one merge key names the last comes first. One of two steps down takes a merge
key away, so twice the number of pairs is enough. -/
def flatten : Nat → List (Nat × Nat) → Nat → Step Unit
  | 0, _, _ => lift invalid
  | fuel + 1, taken, n => do
    match ← takeMerge n with
    | none =>
      settleKeys n
      setPairs n (taken ++ (← get).nodes.pairs n)
    | some named =>
      let pairsOf (m : Nat) : Step (List (Nat × Nat)) := do
        match (← node m).content with
        | .mapping _ =>
          flatten fuel [] m
          return (← get).nodes.pairs m
        | _ => lift invalid
      match (← node named).content with
      | .sequence items => do
        let lists ← items.mapM pairsOf
        flatten fuel (taken ++ lists.reverse.flatten) n
      | _ => do
        let pairs ← pairsOf named
        flatten fuel (taken ++ pairs) n

/-- The pairs of a mapping with its merge keys carried out. -/
def flatPairs (n : Nat) : Step (List (Nat × Nat)) := do
  flatten (2 * (← get).pairCount + 2) [] n
  return (← get).nodes.pairs n

/-! ## Filling -/

/-- The entries of a mapping. No collection is a key. -/
def entries (reading : Nat) (pairs : List (Nat × Nat)) : Step (List (Value × Nat)) :=
  pairs.foldlM (fun es p => do
    meet reading p.1
    match ← part? p.1 with
    | some (.atom key) =>
      meet reading p.2
      return Part.insert es key p.2
    | _ => lift invalid) []

/-- The only pair of a mapping. -/
def singlePair (reading n : Nat) : Step (Nat × Nat) := do
  match (← node n).content with
  | .mapping [(k, v)] =>
    meet reading k
    meet reading v
    return (k, v)
  | _ => lift invalid

/-- Fills a collection. -/
def fill (reading n : Nat) : Step Unit := do
  let node ← node n
  match node.tag, node.content with
  | .seq, .sequence items =>
    items.forM (meet reading)
    setPart n (.items items)
  | .omap, .sequence items => setPart n (.tuples (← items.mapM (singlePair reading)))
  | .pairs, .sequence items => setPart n (.tuples (← items.mapM (singlePair reading)))
  | .map, .mapping _ => setPart n (.entries (← entries reading (← flatPairs n)))
  | .set, .mapping _ =>
    setPart n (.keys ((← entries reading (← flatPairs n)).map (·.1)))
  | _, _ => lift invalid

/-- Fills the collections met so far and those met on the way, from a position on. -/
def fillFrom (reading : Nat) : Nat → Nat → Step Unit
  | 0, _ => return
  | fuel + 1, position => do
    match (← get).met[position]? with
    | none => return
    | some n =>
      fill reading n
      fillFrom reading fuel (position + 1)

end Filling

/-- What each node of a document stands for, as far as it is reached from a root. `reading` tells
apart the undefined numbers of one reading from those of another. -/
def Nodes.parts (nodes : Nodes) (reading root : Nat) : Outcome (Array (Option Part)) := do
  let fillAll : Filling.Step Unit := do
    Filling.meet reading root
    Filling.fillFrom reading (nodes.size + 1) 0
  let pairCount := ((List.range nodes.size).flatMap nodes.pairs).length
  let (_, s) ← fillAll.run { nodes, pairCount, parts := Array.replicate nodes.size none }
  return s.parts

end Automation.Yaml
