import Automation.Failure
import Automation.Graph.Walk

/-!
# Equivalence of graphs

Two graphs are equivalent when they are the same up to the ids of nodes and edges, positions and
what else does not decide a run. `Graph.canonical` numbers the nodes in the order in which a walk
from the triggers meets them; graphs with the same numbered nodes and edges are equivalent. A graph
with an edge to or from a node that is not there has no such form.
-/

namespace Automation

/-- A graph with numbers in the place of ids. -/
structure CanonicalGraph where
  nodes : List Node
  /-- source, target and handle of each edge -/
  edges : List (Nat × Nat × Option String)
  deriving Repr

namespace Graph

/-- The ids of all nodes: those that triggers lead to, depth first, and then the others. -/
def canonicalOrder (g : Graph) : List String :=
  g.depthFirst (g.triggers.map (·.id) ++ g.nodes.map (·.id))

/-- The nodes in canonical order, and the edges between their numbers. -/
def canonical (g : Graph) : Outcome CanonicalGraph := do
  let order := g.canonicalOrder
  let number (id : String) : Outcome Nat := Outcome.orFault (order.idxOf? id) .key
  let nodes ← order.mapM fun id => Outcome.orFault (g.lastNode? id) .key
  let edges ← g.edges.mapM fun e => do
    return (← number e.source, ← number e.target, e.handle)
  return { nodes, edges }

end Graph

/-- Whether two nodes do the same: kind, payload, label and flags. -/
def Node.agrees (a b : Node) : Bool :=
  a.kind.toValue.agrees b.kind.toValue
    && (Value.ofEntries a.data).same (.ofEntries b.data)
    && a.label.agrees b.label
    && (Value.ofEntries a.flags).same (.ofEntries b.flags)

namespace CanonicalGraph

/-- Whether two numbered graphs have the same nodes in order and the same edges in any order. -/
def same (a b : CanonicalGraph) : Bool :=
  a.nodes.length == b.nodes.length
    && (a.nodes.zip b.nodes).all (fun p => p.1.agrees p.2)
    && a.edges.all (b.edges.contains ·)
    && b.edges.all (a.edges.contains ·)

end CanonicalGraph

namespace Graph

/-- Whether two graphs are the same up to ids and positions. Graphs of different sizes are told
apart before anything else is asked. -/
def equivalent (a b : Graph) : Outcome Bool :=
  if a.nodes.length != b.nodes.length || a.edges.length != b.edges.length then .ok false
  else do
    let x ← a.canonical
    let y ← b.canonical
    return x.same y

/-- Graphs of different sizes are not equivalent, well formed or not. -/
theorem equivalent_of_length_ne {a b : Graph} (h : a.nodes.length ≠ b.nodes.length) :
    a.equivalent b = .ok false := by
  simp [equivalent, h]

end Graph

end Automation
