import Automation.Graph.Basic

/-!
# Editing graphs

The changes that an editor makes to a graph one at a time. Nodes and edges are added at the end. A
node is taken away without its edges, and nothing is checked: an edited graph may be malformed until
further changes mend it. Removing a node that was added under a new id leaves no trace
(`removeNode?_addNode`).
-/

namespace Automation.Graph

/-- The position of the first node with an id. -/
def nodeIndex? (g : Graph) (id : String) : Option Nat := g.nodes.findIdx? (·.id == id)

/-- A graph with a further node. -/
def addNode (g : Graph) (n : Node) : Graph := { g with nodes := g.nodes ++ [n] }

/-- A graph without the first node with an id. Its edges stay. -/
def removeNode? (g : Graph) (id : String) : Option Graph :=
  (g.nodeIndex? id).map fun i => { g with nodes := g.nodes.eraseIdx i }

/-- A graph with the first node with an id changed. -/
def modifyNode? (g : Graph) (id : String) (f : Node → Node) : Option Graph :=
  (g.nodeIndex? id).map fun i => { g with nodes := g.nodes.modify i f }

/-- A graph with a further edge. -/
def addEdge (g : Graph) (e : Edge) : Graph := { g with edges := g.edges ++ [e] }

/-- A graph without the edges with an id. -/
def removeEdges (g : Graph) (id : String) : Graph :=
  { g with edges := g.edges.filter fun e => !(e.id == id) }

/-- A node has a position exactly when it can be looked up. -/
theorem isSome_nodeIndex? (g : Graph) (id : String) :
    (g.nodeIndex? id).isSome = (g.node? id).isSome := by
  rw [nodeIndex?, node?, List.findIdx?_isSome, Bool.eq_iff_iff, List.find?_isSome, List.any_eq_true]

/-- A node that is added under a new id and removed again leaves no trace. -/
theorem removeNode?_addNode {g : Graph} {n : Node} (h : g.nodeIndex? n.id = none) :
    (g.addNode n).removeNode? n.id = some g := by
  have at_end : (g.addNode n).nodeIndex? n.id = some g.nodes.length := by
    simp only [nodeIndex?] at h
    simp [nodeIndex?, addNode, List.findIdx?_append, h]
  rw [removeNode?, at_end]
  simp [addNode, List.eraseIdx_append_of_length_le]

/-- No edge with a removed id is left, and no other edge is removed. -/
theorem mem_removeEdges {g : Graph} {id : String} {e : Edge} :
    e ∈ (g.removeEdges id).edges ↔ e ∈ g.edges ∧ e.id ≠ id := by
  simp [removeEdges]

end Automation.Graph
