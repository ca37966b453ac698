import Automation.Graph.Basic

/-!
# Walks over a graph

The order in which nodes are met: breadth first from the triggers (`Graph.reachable`) and depth
first from given roots (`Graph.depthFirst`). Both walks carry the nodes that they have met and the
nodes that wait, and end because every node that is met for the first time uses up the edges out of
it (`unspent_cons`). Neither asks whether an edge leads to a node of the graph.
-/

namespace Automation

namespace Graph

/-- How many edges lead out of nodes that are not among the given ones. -/
def unspent (g : Graph) (seen : List String) : Nat :=
  (g.edges.filter fun e => !seen.contains e.source).length

/-- Meeting a node uses up exactly the edges out of it. -/
theorem unspent_cons (g : Graph) {seen : List String} {id : String}
    (h : seen.contains id = false) :
    g.unspent (id :: seen) + (g.outEdges id).length = g.unspent seen := by
  rw [length_outEdges]
  unfold unspent outgoing
  induction g.edges with
  | nil => rfl
  | cons e es ih =>
    by_cases hs : e.source = id
    · subst hs
      simp_all
      omega
    · by_cases hc : seen.contains e.source <;> simp_all
      omega

/-- The nodes met from a queue on, the latest first. -/
def reach (g : Graph) (seen : List String) : List String → List String
  | [] => seen
  | id :: queue =>
    if _h : seen.contains id = false then
      g.reach (id :: seen)
        (queue ++ ((g.outEdges id).map (·.target)).filter fun t => !(id :: seen).contains t)
    else g.reach seen queue
termination_by queue => g.unspent seen + queue.length
decreasing_by
  · have := g.unspent_cons _h
    have := List.length_filter_le (fun t => !(id :: seen).contains t)
      ((g.outEdges id).map (·.target))
    simp only [List.length_map] at this
    simp only [List.length_append, List.length_cons]
    omega
  · simp

/-- The nodes that some trigger leads to, in the order in which they are met. -/
def reachable (g : Graph) : List String := (g.reach [] (g.triggers.map (·.id))).reverse

/-- The nodes met by following edges from the first waiting node before the others are looked at,
the latest first. -/
def descend (g : Graph) (seen : List String) : List String → List String
  | [] => seen
  | id :: waiting =>
    if _h : seen.contains id = false then
      g.descend (id :: seen) ((g.outEdges id).map (·.target) ++ waiting)
    else g.descend seen waiting
termination_by waiting => g.unspent seen + waiting.length
decreasing_by
  · have := g.unspent_cons _h
    simp only [List.length_append, List.length_map, List.length_cons]
    omega
  · simp

/-- The nodes met depth first from the given ones, in the order in which they are met. -/
def depthFirst (g : Graph) (roots : List String) : List String := (g.descend [] roots).reverse

end Graph

end Automation
