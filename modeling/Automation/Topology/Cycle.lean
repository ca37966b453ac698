import Automation.Graph.Walk

/-!
# Back edges

The edges that close a cycle, found by a depth-first search from the triggers and then from every
node. The search keeps the path to the node it is at, with the edges still to follow from each node
on it; an edge to a node on that path is a back edge.
-/

namespace Automation

namespace Graph

/-- A node on the path of a search, and the edges out of it that are still to be followed. -/
structure Frame where
  id : String
  rest : List Edge
  deriving Repr

/-- Where a depth-first search is: the path with the deepest node first, the nodes met so far, and
the back edges found, the latest first. -/
structure Search where
  path : List Frame := []
  met : List String := []
  back : List Edge := []
  deriving Repr

namespace Search

/-- Enters a node. -/
def enter (g : Graph) (s : Search) (id : String) : Search :=
  { s with path := ⟨id, g.outEdges id⟩ :: s.path, met := id :: s.met }

/-- Follows an edge: notes it when it leads to a node on the path, enters its target when that is
new. The edge is already taken off the path. -/
def follow (g : Graph) (s : Search) (e : Edge) : Search :=
  if s.path.any (·.id == e.target) then { s with back := e :: s.back }
  else if s.met.contains e.target then s
  else s.enter g e.target

/-- How many edges can still be followed, twice, and how many nodes have to be left. -/
def remaining (g : Graph) (s : Search) : Nat :=
  2 * (g.unspent s.met + (s.path.flatMap (·.rest)).length) + s.path.length

/-- Entering a new node adds only the step that leaves it again. -/
theorem remaining_enter (g : Graph) (s : Search) {id : String} (h : s.met.contains id = false) :
    (s.enter g id).remaining g = s.remaining g + 1 := by
  have := g.unspent_cons h
  simp only [remaining, enter, List.flatMap_cons, List.length_append, List.length_cons]
  omega

/-- Following an edge adds at most the step that leaves its target again. -/
theorem remaining_follow (g : Graph) (s : Search) (e : Edge) :
    (s.follow g e).remaining g ≤ s.remaining g + 1 := by
  unfold follow
  split
  · simp [remaining]
  · split
    · omega
    · rename_i h
      exact Nat.le_of_eq (s.remaining_enter g (by simpa using h))

/-- The search once every node on the path has been left. -/
def finish (g : Graph) (s : Search) : Search :=
  match _hs : s.path with
  | [] => s
  | ⟨_, []⟩ :: path => finish g { s with path }
  | ⟨id, e :: rest⟩ :: path => finish g ({ s with path := ⟨id, rest⟩ :: path }.follow g e)
termination_by s.remaining g
decreasing_by
  · simp [remaining, _hs]
  · refine Nat.lt_of_le_of_lt (remaining_follow g _ e) ?_
    simp only [remaining, _hs, List.flatMap_cons, List.length_append, List.length_cons]
    omega

/-- The search from a further root. -/
def root (g : Graph) (s : Search) (id : String) : Search :=
  if s.met.contains id then s else (s.enter g id).finish g

end Search

/-- The edges of a depth-first search that lead back to a node on the path, in the order in which
they are found. -/
def backEdges (g : Graph) : List Edge :=
  ((g.triggers.map (·.id) ++ g.nodes.map (·.id)).foldl (Search.root g) {}).back.reverse

end Graph

end Automation
