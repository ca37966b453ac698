import Automation.Failure
import Automation.Topology.Cycle

/-!
# Joins

Where the branches of a condition come together again: the first node behind it that every run
through it passes, or the end of the run. That is the immediate post-dominator of the condition in a
graph without cycles. A node without an edge, or a condition without an edge for an outcome, leads
to the end of the run there.

Nodes are handled in an order in which every node comes behind the nodes it leads to
(`releaseOrder`, backwards), and the join of a node is where the paths up from the nodes it leads to
meet (`JoinTable.meet?`). The end of the run is in the table under the name `exitName`.
-/

namespace Automation

/-- The name of the end of every run. -/
def exitName : String := "__exit__"

/-! ## An order in which edges lead forwards -/

/-- How many edges from nodes that are not released yet lead to each node. -/
abbrev Waiting := List (String × Nat)

namespace Waiting

/-- The sum of the counts. -/
def total : Waiting → Nat
  | [] => 0
  | (_, count) :: rest => count + total rest

/-- Takes one off the count of a node, and tells whether that was the last. -/
def release (id : String) : Waiting → Waiting × Bool
  | [] => ([], false)
  | (key, count) :: rest =>
    if key = id then
      match count with
      | 0 => ((key, 0) :: rest, false)
      | count + 1 => ((key, count) :: rest, count == 0)
    else
      let (rest, last) := release id rest
      ((key, count) :: rest, last)

/-- Takes one off the count of each of some nodes, and lists those for which it was the last. -/
def releaseAll (w : Waiting) : List String → Waiting × List String
  | [] => (w, [])
  | id :: ids =>
    let (w, last) := w.release id
    let (w, free) := w.releaseAll ids
    (w, if last then id :: free else free)

/-- A node becomes free only by a count that goes down. -/
theorem total_release (id : String) (w : Waiting) :
    (w.release id).1.total + (if (w.release id).2 then 1 else 0) ≤ w.total := by
  induction w with
  | nil => simp [release, total]
  | cons e rest ih =>
    obtain ⟨key, count⟩ := e
    by_cases h : key = id
    · cases count with
      | zero => simp [release, h, total]
      | succ n =>
        simp only [release, h, if_true, total]
        split
        · omega
        · omega
    · simp only [release, h, if_false]
      simp only [total] at ih ⊢
      omega

/-- As many nodes become free as the counts go down, at most. -/
theorem total_releaseAll (w : Waiting) (ids : List String) :
    (w.releaseAll ids).1.total + (w.releaseAll ids).2.length ≤ w.total := by
  induction ids generalizing w with
  | nil => simp [releaseAll]
  | cons id ids ih =>
    have h := total_release id w
    have := ih (w.release id).1
    simp only [releaseAll]
    cases hl : (w.release id).2 <;> simp [hl] at h ⊢ <;> omega

end Waiting

namespace Graph

/-- Nodes from a queue of free nodes on, each with the nodes it makes free behind it. -/
def releaseFrom (g : Graph) (w : Waiting) : List String → List String
  | [] => []
  | id :: queue =>
    let next := w.releaseAll ((g.outEdges id).map (·.target))
    id :: g.releaseFrom next.1 (queue ++ next.2)
termination_by queue => w.total + queue.length
decreasing_by
  have := w.total_releaseAll ((g.outEdges id).map (·.target))
  simp only [List.length_append, List.length_cons]
  omega

/-- The given nodes, each behind all that lead to it. Nodes that lead to nothing but each other, and
what is behind them, are left out. -/
def releaseOrder (g : Graph) (ids : List String) : List String :=
  let waiting : Waiting := ids.map fun id =>
    (id, (g.edges.filter fun e => e.target == id && ids.contains e.source).length)
  let free := (waiting.filter (·.2 == 0)).map (·.1)
  g.releaseFrom waiting (free.mergeSort fun a b => decide (a ≤ b))

end Graph

/-! ## Joins -/

/-- The join of a node, and how many joins lie between the node and the end of the run. -/
structure JoinRow where
  id : String
  join : String
  depth : Nat
  deriving DecidableEq, Repr

/-- The rows found so far, the latest first. -/
abbrev JoinTable := List JoinRow

namespace JoinTable

def join? (t : JoinTable) (id : String) : Option String := (t.find? (·.id == id)).map (·.join)

/-- The depth of a node; that of the end of the run is zero. -/
def depth? (t : JoinTable) (id : String) : Option Nat :=
  match t.find? (·.id == id) with
  | some row => some row.depth
  | none => if id = exitName then some 0 else none

/-- The first node from a node upwards that is no deeper than a level. -/
def climb? (t : JoinTable) (level : Nat) : Nat → String → Option String
  | 0, _ => none
  | fuel + 1, id => do
    if (← t.depth? id) > level then t.climb? level fuel (← t.join? id) else some id

/-- Where the paths upwards from two nodes meet. -/
def meet? (t : JoinTable) : Nat → String → String → Option String
  | 0, _, _ => none
  | fuel + 1, a, b => do
    if a = b then return a
    let a ← t.climb? (← t.depth? b) (t.length + 2) a
    let b ← t.climb? (← t.depth? a) (t.length + 2) b
    if a = b then return a
    t.meet? fuel (← t.join? a) (← t.join? b)

/-- Where the paths upwards from several nodes meet. -/
def meetAll? (t : JoinTable) : String → List String → Option String
  | a, [] => some a
  | a, b :: rest => do t.meetAll? (← t.meet? (t.length + 2) a b) rest

end JoinTable

namespace Graph

/-- Where a run can go on from a node, with the name of the end where it ends. -/
def exits? (g : Graph) (id : String) : Option (String × List String) := do
  let exit (target : Option String) : String :=
    match target with
    | some t => if t = "" then exitName else t
    | none => exitName
  if (← g.kind? id).isCondition then
    return (exit (g.whenTrue? id), [exit (g.whenFalse? id)])
  else return (exit (g.successor? id), [])

/-- The table with the row of a further node. -/
def addJoin? (g : Graph) (t : JoinTable) (id : String) : Option JoinTable := do
  let (first, others) ← g.exits? id
  let join ← t.meetAll? first others
  return ⟨id, join, (← t.depth? join) + 1⟩ :: t

/-- The joins of a set of nodes from which no edge leads out and that holds no cycle. -/
def joins (g : Graph) (ids : List String) : Outcome JoinTable :=
  Outcome.orFault ((g.releaseOrder ids).reverse.foldlM g.addJoin? []) .key

/-- The nodes that triggers lead to, without the triggers. -/
def body (g : Graph) : Outcome (List String) :=
  g.reachable.filterM fun id => do
    return !(← Outcome.orFault (g.kind? id) .key).isTrigger

/-- The graph without the edges that have the id of a back edge. -/
def forward (g : Graph) : Graph :=
  let back := g.backEdges.map (·.id)
  { g with edges := g.edges.filter fun e => !back.contains e.id }

/-- The joins of the conditions that triggers lead to, back edges left out: where a run goes on when
the block of the condition is skipped. None stands for the end of the run. -/
def blockJoins (g : Graph) : Outcome (List (String × Option String)) := do
  let table ← g.forward.joins (← g.body)
  return (table.reverse.filter fun row => g.isConditionAt row.id).map fun row =>
    (row.id, if row.join = exitName then none else some row.join)

end Graph

end Automation
