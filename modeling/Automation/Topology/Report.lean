import Automation.Graph.Structure
import Automation.Topology.Join

/-!
# Topology reports

Whether a graph can be written with branching blocks alone. It can when it has no cycle, all
triggers lead to the same first node, and the walk that writes it, which takes each branch of a
condition up to the join of the condition and goes on from there, meets no node twice
(`TopologyReport.isNative`). Any other graph needs a dispatch loop.
-/

namespace Automation

/-- How a document expresses a graph. -/
inductive Strategy where
  /-- with branching blocks -/
  | native
  /-- with a dispatch loop over one state variable -/
  | dispatch
  deriving DecidableEq, Repr

/-- The name of a strategy in documents. -/
def Strategy.name : Strategy → String
  | .native => "native"
  | .dispatch => "state-machine"

/-- The strategy with a name. -/
def Strategy.ofName? : String → Option Strategy
  | "native" => some .native
  | "state-machine" => some .dispatch
  | _ => none

theorem Strategy.ofName?_name (s : Strategy) : ofName? s.name = some s := by
  cases s <;> rfl

namespace Graph

/-- How many nodes have an id that is not among the given ones. -/
def unmet (g : Graph) (met : List String) : Nat :=
  (g.nodes.filter fun n => !met.contains n.id).length

/-- Meeting the id of a node leaves fewer nodes to meet. -/
theorem unmet_cons_lt {g : Graph} {met : List String} {id : String} {kind : NodeKind}
    (hk : g.kind? id = some kind) (h : met.contains id = false) :
    g.unmet (id :: met) < g.unmet met := by
  obtain ⟨n, hn, -⟩ := Option.map_eq_some_iff.1 hk
  have hmem : n ∈ g.nodes := List.mem_reverse.1 (List.mem_of_find?_eq_some hn)
  have hid : n.id = id := by simpa using List.find?_some hn
  unfold unmet
  revert hmem
  induction g.nodes with
  | nil => simp
  | cons m ms ih =>
    intro hmem
    have hle : (ms.filter fun n => !(id :: met).contains n.id).length
        ≤ (ms.filter fun n => !met.contains n.id).length := by
      simp only [← List.countP_eq_length_filter]
      exact List.countP_mono_left fun k _ hk => by simp_all
    rcases List.mem_cons.1 hmem with rfl | hm
    · have hout : met.contains n.id = false := by rw [hid]; exact h
      have seen : (id :: met).contains n.id = true := by simp [hid]
      rw [List.filter_cons_of_neg (by rw [seen]; decide),
        List.filter_cons_of_pos (by rw [hout]; decide), List.length_cons]
      omega
    · have hlt := ih hm
      simp only [List.filter_cons]
      split <;> split
      · simpa using hlt
      · rename_i hnew hold
        simp only [List.contains_cons, Bool.not_or, Bool.and_eq_true] at hnew
        exact absurd hnew.2 hold
      · simp only [List.length_cons]
        omega
      · exact hlt

/-- Walks a graph as it is written with branching blocks, and gives the nodes met more than once,
the latest first. Each walk that is still to be made has a node to start at and one to stop before.
Behind a condition the walk goes on at its join before the branches are taken. -/
def retread (g : Graph) (table : JoinTable) (met again : List String) :
    List (String × String) → Outcome (List String)
  | [] => .ok again
  | (id, stop) :: rest =>
    if id = stop || id = exitName then g.retread table met again rest
    else if _h : met.contains id = true then
      g.retread table met (if again.contains id then again else id :: again) rest
    else match _hk : g.kind? id with
      | none => Outcome.fault .key
      | some kind =>
        if kind.isCondition then
          match table.join? id with
          | none => Outcome.fault .key
          | some join =>
            let branches := ([g.whenTrue? id, g.whenFalse? id].filterMap fun target? =>
              target?.map fun target => (target, join))
            g.retread table (id :: met) again ((join, stop) :: branches ++ rest)
        else
          let next := ((g.successor? id).map fun target => (target, stop)).toList
          g.retread table (id :: met) again (next ++ rest)
termination_by walks => 3 * g.unmet met + walks.length
decreasing_by
  · simp
  · simp
  · have := g.unmet_cons_lt _hk (by simpa using _h)
    have : branches.length ≤ 2 := List.length_filterMap_le _ _
    simp only [branches, List.length_append, List.length_cons] at this ⊢
    omega
  · have := g.unmet_cons_lt _hk (by simpa using _h)
    have : next.length ≤ 1 := by
      simp only [next]
      cases g.successor? id <;> simp
    simp only [next, List.length_append, List.length_cons] at this ⊢
    omega

end Graph

/-- What a walk over a graph finds out about it. -/
structure TopologyReport where
  reachable : List String := []
  unreachable : List String := []
  backEdges : List Edge := []
  /-- nodes that branches lead to more than once -/
  reconvergent : List String := []
  /-- the triggers, when they lead to different nodes -/
  divergent : List String := []
  /-- the node that all triggers lead to -/
  entry : Option String := none
  joins : JoinTable := []
  deriving Repr

namespace TopologyReport

/-- Whether branching blocks can express the graph. -/
def isNative (r : TopologyReport) : Bool :=
  r.backEdges.isEmpty && r.reconvergent.isEmpty && r.divergent.isEmpty

def strategy (r : TopologyReport) : Strategy := if r.isNative then .native else .dispatch

def hasCycles (r : TopologyReport) : Bool := !r.backEdges.isEmpty

/-- The nodes that keep a graph from being native. -/
def offending (r : TopologyReport) : List String :=
  Graph.distinct (r.backEdges.map (·.target) ++ r.reconvergent ++ r.divergent)

/-- Why a graph is not native. -/
def conflictMessage (r : TopologyReport) : String :=
  let described := r.backEdges.map fun e => s!"{e.id} ({e.source} -> {e.target})"
  let parts :=
    (if r.backEdges.isEmpty then []
      else ["cycle via back edge(s) " ++ String.intercalate ", " described])
    ++ (if r.reconvergent.isEmpty then []
      else ["branches reconverge at node(s) " ++ String.intercalate ", " r.reconvergent])
    ++ (if r.divergent.isEmpty then []
      else ["triggers " ++ String.intercalate ", " r.divergent
        ++ " lead to different first nodes"])
  "Graph cannot be expressed natively: " ++ String.intercalate "; " parts

/-- The join of a node; none when a run through it ends, or when the node is not in the table. -/
def join? (r : TopologyReport) (id : String) : Option String :=
  match r.joins.join? id with
  | some join => if join = exitName then none else some join
  | none => none

end TopologyReport

namespace Graph

/-- The node that each trigger leads to. -/
def firstNodes (g : Graph) : List (Option String) := g.triggers.map fun t => g.successor? t.id

/-- Whether all triggers lead to the same node. -/
def triggersAgree (g : Graph) : Bool :=
  match g.firstNodes with
  | [] => true
  | first :: rest => rest.all (· == first)

/-- The report on a graph that keeps the invariants. -/
def analyze (limits : Limits) (g : Graph) : Outcome TopologyReport := do
  g.check limits
  let reachable := g.reachable
  let backEdges := g.backEdges
  let agree := g.triggersAgree
  let entry := if agree then (g.firstNodes.head?).join else none
  let joins ← if backEdges.isEmpty then g.joins (← g.body) else .ok []
  let again ← match entry with
    | some id => if backEdges.isEmpty then g.retread joins [] [] [(id, exitName)] else .ok []
    | none => .ok []
  return {
    reachable
    unreachable := (g.nodes.map (·.id)).filter fun id => !reachable.contains id
    backEdges
    reconvergent := again.reverse
    divergent := if agree then [] else g.triggers.map (·.id)
    entry
    joins }

/-- The strategy that can express a graph, native when possible. -/
def classify (limits : Limits) (g : Graph) : Outcome Strategy := do
  return (← g.analyze limits).strategy

end Graph

end Automation
