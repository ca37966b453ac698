import Automation.Limits
import Automation.Simulation.Guard
import Automation.Topology.Join

/-!
# Running a graph

A run over a graph, from the trigger that fired to a node without a successor. A condition chooses
between its two branches, or is skipped to its join when its block is disabled; a node that sets
variables sets them, and any other is noted. The run is cut off after a number of steps.

`Graph.runFrom` counts the steps that are left down, so it ends whatever the graph.
-/

namespace Automation

namespace Graph

/-- Runs one node, and gives the node to go on at. -/
def runNode (g : Graph) (joins : List (String × Option String)) (n : Node) :
    Run (Option String) := do
  if n.kind.isCondition then
    if (n.flags.get "enabled").isFalse then
      return ((joins.find? (·.1 == n.id)).map (·.2)).join
    else
      let c ← get
      let passed ← Run.lift (Guard.evaluate c (.ofEntries n.data))
      return g.branch? n.id (if passed then handleTrue else handleFalse)
  else
    let assigns := match n.kind with
      | .setVariables => true
      | _ => false
    Run.applyEntry (.ofEntries n.data) assigns
    return g.successor? n.id

/-- Runs the nodes from one on, with some steps left of a limit. -/
def runFrom (g : Graph) (joins : List (String × Option String)) (limit : Int) :
    Nat → Option String → Run Unit
  | _, none => return
  | 0, some id => Run.cutOff limit (.str id)
  | steps + 1, some id => do
    let node ← Run.lift (Outcome.orFault (g.lastNode? id) .key)
    Run.visit (.str node.id)
    let next ← g.runNode joins node
    g.runFrom joins limit steps next

/-- Runs a graph, for at most a number of steps. -/
def run (limits : Limits) (g : Graph) (maxSteps : Option Int) : Run Unit := do
  let limit := maxSteps.getD limits.maxIterations
  let joins ← Run.lift g.blockJoins
  let trigger ← Run.lift (Value.itemAt g.triggers (← get).trigger)
  Run.identify (return trigger.data.get "id")
  g.runFrom joins limit limit.toNat (g.successor? trigger.id)

end Graph

end Automation
