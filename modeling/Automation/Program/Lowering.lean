import Automation.Program.Basic
import Automation.Topology.Report

/-!
# Programs of graphs

The program that a native graph stands for. Each branch of a condition is walked up to the join of
the condition, where the walk goes on; conditions that follow one another on the failing side and
have the same join become the options of one choice; conditions at the start that stop the run when
they fail become gates.

The walks are bounded by a number of steps, which for a graph without cycles is never reached when
it is the number of nodes (`Graph.stepBound`).
-/

namespace Automation

namespace Graph

/-- A bound on the length of a walk that meets no node twice. -/
def stepBound (g : Graph) : Nat := g.nodes.length + 1

/-- Whether a condition stops the run when it fails, and needs nothing that only a branching block
can carry. -/
def isGate (g : Graph) (n : Node) : Bool :=
  n.kind.isCondition && (g.whenFalse? n.id).isNone && !n.label.truthy && n.flags.isEmpty

/-- The node with an id, or a fault when there is none. -/
def nodeAt (g : Graph) (id : String) : Outcome Node := Outcome.orFault (g.lastNode? id) .key

/-- The gates from a node on, and the node behind them. -/
def leadingGates (g : Graph) : Nat → Option String → Outcome (List Node × Option String)
  | _, none => .ok ([], none)
  | 0, some id => .ok ([], some id)
  | steps + 1, some id => do
    let node ← g.nodeAt id
    if g.isGate node then
      let (gates, next) ← g.leadingGates steps (g.whenTrue? id)
      return (node :: gates, next)
    else return ([], some id)

/-- The conditions that follow a condition on its failing side as further options of one choice:
nothing else leads to them, they have the same join, and they carry no flags of their own. -/
def furtherOptions (g : Graph) (r : TopologyReport) (join : Option String) :
    Nat → String → Outcome (List Node)
  | 0, _ => .ok []
  | steps + 1, id =>
    match g.whenFalse? id with
    | none => .ok []
    | some target =>
      if some target = join then .ok []
      else do
        let node ← g.nodeAt target
        if node.kind.isCondition && node.flags.isEmpty && (g.incoming target).length = 1
            && r.join? target = join then
          return node :: (← g.furtherOptions r join steps target)
        else return []

/-- The blocks from a node up to another, with some levels of blocks left inside. -/
def lowerFrom (limits : Limits) (g : Graph) (r : TopologyReport) (stop : Option String) :
    Nat → Nat → Option String → Outcome (List Block)
  | 0, _, _ => .ok []
  | steps + 1, levels, current =>
    match current with
    | none => .ok []
    | some id =>
      if current = stop then .ok []
      else do
        let node ← g.nodeAt id
        if !node.kind.isCondition then
          return .step node :: (← g.lowerFrom limits r stop steps levels (g.successor? id))
        else if g.isGate node then
          return .step node :: (← g.lowerFrom limits r stop steps levels (g.whenTrue? id))
        else
          let join := r.join? id
          let branch (target : Option String) : Outcome (List Block) :=
            match target, levels with
            | none, _ => .ok []
            | some _, 0 => Outcome.tooLarge (.branchDepth limits.maxNesting)
            | some t, levels + 1 => g.lowerFrom limits r join steps levels (some t)
          let chain := node :: (← g.furtherOptions r join steps id)
          let options ← chain.mapM fun n => do return (n, ← branch (g.whenTrue? n.id))
          let otherwise ← branch ((chain.getLast?.map (·.id)).bind g.whenFalse?)
          return .choice options otherwise :: (← g.lowerFrom limits r stop steps levels join)

/-- The program of a graph, given the report on it. -/
def program (limits : Limits) (g : Graph) (r : TopologyReport) : Outcome Program := do
  let (gates, start) ← g.leadingGates g.stepBound r.entry
  if limits.maxNesting < 0 then Outcome.tooLarge (.branchDepth limits.maxNesting)
  let body ← g.lowerFrom limits r none g.stepBound limits.maxNesting.toNat start
  return { triggers := g.triggers, gates, body }

end Graph

end Automation
