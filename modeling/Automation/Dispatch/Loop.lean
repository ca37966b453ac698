import Automation.Dispatch.Routing
import Automation.Limits
import Automation.Program.Entries
import Automation.Topology.Report

/-!
# Dispatch loops

The actions that run any graph, whatever its shape. A variable holds the state, which is the id of a
node. The loop repeats one choice with an option for each node: the option runs the node and then
assigns the next state. It stops in the end state, or after a bounded number of passes, and a last
entry reports that bound.

An option is a test of the state, the effect of the node and an assignment. A condition is an if
block whose branches assign; one whose block is disabled is skipped by whoever runs the loop, so the
state behind the block is assigned before it.
-/

namespace Automation

namespace Dispatch

/-- The variable that holds the state. -/
def stateVariable : String := "current_node"

/-- A template expression in its braces. -/
def inBraces (expression : String) : String :=
  "\x7b\x7b " ++ expression ++ " \x7d\x7d"

/-- A condition on an expression. -/
def templateCondition (expression : String) : Value :=
  .ofEntries [(.str "condition", .str "template"),
    (.str "value_template", .str (inBraces expression))]

/-- The condition that the state is the one of a node. -/
def stateTest (id : String) : Value :=
  templateCondition (stateVariable ++ " == '" ++ id ++ "'")

/-- The entry that assigns a text to the state. -/
def assignText (state : String) : Value :=
  .ofEntries [(.str "variables", .ofEntries [(.str stateVariable, .str state)])]

/-- The entry that assigns the state of a node, or the end state. -/
def assign (target : Option String) : Value := assignText (stateOf target)

/-- The entry that writes a message to the system log. -/
def logEntry (message : String) : Value :=
  .ofEntries [(.str "action", .str "system_log.write"),
    (.str "data", .ofEntries [(.str "message", .str message), (.str "level", .str "warning")])]

/-- What the loop does in the state of a node: its effect, and the assignment of the next state. -/
def steps (g : Graph) (joins : List (String × Option String)) (n : Node) : List Value :=
  if n.kind.isCondition then
    let block := Block.ifEntry n [assign (g.whenTrue? n.id)] [assign (g.whenFalse? n.id)]
    let skip := ((joins.find? (·.1 == n.id)).map (·.2)).join
    (if (n.flags.get "enabled").isFalse then [assign skip] else []) ++ [.ofEntries block]
  else [.ofEntries n.data, assign (g.successor? n.id)]

/-- The option of the choice for a node. -/
def option (g : Graph) (joins : List (String × Option String)) (n : Node) : Value :=
  .ofEntries [(.str "conditions", .ofItems [stateTest n.id]),
    (.str "sequence", .ofItems (steps g joins n))]

/-- What the log calls an automation. -/
def titleOf (g : Graph) : String :=
  if g.name != "" then g.name else if g.id != "" then g.id else "automation"

/-- The choice that the loop repeats. -/
def choice (g : Graph) (joins : List (String × Option String)) (body : List Node) : Value :=
  let unknown := titleOf g ++ ": unknown state " ++ inBraces stateVariable
  .ofEntries [(.str "choose", .ofItems (body.map (option g joins))),
    (.str "default", .ofItems [logEntry unknown, assign none])]

/-- The condition to stop after a pass. -/
def untilCondition (limits : Limits) : Value :=
  templateCondition (stateVariable ++ " == '" ++ endState ++ "' or repeat.index >= "
    ++ toString limits.maxIterations)

/-- The entry that reports that the bound on passes was reached. -/
def ceilingReport (limits : Limits) (g : Graph) : Value :=
  let message := titleOf g ++ ": stopped after " ++ toString limits.maxIterations
    ++ " iterations in state " ++ inBraces stateVariable
  .ofEntries [
    (.str "if", .ofItems [templateCondition (stateVariable ++ " != '" ++ endState ++ "'")]),
    (.str "then", .ofItems [logEntry message])]

/-- The actions that run a graph with the given nodes, none when there are no nodes to run. -/
def actions (limits : Limits) (g : Graph) (joins : List (String × Option String))
    (body : List Node) : List Value :=
  if body.isEmpty then []
  else [
    assignText (Routing.render g.firstNodes),
    .ofEntries [(.str "repeat", .ofEntries [
      (.str "sequence", .ofItems [choice g joins body]),
      (.str "until", .ofItems [untilCondition limits])])],
    ceilingReport limits g]

end Dispatch

end Automation
