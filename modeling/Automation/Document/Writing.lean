import Automation.Dispatch.Loop
import Automation.Document
import Automation.Graph.Fields
import Automation.Graph.Sharing
import Automation.Program.Entries
import Automation.Program.Lowering
import Automation.Yaml.Printer

/-!
# Writing documents

The document of a graph, by either strategy. `Document.native` writes branching blocks and refuses a
graph that they cannot express; `Document.dispatch` writes a dispatch loop and takes any well-formed
graph. `Document.transpile` chooses between them: a strategy that is asked for comes first, then a
loop when the graph was read from one, and then native blocks when they can express the graph.
-/

namespace Automation

/-- A document that was written. -/
structure Written where
  strategy : Strategy
  config : Entries
  /-- the same document with the payloads of its nodes apart, as its text shows it -/
  sheet : Entries
  text : String
  deriving Repr

namespace Document

/-- The notice about nodes that no trigger leads to. -/
def omittedNotice (r : TopologyReport) : List Notice :=
  if r.unreachable.isEmpty then [] else [.omitted r.unreachable]

/-- The document of a native graph, given the report on it. -/
def nativeEntries (limits : Limits) (r : TopologyReport) (g : Graph) : Outcome Entries := do
  let p ← g.program limits r
  return assemble g .native (p.nodes.map (·.id)) (Program.payloads p.triggers)
    (Program.payloads p.gates) p.actions

/-- The nodes that a dispatch loop runs: all but triggers that a trigger leads to. -/
def loopNodes (r : TopologyReport) (g : Graph) : List Node :=
  g.nodes.filter fun n => !n.kind.isTrigger && r.reachable.contains n.id

/-- The document of a graph with a dispatch loop, given the report on it. -/
def dispatchEntries (limits : Limits) (r : TopologyReport) (g : Graph) : Outcome Entries := do
  let joins ← g.blockJoins
  let body := loopNodes r g
  return assemble g .dispatch ((g.triggers ++ body).map (·.id)) (Program.payloads g.triggers) []
    (Dispatch.actions limits g joins body)

/-- A document written twice, for its values and for its text. -/
def written (strategy : Strategy) (g : Graph) (write : Graph → Outcome Entries) :
    Outcome Written := do
  let sheet ← write g.apart
  return { strategy, config := ← write g, sheet, text := ← Yaml.render (.ofEntries sheet) }

/-- The report on a graph and the notices about its nodes. -/
def examine (limits : Limits) (g : Graph) : Outcome (TopologyReport × List Notice) := do
  let report ← g.analyze limits
  return (report, ← g.notices limits)

/-- The document of a graph with branching blocks. -/
def native (limits : Limits) (g : Graph) : Outcome Written × List Notice :=
  match examine limits g with
  | .error failure => (.error failure, [])
  | .ok (report, notices) =>
    if report.isNative then
      (written .native g (nativeEntries limits report), notices ++ omittedNotice report)
    else (.error (.refused (.conflict report.conflictMessage)), notices)

/-- What there is to say about a graph that is written with a dispatch loop. -/
def loopNotices (limits : Limits) (r : TopologyReport) (g : Graph) : List Notice :=
  omittedNotice r
    ++ (if r.hasCycles then [.cycles limits.maxIterations] else [])
    ++ (if (loopNodes r g).isEmpty then [.noActions] else [])

/-- The document of a graph with a dispatch loop. -/
def dispatch (limits : Limits) (g : Graph) : Outcome Written × List Notice :=
  match examine limits g with
  | .error failure => (.error failure, [])
  | .ok (report, notices) =>
    (written .dispatch g (dispatchEntries limits report),
      notices ++ loopNotices limits report g)

/-- The strategy for a graph. -/
def selectStrategy (limits : Limits) (g : Graph) (forced : Value) : Outcome Strategy :=
  match forced with
  | .null =>
    if g.strategy = some Strategy.dispatch.name then .ok .dispatch else g.classify limits
  | v => match v.text?.bind Strategy.ofName? with
    | some strategy => .ok strategy
    | none => Outcome.refuse (.unknownStrategy v)

/-- The document of a graph by the strategy that was asked for or that fits best. -/
def transpile (limits : Limits) (g : Graph) (forced : Value) : Outcome Written × List Notice :=
  let strategy : Outcome Strategy := do
    g.check limits
    selectStrategy limits g forced
  match strategy with
  | .error failure => (.error failure, [])
  | .ok .native => native limits g
  | .ok .dispatch => dispatch limits g

/-- The graph that a value given to be written stands for. -/
def graphOf (v : Value) : Outcome Graph :=
  match v with
  | .map _ es => Graph.ofEntries es
  | v => Outcome.malformed (.notGraph v.kindName)

/-- The document of a graph in the shape of an editor. -/
def transpileValue (limits : Limits) (graph forced : Value) : Outcome Written × List Notice :=
  match graphOf graph with
  | .error failure => (.error failure, [])
  | .ok g => transpile limits g forced

/-- A strategy that is asked for is taken, whatever the graph. -/
theorem selectStrategy_forced (limits : Limits) (g : Graph) (s : Strategy) :
    selectStrategy limits g (.str s.name) = .ok s := by
  cases s <;> rfl

end Document

end Automation
