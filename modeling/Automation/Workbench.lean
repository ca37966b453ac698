import Automation.Document.Reading
import Automation.Document.Writing
import Automation.Graph.Edit
import Automation.Graph.Equivalence
import Automation.Simulation.GraphRun
import Automation.Simulation.LoopRun
import Automation.Value.Edit

/-!
# The workbench

What an editor holds between two actions: a graph, the document that was written last, graphs that
were put aside under a name, and the context of simulated runs. An action that fails leaves the
workbench as it was (`read_of_error`, `keep_of_error`); only a run keeps what it had done when it
failed.

An empty workbench has no graph and no document. An action that needs one is then refused, or is a
fault.
-/

namespace Automation

structure Workbench where
  graph : Option Graph := none
  /-- how many documents have been read -/
  readings : Nat := 0
  /-- the text of the last document, null when there is none -/
  text : Value := .null
  /-- the values of the last document, null when there is none -/
  document : Value := .null
  /-- what was put aside, the latest first -/
  saved : List (String × Option Graph) := []
  context : Context := {}
  deriving Repr, Inhabited

namespace Workbench

/-- The graph, whose absence is a fault. -/
def current (w : Workbench) : Outcome Graph := Outcome.orFault w.graph .property

/-- The graph as one to be written, whose absence is refused. -/
def subject (w : Workbench) : Outcome Graph :=
  match w.graph with
  | some g => .ok g
  | none => Document.graphOf .null

/-! ## Documents -/

/-- Takes the graph of a document, if it has one. -/
def read (w : Workbench) (limits : Limits) (freshId : String) (document : Value) :
    (Outcome Graph × List Notice) × Workbench :=
  let result := Document.parse limits freshId document w.readings
  match result.1 with
  | .ok g => (result, { w with graph := some g, readings := w.readings + 1 })
  | .error _ => (result, w)

/-- Keeps a document, if one was written. -/
def keep (w : Workbench) (result : Outcome Written × List Notice) :
    (Outcome Written × List Notice) × Workbench :=
  match result.1 with
  | .ok d => (result, { w with text := .str d.text, document := .ofEntries d.sheet })
  | .error _ => (result, w)

/-- Writes a graph, unless there is none for the given reason. -/
def write (w : Workbench) (graph? : Outcome Graph) (how : Graph → Outcome Written × List Notice) :
    (Outcome Written × List Notice) × Workbench :=
  match graph? with
  | .ok g => w.keep (how g)
  | .error failure => ((.error failure, []), w)

/-- Writes the graph by the strategy that was asked for or that fits best. -/
def transpile (w : Workbench) (limits : Limits) (forced : Value) :
    (Outcome Written × List Notice) × Workbench :=
  w.write w.subject (Document.transpile limits · forced)

/-- Writes the graph with branching blocks. -/
def native (w : Workbench) (limits : Limits) : (Outcome Written × List Notice) × Workbench :=
  w.write w.current (Document.native limits)

/-- Writes the graph with a dispatch loop. -/
def dispatch (w : Workbench) (limits : Limits) : (Outcome Written × List Notice) × Workbench :=
  w.write w.current (Document.dispatch limits)

/-- Changes the values of the last document; its text stays. -/
def editDocument (w : Workbench) (path : List Value) (change : Change) : Outcome Workbench := do
  return { w with document := ← w.document.edit path change }

/-! ## Graphs -/

/-- Changes the graph. -/
def editGraph (w : Workbench) (f : Graph → Outcome Graph) : Outcome Workbench := do
  return { w with graph := some (← f (← w.current)) }

/-- Puts the graph aside under a name. -/
def save (w : Workbench) (name : String) : Workbench :=
  { w with saved := (name, w.graph) :: w.saved }

/-- Whether the graph is equivalent to the one last put aside under a name. -/
def matchesSaved (w : Workbench) (name : String) : Outcome Bool := do
  let (_, other) ← Outcome.orFault (w.saved.find? (·.1 == name)) .key
  (← w.current).equivalent (← Outcome.orFault other .property)

/-! ## Runs -/

/-- Runs something in the context. -/
def run (w : Workbench) (r : Run Unit) : Outcome Unit × Workbench :=
  let (result, context) := r.start w.context
  (result, { w with context })

/-- Runs the graph. -/
def runGraph (w : Workbench) (limits : Limits) (maxSteps : Option Int) : Outcome Unit × Workbench :=
  match w.current with
  | .ok g => w.run (g.run limits maxSteps)
  | .error failure => (.error failure, w)

/-- Runs the last document as a dispatch loop. -/
def runDocument (w : Workbench) (limits : Limits) (maxSteps : Option Int) :
    Outcome Unit × Workbench :=
  w.run (LoopRun.run limits w.document maxSteps)

/-! ## What stays -/

/-- A document that is refused leaves the workbench as it was. -/
theorem read_of_error {w : Workbench} {limits : Limits} {freshId : String} {document : Value}
    {failure : Failure}
    (h : (Document.parse limits freshId document w.readings).1 = .error failure) :
    (w.read limits freshId document).2 = w := by
  simp [read, h]

/-- A graph that is refused leaves the workbench as it was. -/
theorem keep_of_error {w : Workbench} {failure : Failure} (notices : List Notice) :
    (w.keep (.error failure, notices)).2 = w := rfl

/-- A run changes the context alone. -/
theorem run_graph (w : Workbench) (r : Run Unit) : (w.run r).2 = { w with
    context := (r.start w.context).2 } := rfl

/-- A graph just put aside is the one that is compared with. -/
theorem find?_save (w : Workbench) (name : String) :
    (w.save name).saved.find? (·.1 == name) = some (name, w.graph) := by
  simp [save]

end Workbench

end Automation
