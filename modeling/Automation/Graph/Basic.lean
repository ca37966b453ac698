import Automation.Value.Basic

/-!
# Automation graphs

A graph of triggers, conditions and steps. A run starts at a trigger and follows one edge out of
each node; a condition has one edge for each outcome, told apart by its handle.

Look-ups go by node id. `Graph.outEdges` lists the edges out of a node in the order in which every
walk takes them, and holds exactly the edges with that source (`mem_outEdges`).
-/

namespace Automation

/-- What a node does. -/
inductive NodeKind where
  | trigger
  | condition
  | action
  | delay
  | wait
  | setVariables
  /-- any other kind, which no valid graph has -/
  | foreign (name : Value)
  deriving Repr, Inhabited

namespace NodeKind

/-- The name of a kind. -/
def toValue : NodeKind → Value
  | .trigger => .str "trigger"
  | .condition => .str "condition"
  | .action => .str "action"
  | .delay => .str "delay"
  | .wait => .str "wait"
  | .setVariables => .str "set_variables"
  | .foreign name => name

/-- The kind with a name. -/
def ofName? : String → Option NodeKind
  | "trigger" => some .trigger
  | "condition" => some .condition
  | "action" => some .action
  | "delay" => some .delay
  | "wait" => some .wait
  | "set_variables" => some .setVariables
  | _ => none

def ofValue (v : Value) : NodeKind :=
  match v with
  | .str name => (ofName? name).getD (.foreign v)
  | _ => .foreign v

def isTrigger : NodeKind → Bool
  | .trigger => true
  | _ => false

def isCondition : NodeKind → Bool
  | .condition => true
  | _ => false

theorem isTrigger_iff {k : NodeKind} : k.isTrigger = true ↔ k = .trigger := by
  cases k <;> simp [isTrigger]

theorem isCondition_iff {k : NodeKind} : k.isCondition = true ↔ k = .condition := by
  cases k <;> simp [isCondition]

theorem isCondition_of_isTrigger {k : NodeKind} (h : k.isTrigger = true) : k.isCondition = false := by
  rw [isTrigger_iff.1 h]
  rfl

theorem isTrigger_of_isCondition {k : NodeKind} (h : k.isCondition = true) : k.isTrigger = false := by
  rw [isCondition_iff.1 h]
  rfl

/-- Whether a kind is one of the six that valid graphs have. -/
def isKnown : NodeKind → Bool
  | .foreign _ => false
  | _ => true

/-- The name of a known kind reads back. -/
theorem ofValue_toValue {k : NodeKind} (h : k.isKnown = true) : ofValue k.toValue = k := by
  cases k <;> first | rfl | cases h

end NodeKind

/-- A whole or a binary number. -/
inductive Number where
  | int (n : Int)
  | float (x : Binary64)
  deriving Repr, Inhabited

def Number.toValue : Number → Value
  | .int n => .int n
  | .float x => .float x

/-- Where an editor draws a node. -/
structure Position where
  x : Number
  y : Number
  deriving Repr, Inhabited

def Position.toValue (p : Position) : Value :=
  .ofEntries [(.str "x", p.x.toValue), (.str "y", p.y.toValue)]

/-- A node: its payload, and what a branching block that it heads carries besides its branches. -/
structure Node where
  id : String
  kind : NodeKind
  data : Entries := []
  position : Option Position := none
  /-- the name of the block -/
  label : Value := .null
  /-- the flags of the block -/
  flags : Entries := []
  deriving Repr, Inhabited

/-- The handle of the edge that a run takes out of a condition that holds. -/
def handleTrue : String := "true"

/-- The handle of the edge that a run takes out of a condition that fails. -/
def handleFalse : String := "false"

/-- The flags that a branching block may carry. -/
def blockFlags : List String := ["enabled", "continue_on_error"]

structure Edge where
  id : String
  source : String
  target : String
  handle : Option String := none
  label : Value := .null
  deriving Repr, Inhabited

/-- An edge with the id that its ends and its handle determine. -/
def Edge.between (source target : String) (handle : Option String := none)
    (label : Value := .null) : Edge :=
  let base := s!"e-{source}-{target}"
  let id := match handle with
    | some h => if h = "" then base else s!"{base}-{h}"
    | none => base
  { id, source, target, handle, label }

/-- Whether an edge is taken when a condition fails. -/
def Edge.isFalse (e : Edge) : Bool := e.handle == some handleFalse

/-- The settings of an automation that do not show in its graph. -/
structure Settings where
  automationId : Option String := none
  mode : Option String := none
  max : Option Int := none
  maxExceeded : Option String := none
  initialState : Option Bool := none
  hideEntity : Option Bool := none
  trace : Option Entries := none
  vars : Entries := []
  deriving Repr, Inhabited

structure Graph where
  id : String := ""
  name : String := ""
  description : String := ""
  version : Number := .int 1
  /-- the strategy that the document it was read from had been written with -/
  strategy : Option String := none
  nodes : List Node := []
  edges : List Edge := []
  settings : Settings := {}
  deriving Repr, Inhabited

namespace Graph

/-- The first node with an id. -/
def node? (g : Graph) (id : String) : Option Node := g.nodes.find? (·.id == id)

/-- The last node with an id, which look-ups by id give. -/
def lastNode? (g : Graph) (id : String) : Option Node := g.nodes.reverse.find? (·.id == id)

/-- The kind of the node with an id. -/
def kind? (g : Graph) (id : String) : Option NodeKind := (g.lastNode? id).map (·.kind)

/-- Whether the node with an id is a condition. -/
def isConditionAt (g : Graph) (id : String) : Bool := (g.kind? id).any (·.isCondition)

def triggers (g : Graph) : List Node := g.nodes.filter (·.kind.isTrigger)

/-- The edges out of a node, in the order of the graph. -/
def outgoing (g : Graph) (id : String) : List Edge := g.edges.filter (·.source == id)

/-- The edges into a node, in the order of the graph. -/
def incoming (g : Graph) (id : String) : List Edge := g.edges.filter (·.target == id)

/-- The edges out of a node, those of a condition that fails behind all others. -/
def outEdges (g : Graph) (id : String) : List Edge :=
  let out := g.outgoing id
  out.filter (!·.isFalse) ++ out.filter (·.isFalse)

/-- Where the first edge out of a node leads. -/
def successor? (g : Graph) (id : String) : Option String := (g.outEdges id).head?.map (·.target)

/-- Where the first edge out of a node with a given handle leads. -/
def branch? (g : Graph) (id handle : String) : Option String :=
  ((g.outEdges id).find? (·.handle == some handle)).map (·.target)

/-- Where a condition that holds leads. -/
def whenTrue? (g : Graph) (id : String) : Option String := g.branch? id handleTrue

/-- Where a condition that fails leads. -/
def whenFalse? (g : Graph) (id : String) : Option String := g.branch? id handleFalse

theorem mem_outgoing {g : Graph} {id : String} {e : Edge} :
    e ∈ g.outgoing id ↔ e ∈ g.edges ∧ e.source = id := by
  simp [outgoing]

/-- The walks take exactly the edges with a given source. -/
theorem mem_outEdges {g : Graph} {id : String} {e : Edge} :
    e ∈ g.outEdges id ↔ e ∈ g.edges ∧ e.source = id := by
  by_cases h : e.isFalse <;> simp [outEdges, outgoing, h]

/-- No edge is taken twice or left out. -/
theorem length_outEdges (g : Graph) (id : String) :
    (g.outEdges id).length = (g.outgoing id).length := by
  unfold outEdges
  generalize g.outgoing id = es
  induction es with
  | nil => rfl
  | cons e es ih =>
    -- an edge stands in one of the two parts, so their lengths add up
    by_cases h : e.isFalse <;> simp_all
    omega

end Graph

/-! ## The editor's shape -/

namespace Entries

/-- The entry of a field, none when there is nothing to write. -/
def field (name : String) (v : Option Value) : Entries :=
  match v with
  | some v => [(.str name, v)]
  | none => []

end Entries

/-- A value that counts as true, as the value of a field. -/
def Value.ifTruthy (v : Value) : Option Value := if v.truthy then some v else none

/-- Entries as the value of a field, none when there are none. -/
def Value.ifAny (es : Entries) : Option Value := if es.isEmpty then none else some (.ofEntries es)

open Entries Value

def Node.toValue (n : Node) : Value :=
  .ofEntries <| [(.str "id", .str n.id), (.str "type", n.kind.toValue),
      (.str "data", .ofEntries n.data)]
    ++ field "position" (n.position.map (·.toValue))
    ++ field "label" (ifTruthy n.label)
    ++ field "flags" (ifAny n.flags)

def Edge.toValue (e : Edge) : Value :=
  .ofEntries <| [(.str "id", .str e.id), (.str "source", .str e.source),
      (.str "target", .str e.target)]
    ++ field "sourceHandle" (e.handle.map .str)
    ++ field "label" (ifTruthy e.label)

/-- The settings that are set. -/
def Settings.toEntries (s : Settings) : Entries :=
  field "automation_id" (s.automationId.map .str)
    ++ field "mode" (s.mode.map .str)
    ++ field "max" (s.max.map .int)
    ++ field "max_exceeded" (s.maxExceeded.map .str)
    ++ field "initial_state" (s.initialState.map .bool)
    ++ field "hide_entity" (s.hideEntity.map .bool)
    ++ field "trace" (s.trace.bind ifAny)
    ++ field "variables" (ifAny s.vars)

/-- A graph in the shape that editors read and write. -/
def Graph.toValue (g : Graph) : Value :=
  .ofEntries <| [(.str "id", .str g.id), (.str "name", .str g.name),
      (.str "description", .str g.description), (.str "version", g.version.toValue),
      (.str "nodes", .ofItems (g.nodes.map (·.toValue))),
      (.str "edges", .ofItems (g.edges.map (·.toValue)))]
    ++ field "strategy" ((g.strategy.map Value.str).bind ifTruthy)
    ++ field "settings" (ifAny g.settings.toEntries)

end Automation
