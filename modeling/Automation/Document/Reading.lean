import Automation.Dispatch.Decoding
import Automation.Document
import Automation.Graph.Fields
import Automation.Program.Reading
import Automation.Record.Automation
import Automation.Value.Access
import Automation.Yaml.Load

/-!
# Reading documents

The graph of an automation document, given as text or as a loaded mapping. A document that was
written with a dispatch loop is decoded; when its actions are no such loop, it is read by its
structure like any other. Metadata gives the nodes their ids and positions back as far as it fits:
`Document.restoreIds` leaves the graph as it is when it does not.

`Document.parse` keeps its notices when it fails.
-/

namespace Automation

namespace Document

/-- The sections of a document as they are written. `reading` is the number of the reading, which
tells its undefined numbers from those of others. -/
def load (document : Value) (reading : Nat := 0) : Outcome Entries := do
  let loaded ← match document with
    | .str text => Yaml.load text reading
    | .map _ _ => .ok document
    | v => Outcome.malformed (.document (.notDocument v.kindName))
  match loaded.expose with
  | .map _ es => return es
  | .null => Outcome.malformed (.document .empty)
  | v => Outcome.malformed (.document (.rootNotMapping v.kindName))

/-- The graph of the dispatch loop of a document. -/
def decodeLoop (limits : Limits) (m : Metadata) (triggers : List Entries) (r : AutomationRecord) :
    Outcome Graph := do
  if !r.conditions.isEmpty then Outcome.malformed (.document .conditionsInDispatch)
  let ids := if m.nodeIds.length ≥ triggers.length then m.nodeIds.take triggers.length else []
  let g ← Dispatch.decode limits triggers (r.actions.map .ofEntries) ids
  match g.problems with
  | [] => return g
  | problems => Outcome.malformed (.graph problems)

/-- A graph with its nodes renamed in order. -/
def renameNodes (g : Graph) (ids : List String) : Graph :=
  let names := (g.nodes.map (·.id)).zip ids
  let rename (id : String) : String := ((names.find? (·.1 == id)).map (·.2)).getD id
  { g with
    nodes := (g.nodes.zip ids).map fun n => { n.1 with id := n.2 }
    edges := g.edges.map fun e => .between (rename e.source) (rename e.target) e.handle e.label }

/-- A graph whose nodes have the ids of the metadata, unless there are too few or too many or they
are no ids for this graph. -/
def restoreIds (g : Graph) (m : Metadata) : Graph × List Notice :=
  if m.nodeIds.isEmpty then (g, [])
  else if m.nodeIds.length != g.nodes.length then
    (g, [.metadata (.idCount m.nodeIds.length g.nodes.length)])
  else
    let renamed := renameNodes g m.nodeIds
    match renamed.problems with
    | [] => (renamed, [])
    | problem :: _ => (g, [.metadata (.unusableIds problem)])

/-- A graph whose nodes have the positions of the metadata. -/
def placeNodes (g : Graph) (m : Metadata) : Graph :=
  { g with nodes := g.nodes.map fun n => match m.position? n.id with
      | some p => { n with position := some p }
      | none => n }

/-- The graph of a document read by its structure. -/
def readStructure (limits : Limits) (m : Option Metadata) (triggers : List Entries)
    (r : AutomationRecord) : Reads Graph := do
  let program ← Program.read limits triggers r.conditions r.actions
  match m with
  | none => return program.graph
  | some m =>
    let (g, notices) := restoreIds program.graph m
    Reads.note notices
    return g

/-- The graph of a document and the strategy that it was written with. -/
def readGraph (limits : Limits) (m : Option Metadata) (triggers : List Entries)
    (r : AutomationRecord) : Reads Graph := do
  match m with
  | some block =>
    if block.strategy = some Strategy.dispatch.name then
      match decodeLoop limits block triggers r with
      | .ok g => return { g with strategy := block.strategy }
      | .error (.refused (.structural cause)) =>
        Reads.note [.notDispatch cause]
        readStructure limits m triggers r
      | .error failure => throw failure
    else
      let g ← readStructure limits m triggers r
      return { g with strategy := block.strategy }
  | none => readStructure limits m triggers r

/-- The triggers of a document with present names. -/
def modernTriggers (triggers : List Entries) : List Entries × List Notice :=
  let modern := triggers.zipIdx.map fun t =>
    Entry.modernTrigger (Place.item { root := "triggers" } t.2) t.1
  (modern.map (·.1), modern.flatMap (·.2))

/-- The graph with what the document says about the automation as a whole. -/
def describe (g : Graph) (m : Option Metadata) (r : AutomationRecord) (freshId : String) :
    Outcome Graph := do
  let id := ((m.bind (·.graphId)).filter (· != "")).getD freshId
  let version := (m.bind (·.graphVersion)).getD 1
  let automationId ← r.id.mapM Value.written
  let vars := r.settings.vars.erase Metadata.key
  return { g with
    id, version := .int version, name := r.name, description := r.description
    settings := { r.settings with automationId, vars } }

/-- The steps of reading a document. -/
def read (limits : Limits) (freshId : String) (document : Value) (reading : Nat) :
    Reads Graph := do
  let raw ← Reads.lift (load document reading)
  let (sections?, notices) := sections raw
  Reads.note notices
  let sections ← Reads.lift sections?
  let record ← Reads.lift (AutomationRecord.ofEntries sections)
  let (triggers, notices) := modernTriggers record.triggers
  Reads.note notices
  Reads.note (record.others.map .ignoredSection)
  let (metadata, notices) := Metadata.find sections
  Reads.note notices
  let g ← readGraph limits metadata triggers record
  let g := match metadata with
    | some m => placeNodes g m
    | none => g
  let g ← Reads.lift (describe g metadata record freshId)
  Reads.lift (g.check limits)
  let issues ← Reads.lift (g.notices limits)
  Reads.note issues
  return g

/-- The graph of a document, and what there is to say about it. A graph whose document gives it no
id gets a fresh one. -/
def parse (limits : Limits) (freshId : String) (document : Value) (reading : Nat := 0) :
    Outcome Graph × List Notice :=
  Reads.start (read limits freshId document reading)

/-- Without ids in the metadata nothing is renamed. -/
theorem restoreIds_of_isEmpty {g : Graph} {m : Metadata} (h : m.nodeIds = []) :
    restoreIds g m = (g, []) := by
  simp [restoreIds, h]

end Document

end Automation
