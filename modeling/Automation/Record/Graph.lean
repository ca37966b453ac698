import Automation.Graph.Structure
import Automation.Record.Reading

/-!
# Graphs from the editor

The reverse of `Graph.toValue`: `Graph.ofValue` reads a graph out of the mapping that an editor
keeps. Nodes and edges may carry entries of the editor's own, which are left out; the graph and its
settings may not. An edge without an id gets the one that its ends and its handle determine.
-/

namespace Automation

open Reader

namespace Record

def position : Reader Position := record "PositionSpec" fun es =>
  (fun x y => { x := .float x, y := .float y })
    <$> field es "x" number
    <*> field es "y" number

/-- The names of the kinds of nodes. -/
def kindNames : List String := ["trigger", "condition", "action", "delay", "wait", "set_variables"]

def node : Reader Node := record "NodeSpec" fun es =>
  (fun id kind data position label flags =>
    { id, kind := .ofValue (.str kind), data, position, flags,
      label := (label.map .str).getD .null })
    <$> field es "id" text
    <*> field es "type" (oneOf kindNames)
    <*> fieldOr es "data" [] entries
    <*> optionalField es "position" position
    <*> optionalField es "label" text
    <*> fieldOr es "flags" [] entries

/-- The handle of an edge, under either of its two names. -/
def handle (es : Entries) : Reading (Option String) :=
  if es.has "sourceHandle" then optionalField es "sourceHandle" text
  else optionalField es "source_handle" text

def edge : Reader Edge := record "EdgeSpec" fun es =>
  (fun id source target handle label =>
    let label := (label.map Value.str).getD .null
    match id with
    | some id => if id = "" then .between source target handle label
      else { id, source, target, handle, label }
    | none => .between source target handle label)
    <$> optionalField es "id" text
    <*> field es "source" text
    <*> field es "target" text
    <*> handle es
    <*> optionalField es "label" text

/-- The ways in which runs of one automation may overlap. -/
def modes : List String := ["single", "restart", "queued", "parallel"]

/-- The severities of the message about a run that was not started. -/
def severities : List String := ["silent", "critical", "error", "warning", "info", "debug"]

/-- The settings that documents and graphs keep under the same names. -/
def runSettings (es : Entries) : Reading Settings :=
  (fun mode max maxExceeded initialState hideEntity trace =>
    { mode, max, maxExceeded, initialState, hideEntity, trace })
    <$> optionalField es "mode" (oneOf modes)
    <*> optionalField es "max" integer
    <*> optionalField es "max_exceeded" (oneOf severities)
    <*> optionalField es "initial_state" boolean
    <*> optionalField es "hide_entity" boolean
    <*> optionalField es "trace" entries

/-- The settings of a graph. -/
def settings : Reader Settings := record "SettingsSpec" fun es => closely es <|
  (fun automationId run vars (_ : List String) =>
    { run with
      automationId
      trace := run.trace.map Value.detachEntries
      vars := Value.detachEntries vars })
    <$> optionalField es "automation_id" text
    <*> runSettings es
    <*> fieldOr es "variables" [] entries
    <*> extras es ["automation_id", "mode", "max", "max_exceeded", "initial_state", "hide_entity",
      "trace", "variables"] false

def graph (es : Entries) : Reading Graph := closely es <|
  (fun id name description version strategy nodes edges settings (_ : List String) =>
    { id := id.getD "", name := name.getD "", description := description.getD ""
      version := .int version, strategy, nodes, edges, settings := settings.getD {} })
    <$> optionalField es "id" text
    <*> optionalField es "name" text
    <*> optionalField es "description" text
    <*> fieldOr es "version" 1 integer
    <*> optionalField es "strategy" text
    <*> fieldOr es "nodes" [] (list node)
    <*> fieldOr es "edges" [] (list edge)
    <*> optionalField es "settings" settings
    <*> extras es ["id", "name", "description", "version", "strategy", "nodes", "edges", "settings"]
      false

end Record

namespace Graph

/-- The graph in the entries of an editor's mapping. -/
def ofEntries (es : Entries) : Outcome Graph :=
  match Record.graph es with
  | .value g => .ok g
  | .refused issues => Outcome.malformed (.record .graph issues)

/-- The graph in an editor's mapping. -/
def ofValue : Value → Outcome Graph
  | .map _ es => ofEntries es
  | v => Outcome.malformed (.graphNotMapping v.kindName)

/-- Only a mapping can be a graph. -/
theorem ofValue_of_not_mapping {v : Value} (h : v.entries? = none) :
    ofValue v = Outcome.malformed (.graphNotMapping v.kindName) := by
  cases v <;> first | rfl | cases h

end Graph

end Automation
