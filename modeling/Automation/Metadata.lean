import Automation.Graph.Basic
import Automation.Notice
import Automation.Record.Graph
import Automation.Topology.Report

/-!
# Metadata

What a document keeps of the graph that it was written from: the ids of its nodes in the order in
which a reader creates them, their positions, and the graph's id, version and strategy. The block
lies among the variables of the automation.

A block that cannot be used costs a notice and nothing else: `Metadata.find` never fails.
-/

namespace Automation

structure Metadata where
  version : Int := 1
  nodeIds : List String := []
  positions : List (String × Position) := []
  graphId : Option String := none
  graphVersion : Option Int := none
  strategy : Option String := none
  deriving Repr

namespace Metadata

/-- The variable that holds the block. -/
def key : String := "_flowgraph_metadata"

/-- The version of the blocks that are written and understood. -/
def currentVersion : Int := 1

/-- The positions of the nodes that have one, by id. -/
def positionEntries (nodes : List Node) : Entries :=
  nodes.foldl (fun acc n => match n.position with
    | some p => acc.set n.id p.toValue
    | none => acc) []

/-- The block for a graph that is written by a strategy with its nodes in a given order. -/
def encode (g : Graph) (strategy : String) (order : List String) : Entries := [
  (.str "schema_version", .int currentVersion),
  (.str "node_ids", .ofTexts order),
  (.str "node_positions", .ofEntries (positionEntries g.nodes)),
  (.str "graph_id", if g.id = "" then .null else .str g.id),
  (.str "graph_version", g.version.toValue),
  (.str "strategy", .str strategy)]

open Reader

/-- Reads the fields of a block. -/
def read (es : Entries) : Reading Metadata :=
  (fun version nodeIds positions graphId graphVersion strategy =>
    { version, nodeIds, positions, graphId, graphVersion, strategy })
    <$> field es "schema_version" integer
    <*> fieldOr es "node_ids" [] (list text)
    <*> fieldOr es "node_positions" [] (mapping Record.position)
    <*> optionalField es "graph_id" text
    <*> optionalField es "graph_version" integer
    <*> optionalField es "strategy" text

/-- The block in a mapping of the present version, with known fields and a known strategy. -/
def ofEntries (es : Entries) : Except MetadataNotice Metadata :=
  let version := es.get "schema_version"
  if !version.same (.int currentVersion) then .error (.unknownVersion version)
  else match read es with
    | .refused issues => .error (.invalidFields issues.length)
    | .value m => match m.strategy with
      | some strategy =>
        if (Strategy.ofName? strategy).isSome then .ok m else .error (.unknownStrategy strategy)
      | none => .ok m

/-- The block of a document, or the notice about one that cannot be used. -/
def find (document : Entries) : Option Metadata × List Notice :=
  match (document.get "variables").expose with
  | .map _ vars =>
    match Entries.get? vars key with
    | none => (none, [])
    | some block => match block.expose with
      | .map _ es => match ofEntries es with
        | .ok m => (some m, [])
        | .error notice => (none, [.metadata notice])
      | v => (none, [.metadata (.notMapping v.kindName)])
  | _ => (none, [])

/-- The position of the node with an id. -/
def position? (m : Metadata) (id : String) : Option Position :=
  (m.positions.find? (·.1 == id)).map (·.2)

/-- A block is used or there is a notice about it, never both. -/
theorem find_notices_of_some {document : Entries} {m : Metadata}
    (h : (find document).1 = some m) : (find document).2 = [] := by
  revert h
  unfold find
  repeat' split
  all_goals simp

end Metadata

end Automation
