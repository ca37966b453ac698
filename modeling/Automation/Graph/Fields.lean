import Automation.Graph.Structure
import Automation.Notice

/-!
# Field checks

What a running automation would miss in the payload of a node: fields that its trigger platform or
condition kind needs. None of it makes a graph malformed; `Graph.notices` turns the issues into
notices. It fails on a platform or kind that cannot be looked up because it is a collection, and on
an action that cannot be quoted.
-/

namespace Automation

namespace Node

/-- The fields that a trigger platform needs. -/
def triggerNeeds : String → List String
  | "state" => ["entity_id"]
  | "numeric_state" => ["entity_id"]
  | "event" => ["event_type"]
  | "time" => ["at"]
  | "mqtt" => ["topic"]
  | "webhook" => ["webhook_id"]
  | "zone" => ["entity_id", "zone"]
  | "geo_location" => ["source", "zone"]
  | "template" => ["value_template"]
  | "sun" => ["event"]
  | "homeassistant" => ["event"]
  | "device" => ["device_id"]
  | "tag" => ["tag_id"]
  | _ => []

/-- The fields that a condition kind needs. -/
def conditionNeeds : String → List String
  | "state" => ["entity_id", "state"]
  | "numeric_state" => ["entity_id"]
  | "trigger" => ["id"]
  | "template" => ["value_template"]
  | "zone" => ["entity_id", "zone"]
  | "device" => ["device_id"]
  | _ => []

/-- Whether a value is null or an empty text, mapping or list. -/
def isMissing : Value → Bool
  | .null => true
  | .str s => s == ""
  | .map _ es => es.isEmpty
  | .list _ items => items.isEmpty
  | _ => false

/-- Whether a payload has neither bound of a range. -/
def lacksBounds (data : Entries) : Bool := !data.has "above" && !data.has "below"

/-- The issues of a trigger. -/
def triggerIssues (data : Entries) : Outcome (List NodeIssue) :=
  let platform := data.get "trigger"
  if !platform.truthy then .ok [.triggerWithoutPlatform]
  else match platform with
    | .str name =>
      .ok <| ((triggerNeeds name).filter fun key => isMissing (data.get key)).map
          (.triggerRequires name)
        ++ (if name = "numeric_state" && lacksBounds data then [.triggerWithoutBound] else [])
    | v => if v.isKey then .ok [] else Outcome.fault .type

/-- The name of a condition kind that groups others. -/
def isGroupKind (kind : Value) : Bool :=
  kind.isText "and" || kind.isText "or" || kind.isText "not"

/-- The issues of a condition and of the conditions inside it, as deep as conditions may nest. -/
def conditionIssues : Nat → Entries → Outcome (List NodeIssue)
  | 0, _ => .ok []
  | depth + 1, data =>
    let kind := data.get "condition"
    if !kind.truthy then .ok [.conditionWithoutKind]
    else if isGroupKind kind then
      match data.get "conditions" with
      | .list _ (c :: cs) =>
        (c :: cs).foldlM (fun issues sub => match sub with
          | .map _ es => do return issues ++ (← conditionIssues depth es)
          | _ => .ok issues) []
      | _ => .ok [.emptyGroup kind.plain]
    else match kind with
      | .str name =>
        .ok <| ((conditionNeeds name).filter fun key => isMissing (data.get key)).map
            (.conditionRequires name)
          ++ (if name = "numeric_state" && lacksBounds data then [.conditionWithoutBound] else [])
      | v => if v.isKey then .ok [] else Outcome.fault .type

/-- A character of the names in an action. -/
def isActionChar (c : Char) : Bool := c.isLower || c.isDigit || c == '_'

/-- Whether a value is a domain and a service with a point between them. -/
def isActionName : Value → Bool
  | .str s =>
    let cs := Text.dropFinalBreak s.toList
    let domain := cs.takeWhile isActionChar
    match cs.dropWhile isActionChar with
    | '.' :: service => !domain.isEmpty && !service.isEmpty && service.all isActionChar
    | _ => false
  | _ => false

/-- Everything that a running automation would miss in a node. -/
def issues (limits : Limits) (n : Node) : Outcome (List NodeIssue) :=
  match n.kind with
  | .trigger => triggerIssues n.data
  | .condition => conditionIssues (limits.maxConditionDepth + 1).toNat n.data
  | .action =>
    let action := n.data.get "action"
    if n.data.isEmpty then .ok [.emptyAction]
    else if n.data.has "action" && !isActionName action then
      if action.hasText then .ok [.actionForm action] else Outcome.fault .value
    else .ok []
  | .delay => .ok (if isMissing (n.data.get "delay") then [.delayWithoutDuration] else [])
  | .wait => .ok <|
    if isMissing (n.data.get "wait_template") && isMissing (n.data.get "wait_for_trigger") then
      [.waitWithoutTarget]
    else []
  | .setVariables => .ok <|
    match n.data.get "variables" with
    | .map _ (_ :: _) => []
    | _ => [.noVariables]
  | .foreign _ => .ok []

end Node

namespace Graph

/-- The issues of all nodes, in the order of the nodes. -/
def notices (limits : Limits) (g : Graph) : Outcome (List Notice) :=
  g.nodes.foldlM (fun acc n => do
    return acc ++ (← n.issues limits).map (.node n.id)) []

end Graph

end Automation
