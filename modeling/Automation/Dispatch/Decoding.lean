import Automation.Dispatch.Loop
import Automation.Failure

/-!
# Decoding dispatch loops

The graph of a dispatch loop: a node for each option of its choice, and an edge for each assignment
of a state. Actions of any other form are refused with what is wrong with them; actions that are
empty are the loop of a graph that has only triggers.
-/

namespace Automation

namespace Dispatch

/-- The state that an entry assigns, if that is all it does. -/
def assigned? : Value → Option String
  | .map _ [(k, .map _ [(name, .str state)])] =>
    if k.isText "variables" && name.isText stateVariable then some state else none
  | _ => none

/-- The state of a test: the quoted name that the template compares `current_node` with. -/
def testedState? (template : String) : Option String := do
  let cs ← Text.dropFront? "\x7b\x7b".toList (Text.trim template.toList)
  let cs ← Text.dropFront? stateVariable.toList (Text.trimStart cs)
  let cs ← Text.dropFront? "==".toList (Text.trimStart cs)
  let cs ← Text.dropFront? ['\''] (Text.trimStart cs)
  let state := cs.takeWhile Text.isIdChar
  let cs ← Text.dropFront? ['\''] (cs.dropWhile Text.isIdChar)
  if state.isEmpty || Text.trimStart cs != "\x7d\x7d".toList then none
  else some (String.ofList state)

/-- The state that an option tests. A list of one condition counts as that condition. -/
def readTest (option : Entries) : Outcome String :=
  let conditions := match (option.get "conditions").expose with
    | .list _ [single] => single
    | v => v
  let template := match conditions.expose with
    | .map _ es => Entries.get es "value_template"
    | v => v
  match template.text?.bind testedState? with
  | some state => .ok state
  | none => Outcome.malformed (.dispatch (.noStateTest conditions))

/-- The items of a list, each by itself and exposed; none when the value is no list. -/
def items (v : Value) : List Value :=
  match v.expose with
  | .list _ items => items.map Value.expose
  | _ => []

/-- The state that the only entry of a branch assigns. -/
def readBranch (state branch : String) (v : Value) : Outcome String :=
  let target := match v with
    | .list _ [entry] => assigned? entry
    | _ => none
  match target with
  | some target => .ok target
  | none => Outcome.malformed (.dispatch (.mustAssign state branch))

/-- A node of a loop, and the states that follow its state. -/
structure Decoded where
  node : Node
  /-- the handle and the next state of each edge -/
  exits : List (Option String × String)

/-- The if block that is the whole effect of a state, perhaps behind the assignment for when it is
disabled. -/
def branchOf? (steps : List Value) : Option Entries :=
  match steps with
  | [.map _ es] => if (Entry.kind es).isIf then some es else none
  | [skip, .map _ es] =>
    if (assigned? skip).isSome && (Entry.kind es).isIf then some es else none
  | _ => none

/-- The condition that an if block of the loop stands for. -/
def readCondition (limits : Limits) (state : String) (es : Entries) : Outcome Decoded := do
  let data ← Condition.payload limits (es.get "if")
  let whenTrue ← readBranch state "then" (es.get "then")
  let whenFalse ← readBranch state "else" (es.get "else")
  return {
    node :=
      { id := state, kind := .condition, data, label := es.get "alias", flags := Entry.flagsOf es }
    exits := [(some handleTrue, whenTrue), (some handleFalse, whenFalse)] }

/-- The node that an option of the choice stands for. -/
def readOption (limits : Limits) (option : Value) : Outcome Decoded := do
  let es ← match option.expose with
    | .map _ es => .ok es
    | v => Outcome.malformed (.dispatch (.optionNotMapping v))
  let state ← readTest es
  match (items (Entries.get es "sequence")) with
  | .map o first :: rest =>
    match branchOf? (.map o first :: rest) with
    | some branch => readCondition limits state branch
    | none =>
      match rest.map assigned? with
      | [some next] =>
        match Entry.kind first with
        | .step kind =>
          return { node := { id := state, kind, data := first }, exits := [(none, next)] }
        | _ => Outcome.malformed (.dispatch (.structuredEffect state))
      | _ => Outcome.malformed (.dispatch (.unexpectedSequence state))
  | _ => Outcome.malformed (.dispatch (.noSequence state))

/-- The text that gives the first state, and the options of the choice. -/
def readLoop (actions : List Value) : Outcome (String × List Value) :=
  match actions with
  | start :: .map _ es :: _ =>
    match assigned? start, (Entries.get es "repeat").expose with
    | some start, .map _ loop =>
      match items (Entries.get loop "sequence") with
      | [.map _ choice] =>
        match (Entries.get choice "choose").expose with
        | .list _ options => .ok (start, options)
        | _ => refuse .bodyNotChoose
      | _ => refuse .bodyNotSingle
    | _, _ => refuse .noStart
  | _ :: _ :: _ => refuse .noStart
  | _ => refuse .noLoop
where
  refuse (problem : DispatchProblem) : Outcome (String × List Value) :=
    Outcome.malformed (.dispatch problem)

/-- The edge of a transition, none when the run ends there. The next state must be that of a known
node. -/
def readTransition (known : List String) (source target : String) (handle : Option String) :
    Outcome (Option Edge) :=
  if target = endState then .ok none
  else if known.contains target then .ok (some (.between source target handle))
  else Outcome.malformed (.dispatch (.unknownState source target))

/-- The ids of triggers that have none of their own. -/
def numberedTriggers (count : Nat) : List String :=
  (List.range count).map fun i => "trigger_" ++ toString (i + 1)

/-- The graph of a loop, given the triggers of the document and the ids for them. -/
def decode (limits : Limits) (triggers : List Entries) (actions : List Value)
    (triggerIds : List String) : Outcome Graph := do
  let ids := if triggerIds.isEmpty then numberedTriggers triggers.length else triggerIds
  let starts := (ids.zip triggers).map fun t => { id := t.1, kind := .trigger, data := t.2 : Node }
  if actions.isEmpty then return { nodes := starts }
  let (start, options) ← readLoop actions
  let decoded ← options.mapM (readOption limits)
  let nodes := starts ++ decoded.map (·.node)
  let routed := (ids.zipIdx.map fun t => (t.1, none, Routing.resolve start t.2)).filter
    (·.2.2 != "")
  let transitions := routed ++ decoded.flatMap fun d => d.exits.map fun x => (d.node.id, x.1, x.2)
  let edges ← transitions.mapM fun (source, handle, target) =>
    readTransition (nodes.map (·.id)) source target handle
  return { nodes, edges := edges.filterMap id }

end Dispatch

end Automation
