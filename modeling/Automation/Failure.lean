import Automation.Place
import Automation.Value.Show

/-!
# Failures

Why an operation has no result. A `Refusal` is the library's own answer to a document or graph that
it does not accept, with a kind and a message. A `Fault` is a use of a value that the value does not
support, such as looking up a collection as a key; it has a kind only. Causes are data, and their
wording is in the `message` functions alone.

A message may quote values. When one of those holds an integer that cannot be written there is no
message, and the refusal is a fault (`Refusal.failure`).
-/

namespace Automation

/-- A violation of the invariants of a graph. -/
inductive GraphProblem where
  | emptyId
  | duplicateId (id : String)
  | illegalId (id : String)
  | reservedId
  | unknownKind (kind : Value) (id : String)
  | noTrigger
  | unknownEnd (source target : String)
  | entersTrigger (trigger source : String)
  | foreignHandle (node handle : String)
  | repeatedHandle (node handle : String)
  | manyEdges (node : String) (count : Nat)
  deriving Repr

def GraphProblem.message : GraphProblem → String
  | .emptyId => "Node with empty id"
  | .duplicateId id => s!"Duplicate node id: {id}"
  | .illegalId id => s!"Invalid characters in node id: " ++ Text.quote id
  | .reservedId => "Node id 'END' is reserved"
  | .unknownKind kind id => s!"Unknown node type " ++ kind.quoted ++ s!" on node {id}"
  | .noTrigger => "Graph has no trigger node"
  | .unknownEnd source target => s!"Edge references unknown node: {source} -> {target}"
  | .entersTrigger trigger source => s!"Trigger node {trigger} has an incoming edge from {source}"
  | .foreignHandle node handle =>
    s!"Condition node {node} has an edge with handle " ++ Text.quote handle
  | .repeatedHandle node handle =>
    s!"Condition node {node} has more than one " ++ Text.quote handle ++ " edge"
  | .manyEdges node count =>
    s!"Node {node} has {count} outgoing edges; only condition nodes may branch"

/-- The values that the message quotes. -/
def GraphProblem.values : GraphProblem → List Value
  | .unknownKind kind _ => [kind]
  | _ => []

/-- Why the value of a field does not fit its record. -/
inductive FieldFault where
  | notString
  | notUnicode
  | notList
  | notMapping
  | notRecord (record : String)
  | missing
  | extra
  | keyNotString
  | notOneOf (choices : List String)
  | notInteger
  | integerText
  | integerFraction
  | integerSize
  | notFinite
  | notBoolean
  | booleanText
  | notNumber
  | numberText
  deriving DecidableEq, Repr

/-- Choices in quotes, the last behind "or". -/
def FieldFault.renderChoices : List String → String
  | [] => ""
  | [a] => "'" ++ a ++ "'"
  | [a, b] => "'" ++ a ++ "' or '" ++ b ++ "'"
  | a :: rest => "'" ++ a ++ "', " ++ renderChoices rest

def FieldFault.message : FieldFault → String
  | .notString => "Input should be a valid string"
  | .notUnicode => "Input should be a valid string, unable to parse raw data as a unicode string"
  | .notList => "Input should be a valid list"
  | .notMapping => "Input should be a valid dictionary"
  | .notRecord record => s!"Input should be a valid dictionary or instance of {record}"
  | .missing => "Field required"
  | .extra => "Extra inputs are not permitted"
  | .keyNotString => "Keys should be strings"
  | .notOneOf choices => "Input should be " ++ renderChoices choices
  | .notInteger => "Input should be a valid integer"
  | .integerText => "Input should be a valid integer, unable to parse string as an integer"
  | .integerFraction => "Input should be a valid integer, got a number with a fractional part"
  | .integerSize => "Unable to parse input string as an integer, exceeded maximum size"
  | .notFinite => "Input should be a finite number"
  | .notBoolean => "Input should be a valid boolean"
  | .booleanText => "Input should be a valid boolean, unable to interpret input"
  | .notNumber => "Input should be a valid number"
  | .numberText => "Input should be a valid number, unable to parse string as a number"

/-- A field that does not fit, by its path from the root of the record. -/
structure FieldIssue where
  path : List String
  fault : FieldFault
  deriving DecidableEq, Repr

def FieldIssue.message (issue : FieldIssue) : String :=
  (if issue.path.isEmpty then "<root>" else String.intercalate "." issue.path)
    ++ ": " ++ issue.fault.message

/-- A record that values are checked against. -/
inductive RecordKind where
  | automation
  | graph
  deriving DecidableEq, Repr

/-- What is wrong with the sections of a document or with an action entry. -/
inductive DocumentProblem where
  | invalidText
  | notDocument (kind : String)
  | empty
  | rootNotMapping (kind : String)
  | bothKeys (old new : String)
  | missingSection (name : String)
  | noTriggers
  | entryNotMapping (place : Place) (kind : String)
  | optionWithoutConditions (place : Place)
  | conditionsInDispatch
  deriving DecidableEq, Repr

def DocumentProblem.message : DocumentProblem → String
  | .invalidText => "Invalid YAML"
  | .notDocument kind => s!"Document must be YAML text or a mapping, got {kind}"
  | .empty => "Document is empty"
  | .rootNotMapping kind => s!"Document root must be a mapping, got {kind}"
  | .bothKeys old new => s!"Document has both '" ++ old ++ "' and '" ++ new ++ "'"
  | .missingSection name => s!"Missing required top-level field: {name}"
  | .noTriggers => "Automation has no triggers"
  | .entryNotMapping place kind =>
    place.render ++ s!": action entry must be a mapping, got {kind}"
  | .optionWithoutConditions place =>
    place.render ++ ": choose option requires 'conditions'"
  | .conditionsInDispatch => "state-machine documents carry no top-level conditions"

/-- What is wrong with a condition. -/
inductive ConditionProblem where
  | notCondition (kind : String)
  | noKind (condition : Value)
  | kindNotText (kind : Value)
  deriving Repr

def ConditionProblem.message : ConditionProblem → String
  | .notCondition kind => s!"Condition must be a mapping or template string, got {kind}"
  | .noKind condition => "Condition is missing the 'condition' key: " ++ condition.quoted
  | .kindNotText kind => "Condition type must be a string, got " ++ kind.quoted

/-- The values that the message quotes. -/
def ConditionProblem.values : ConditionProblem → List Value
  | .notCondition _ => []
  | .noKind condition => [condition]
  | .kindNotText kind => [kind]

/-- How the actions of a document differ from a dispatch loop. -/
inductive DispatchProblem where
  | noLoop
  | noStart
  | bodyNotSingle
  | bodyNotChoose
  | optionNotMapping (option : Value)
  | noStateTest (conditions : Value)
  | noSequence (state : String)
  | mustAssign (state branch : String)
  | structuredEffect (state : String)
  | unexpectedSequence (state : String)
  | unknownState (source target : String)
  deriving Repr

def DispatchProblem.message : DispatchProblem → String
  | .noLoop => "actions do not contain a dispatch loop"
  | .noStart => "actions do not start with the state variable and a repeat loop"
  | .bodyNotSingle => "repeat body is not a single dispatch block"
  | .bodyNotChoose => "repeat body is not a choose dispatch"
  | .optionNotMapping option => "dispatch option must be a mapping: " ++ option.quoted
  | .noStateTest conditions => "dispatch option has no state test: " ++ conditions.quoted
  | .noSequence state => s!"dispatch option {state} has no sequence"
  | .mustAssign state branch => s!"{state} {branch} must assign current_node"
  | .structuredEffect state => s!"dispatch option {state} has a structured effect"
  | .unexpectedSequence state => s!"dispatch option {state} has an unexpected sequence"
  | .unknownState source target => s!"transition from {source} to unknown state {target}"

/-- The values that the message quotes. -/
def DispatchProblem.values : DispatchProblem → List Value
  | .optionNotMapping option => [option]
  | .noStateTest conditions => [conditions]
  | _ => []

/-- Why a document or graph is malformed. -/
inductive StructuralCause where
  | document (problem : DocumentProblem)
  | record (kind : RecordKind) (issues : List FieldIssue)
  | graphNotMapping (kind : String)
  | notGraph (kind : String)
  | graph (problems : List GraphProblem)
  | condition (problem : ConditionProblem)
  | dispatch (problem : DispatchProblem)
  | unknownNodeKind (kind : Value)
  deriving Repr

def StructuralCause.message : StructuralCause → String
  | .document problem => problem.message
  | .record kind issues =>
    (match kind with
      | .automation => "Automation validation error: "
      | .graph => "Graph validation error: ")
      ++ String.intercalate "; " (issues.map FieldIssue.message)
  | .graphNotMapping kind => s!"Graph must be a mapping, got {kind}"
  | .notGraph kind => s!"Expected a FlowGraph or a graph mapping, got {kind}"
  | .graph problems => String.intercalate "; " (problems.map GraphProblem.message)
  | .condition problem => problem.message
  | .dispatch problem => problem.message
  | .unknownNodeKind kind => "No lowering registered for node type: " ++ kind.plain

/-- The values that the message quotes. -/
def StructuralCause.values : StructuralCause → List Value
  | .graph problems => problems.flatMap GraphProblem.values
  | .condition problem => problem.values
  | .dispatch problem => problem.values
  | .unknownNodeKind kind => [kind]
  | _ => []

/-- Which limit was exceeded. -/
inductive SizeCause where
  | graphNodes (count : Nat) (limit : Int)
  | parsedNodes (limit : Int)
  | conditionDepth (limit : Int)
  | conditionLeaves (limit : Int)
  | branchDepth (limit : Int)
  | blockDepth (place : Place) (limit : Int)
  | chooseBudget (place : Place) (options produced : Nat) (budget perOption : Int)
  deriving DecidableEq, Repr

def SizeCause.message : SizeCause → String
  | .graphNodes count limit => s!"Graph has {count} nodes, limit is {limit}"
  | .parsedNodes limit => s!"Graph exceeds {limit} nodes"
  | .conditionDepth limit => s!"Condition nesting exceeds {limit} levels"
  | .conditionLeaves limit => s!"Condition has more than {limit} entries"
  | .branchDepth limit => s!"Branch nesting exceeds {limit} levels"
  | .blockDepth place limit => place.render ++ s!": nesting exceeds {limit} levels"
  | .chooseBudget place options produced budget perOption =>
    place.render ++ s!": choose block with {options} option(s) produced {produced} nodes, "
      ++ s!"budget is {budget} ({perOption} per option)"

/-- A document or graph that is not accepted. -/
inductive Refusal where
  | structural (cause : StructuralCause)
  | tooLarge (cause : SizeCause)
  | unknownStrategy (name : Value)
  /-- native blocks asked for on a graph that cannot be written with them -/
  | conflict (description : String)
  deriving Repr

namespace Refusal

def kind : Refusal → String
  | .structural _ => "StructuralError"
  | .tooLarge _ => "OutputSizeError"
  | .unknownStrategy _ => "TranspileError"
  | .conflict _ => "StrategyConflictError"

def message : Refusal → String
  | .structural cause => cause.message
  | .tooLarge cause => cause.message
  | .unknownStrategy name =>
    "Unknown strategy " ++ name.quoted ++ ", expected one of native, state-machine"
  | .conflict description => description

/-- A refusal as one line: its kind and its message. -/
def render (r : Refusal) : String := r.kind ++ ": " ++ r.message

/-- The values that the message quotes. -/
def values : Refusal → List Value
  | .structural cause => cause.values
  | .unknownStrategy name => [name]
  | _ => []

end Refusal

/-- A use of a value that the value does not support. -/
inductive Fault where
  /-- an operation on a value of the wrong kind, or a collection looked up as a key -/
  | type
  /-- a value of the right kind outside the range of the operation -/
  | value
  /-- a missing key -/
  | key
  /-- a missing position -/
  | index
  /-- a missing property -/
  | property
  /-- a text that is no JSON -/
  | json
  /-- an integer beyond the largest binary number, or a value whose parts have no end -/
  | overflow
  deriving DecidableEq, Repr

/-- Why an operation has no result. -/
inductive Failure where
  | refused (r : Refusal)
  | fault (f : Fault)
  deriving Repr

/-- A refusal, or a fault when its message cannot be written. -/
def Refusal.failure (r : Refusal) : Failure :=
  if r.values.all (·.hasText) then .refused r else .fault .value

/-- A refusal whose message quotes nothing can be written. -/
theorem Refusal.failure_of_values {r : Refusal} (h : r.values = []) : r.failure = .refused r := by
  simp [failure, h]

/-- The result of an operation, or why there is none. -/
abbrev Outcome (α : Type) := Except Failure α

namespace Outcome

/-- Refuses a document or graph. -/
def refuse {α : Type} (r : Refusal) : Outcome α := .error r.failure

/-- Refuses a document or graph as malformed. -/
def malformed {α : Type} (cause : StructuralCause) : Outcome α := refuse (.structural cause)

/-- Refuses a document or graph as too large. -/
def tooLarge {α : Type} (cause : SizeCause) : Outcome α := refuse (.tooLarge cause)

/-- Fails on a value that does not support its use. -/
def fault {α : Type} (f : Fault) : Outcome α := .error (.fault f)

/-- The value of an option, or a fault when there is none. -/
def orFault {α : Type} (o : Option α) (f : Fault) : Outcome α :=
  match o with
  | some a => .ok a
  | none => fault f

end Outcome

end Automation
