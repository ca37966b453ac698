import Automation.Failure

/-!
# Notices

What an operation that succeeds has to say: keys that were renamed or dropped, metadata that was not
used, parts of a graph that were left out, and fields of nodes that look incomplete. Notices are
data; `Notice.message` is their wording.
-/

namespace Automation

/-- Something about the payload of a node that a running automation would not accept. -/
inductive NodeIssue where
  | triggerWithoutPlatform
  | triggerRequires (platform key : String)
  | triggerWithoutBound
  | conditionWithoutKind
  | emptyGroup (kind : String)
  | conditionRequires (kind key : String)
  | conditionWithoutBound
  | emptyAction
  | actionForm (action : Value)
  | delayWithoutDuration
  | waitWithoutTarget
  | noVariables
  deriving Repr

def NodeIssue.message : NodeIssue → String
  | .triggerWithoutPlatform => "trigger has no platform"
  | .triggerRequires platform key => s!"{platform} trigger requires '" ++ key ++ "'"
  | .triggerWithoutBound => "numeric_state trigger requires 'above' or 'below'"
  | .conditionWithoutKind => "condition has no type"
  | .emptyGroup kind => s!"{kind} condition requires at least one sub-condition"
  | .conditionRequires kind key => s!"{kind} condition requires '" ++ key ++ "'"
  | .conditionWithoutBound => "numeric_state condition requires 'above' or 'below'"
  | .emptyAction => "action has no payload"
  | .actionForm action => "action must be in the form 'domain.service', got " ++ action.quoted
  | .delayWithoutDuration => "delay requires a duration"
  | .waitWithoutTarget => "wait requires 'wait_template' or 'wait_for_trigger'"
  | .noVariables => "set_variables requires at least one variable"

/-- Why a metadata block was not used. -/
inductive MetadataNotice where
  | notMapping (kind : String)
  | unknownVersion (version : Value)
  | invalidFields (count : Nat)
  | unknownStrategy (strategy : String)
  | idCount (listed produced : Nat)
  | unusableIds (problem : GraphProblem)
  deriving Repr

def MetadataNotice.message : MetadataNotice → String
  | .notMapping kind => s!"Discarded corrupt metadata: expected a mapping, got {kind}"
  | .unknownVersion version =>
    "Discarded metadata with unknown schema version " ++ version.quoted
  | .invalidFields count => s!"Discarded corrupt metadata: {count} invalid field(s)"
  | .unknownStrategy strategy =>
    "Discarded metadata with unknown strategy " ++ Text.quote strategy
  | .idCount listed produced =>
    s!"Metadata lists {listed} node ids but the document produced {produced} nodes; "
      ++ "keeping generated ids"
  | .unusableIds problem =>
    s!"Metadata node ids are unusable ({problem.message}); keeping generated ids"

/-- Something that an operation has to say about its input. -/
inductive Notice where
  /-- a section of the document under its old name -/
  | renamedSection (old new : String)
  /-- a section of the document that is not known -/
  | ignoredSection (key : String)
  /-- an old key next to its new one -/
  | droppedKey (place : Place) (old new : String)
  /-- an old key -/
  | renamedKey (place : Place) (old new : String)
  /-- a key that a branching block cannot carry in a graph -/
  | unrepresentedKey (place : Place) (key : Value)
  | metadata (notice : MetadataNotice)
  /-- actions that claim to be a dispatch loop and are none -/
  | notDispatch (cause : StructuralCause)
  | node (id : String) (issue : NodeIssue)
  /-- nodes that no trigger leads to -/
  | omitted (ids : List String)
  | cycles (iterations : Int)
  | noActions
  deriving Repr

/-- The values that the message quotes. -/
def Notice.values : Notice → List Value
  | .unrepresentedKey _ key => [key]
  | .metadata (.unknownVersion version) => [version]
  | .node _ (.actionForm action) => [action]
  | _ => []

/-- The text of an issue of a node. -/
def NodeIssue.describe (id : String) (issue : NodeIssue) : String :=
  s!"Node {id}: " ++ issue.message

def Notice.message : Notice → String
  | .renamedSection old new => s!"Legacy key '" ++ old ++ "' renamed to '" ++ new ++ "'"
  | .ignoredSection key => s!"Ignored unknown automation key '" ++ key ++ "'"
  | .droppedKey place old new =>
    place.render ++ ": dropped legacy key '" ++ old ++ "' next to '" ++ new ++ "'"
  | .renamedKey place old new =>
    place.render ++ ": legacy key '" ++ old ++ "' renamed to '" ++ new ++ "'"
  | .unrepresentedKey place key =>
    place.render ++ ": key '" ++ key.plain
      ++ "' on a branching block is not represented in the graph and was dropped"
  | .metadata notice => notice.message
  | .notDispatch cause =>
    "Could not decode state-machine actions, parsing structurally: " ++ cause.message
  | .node id issue => "ValidationError: " ++ issue.describe id
  | .omitted ids =>
    s!"Omitted {ids.length} node(s) not reachable from a trigger: " ++ String.intercalate ", " ids
  | .cycles iterations =>
    s!"Graph contains cycles; the emulation loop stops after {iterations} iterations"
  | .noActions => "No node is reachable from a trigger; the automation has no actions"

namespace Notice

/-- Notices whose messages can be written; it is a fault if one of them cannot. -/
def check (notices : List Notice) : Outcome Unit :=
  if (notices.flatMap (·.values)).all (·.hasText) then .ok () else Outcome.fault .value

/-- The messages of some notices. -/
def messages (notices : List Notice) : Outcome (List String) := do
  check notices
  return notices.map (·.message)

end Notice

end Automation
