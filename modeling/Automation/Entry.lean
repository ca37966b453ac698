import Automation.Failure
import Automation.Graph.Basic
import Automation.Notice

/-!
# Action entries

What an entry of an action list is: a branching block, a condition that stops the run when it fails,
or a step, which becomes a node of the same payload. Steps may use keys that were renamed since;
`Entry.renewStep` gives them their present names at every depth and tells which. Payloads without
old keys are left alone (`modernKey_of_not_has`). There is no end to the depths of an action that is
found inside itself (`Entry.isEndless`).
-/

namespace Automation

/-- What an entry of an action list is. -/
inductive EntryKind where
  | ifBlock
  | chooseBlock
  /-- a condition by itself -/
  | gate
  /-- anything else, as the kind of node that it becomes -/
  | step (kind : NodeKind)
  deriving Repr

namespace EntryKind

/-- The name of a kind of entry. -/
def name : EntryKind → Value
  | .ifBlock => .str "if"
  | .chooseBlock => .str "choose"
  | .gate => .str "condition"
  | .step kind => kind.toValue

def isIf : EntryKind → Bool
  | .ifBlock => true
  | _ => false

end EntryKind

namespace Entry

/-- The kind of an entry, by the first of its telling keys. An entry without one is an action that
graphs do not look into. -/
def kind (es : Entries) : EntryKind :=
  if es.has "if" then .ifBlock
  else if es.has "choose" then .chooseBlock
  else if es.has "condition" then .gate
  else if es.has "action" || es.has "service" then .step .action
  else if es.has "delay" then .step .delay
  else if es.has "wait_template" || es.has "wait_for_trigger" then .step .wait
  else if es.has "variables" then .step .setVariables
  else .step .action

/-- The flags that a branching block carries. -/
def flagsOf (es : Entries) : Entries :=
  blockFlags.filterMap fun key => (es.get? key).map (.str key, ·)

/-! ## Old keys -/

/-- An old key under its new name, or dropped when the new one is there too. -/
def modernKey (old new : String) (place : Place) (es : Entries) : Entries × List Notice :=
  if es.has old then
    if es.has new then (es.erase old, [.droppedKey place old new])
    else (es.rename old new, [.renamedKey place old new])
  else (es, [])

/-- Entries without the old key are left alone. -/
theorem modernKey_of_not_has {old new : String} {place : Place} {es : Entries}
    (h : es.has old = false) : modernKey old new place es = (es, []) := by
  simp [modernKey, h]

/-- A trigger with the present name of its platform. -/
def modernTrigger (place : Place) (es : Entries) : Entries × List Notice :=
  modernKey "platform" "trigger" place es

/-- An action with its present name. -/
def modernAction (place : Place) (es : Entries) : Entries × List Notice :=
  modernKey "service" "action" place es

/-- The triggers in a list, each with the present name of its platform. -/
def modernTriggers (place : Place) : Nat → List Value → List Value × List Notice
  | _, [] => ([], [])
  | i, v :: rest =>
    let (rest, more) := modernTriggers place (i + 1) rest
    match v.expose with
    | .map _ es =>
      let (es, notices) := modernTrigger (place.item i) es
      (.ofEntries es :: rest, notices ++ more)
    | _ => (v :: rest, more)

/-- A wait for triggers, as a list of them with present names. -/
def modernWait (place : Place) (es : Entries) : Entries × List Notice :=
  let place := place.field "wait_for_trigger"
  match (es.get "wait_for_trigger").expose with
  | .list _ items =>
    let (items, notices) := modernTriggers place 0 items
    (es.set "wait_for_trigger" (.ofItems items), notices)
  | .map o es' =>
    let (items, notices) := modernTriggers place 0 [.map o es']
    (es.set "wait_for_trigger" (.ofItems items), notices)
  | _ => (es, [])

/-- The keys under which an entry holds further entries. -/
def nestedKeys : List String :=
  ["sequence", "then", "else", "default", "parallel", "repeat", "choose"]

/-- The entries of a mapping, with the notices of what each holds, put together: the keys of the
mapping itself come first, then what it holds in the order of `nestedKeys`. -/
def joinFields (place : Place) (fields : List ((Value × Value) × List Notice)) :
    Entries × List Notice :=
  let (es, renamed) := modernAction place (fields.map (·.1))
  let (es, waits) := modernWait place es
  (es, renamed ++ waits ++ nestedKeys.flatMap fun key =>
    (fields.filter (·.1.1.isText key)).flatMap (·.2))

mutual
/-- A value inside an entry, with present names in all the entries that it holds. -/
def modernNested (place : Place) : Value → Value × List Notice
  | .list _ items =>
    let (items, notices) := modernItems place 0 items
    (.ofItems items, notices)
  | .map _ es =>
    let (es, notices) := joinFields place (modernFields place es)
    (.ofEntries es, notices)
  | v => (v, [])

/-- The items of a list, each with present names. -/
def modernItems (place : Place) : Nat → List Value → List Value × List Notice
  | _, [] => ([], [])
  | i, v :: rest =>
    let (v, notices) := modernNested (place.item i) v
    let (rest, more) := modernItems place (i + 1) rest
    (v :: rest, notices ++ more)

/-- The entries of a mapping, those that hold further entries with present names, and the notices of
each. -/
def modernFields (place : Place) : List (Value × Value) → List ((Value × Value) × List Notice)
  | [] => []
  | (k, v) :: rest =>
    let field :=
      match k with
      | .str key =>
        if nestedKeys.contains key then
          let (v, notices) := modernNested (place.field key) v
          ((k, v), notices)
        else ((k, v), [])
      | _ => ((k, v), [])
    field :: modernFields place rest
end

/-- The payload of a step, with present names as far as graphs look into steps of its kind. -/
def modernStep (kind : NodeKind) (place : Place) (es : Entries) : Entries × List Notice :=
  match kind with
  | .action =>
    let (es, renamed) := modernAction place es
    let (es, nested) := joinFields place (modernFields place es)
    (es, renamed ++ nested)
  | .wait => modernWait place es
  | _ => (es, [])

/-! ## Actions inside themselves -/

mutual
/-- Whether a reader who looks into a value comes to a collection that it is still looking into. -/
def isEndless : Value → Bool
  | .list _ items => itemsEndless items
  | .map _ es => fieldsEndless es
  | .enclosing .. => true
  | _ => false

/-- The same of the items of a list. -/
def itemsEndless : List Value → Bool
  | [] => false
  | v :: rest => isEndless v || itemsEndless rest

/-- The same of the entries of a mapping, of which those that hold further entries are looked
into. -/
def fieldsEndless : List (Value × Value) → Bool
  | [] => false
  | (k, v) :: rest => nestedKeys.any (k.isText ·) && isEndless v || fieldsEndless rest
end

/-- Whether a step of a kind is looked into without end. -/
def isEndlessStep (kind : NodeKind) (es : Entries) : Bool :=
  match kind with
  | .action => fieldsEndless es
  | _ => false

/-- The payload of a step, with present names, unless there is no end to it. -/
def renewStep (kind : NodeKind) (place : Place) (es : Entries) :
    Outcome (Entries × List Notice) :=
  if isEndlessStep kind es then Outcome.fault .overflow else .ok (modernStep kind place es)

end Entry

end Automation
