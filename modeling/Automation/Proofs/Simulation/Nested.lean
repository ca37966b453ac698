import Automation.Document.Reading
import Automation.Proofs.Simulation.Run
import Automation.Simulation.Guard

/-!
# Runs of nested entries

What a document says is run, told by its nesting alone and without a graph: `AutomationRecord.run`
passes the conditions of the document one after the other, and then runs its actions. A part of such
a run tells whether the run goes on behind it. An entry that chooses runs one of its branches and
goes on, an entry that is a condition stops the run when it fails, and any other assigns or is
noted.

Payloads and conditions are those of the nodes that a reading makes of the entries, and there are as
many levels of entries inside entries as a reading goes down.
-/

namespace Automation

namespace Run

/-- Whether a condition holds where the run has come to. -/
def holds (data : Entries) : Run Bool := do lift (Guard.evaluate (← get) (.ofEntries data))

/-- Whether the condition of an entry holds. -/
def test (data : Outcome Entries) : Run Bool := do holds (← lift data)

/-- Runs parts in turn, until one stops the run. -/
def inTurn : List (Run Bool) → Run Bool
  | [] => return true
  | r :: rest => do if ← r then inTurn rest else return false

/-- Runs what belongs to the first condition that holds, or what is left otherwise. -/
def firstOf : List (Run Bool × Run Bool) → Run Bool → Run Bool
  | [], otherwise => otherwise
  | (condition, body) :: rest, otherwise => do
    if ← condition then body else firstOf rest otherwise

end Run

/-- Whether nodes of a kind set variables. -/
def NodeKind.assigns : NodeKind → Bool
  | .setVariables => true
  | _ => false

namespace Entry

open Condition (normalize payload)

/-- What runs a list of entries one level further in. -/
abbrev Inside := Value → Place → Run Bool

/-- The condition of an option of a choose block, and what is run when it holds. -/
def runOption (limits : Limits) (inside : Inside) (option : Value) (place : Place) :
    Run Bool × Run Bool :=
  match option.expose with
  | .map _ es => (Run.test (payload limits (Entries.get es "conditions")),
      inside (Entries.get es "sequence") (place.field "sequence"))
  | _ => (Run.lift (Outcome.malformed (.document (.optionWithoutConditions place))), pure true)

/-- Runs one of the two branches of an if block. -/
def runIf (limits : Limits) (inside : Inside) (es : Entries) (place : Place) : Run Bool := do
  if ← Run.test (payload limits (es.get "if")) then inside (es.get "then") (place.field "then")
  else inside (es.get "else") (place.field "else")

/-- Runs the first option of a choose block that holds, or its default. -/
def runChoose (limits : Limits) (inside : Inside) (es : Entries) (place : Place) : Run Bool :=
  Run.firstOf ((Program.entriesOf (es.get "choose")).zipIdx.map fun option =>
      runOption limits inside option.1 ((place.field "choose").item option.2))
    (inside (es.get "default") (place.field "default"))

/-- Runs an entry. What is inside it cannot be run when no level is left. -/
def run (limits : Limits) (inside? : Option Inside) (entry : Value) (place : Place) : Run Bool :=
  match entry.expose with
  | .map _ es =>
    let branching (body : Inside → Run Bool) : Run Bool :=
      match inside? with
      | some inside => body inside
      | none => Run.lift (Outcome.tooLarge (.blockDepth place limits.maxNesting))
    match kind es with
    | .ifBlock => branching fun inside => runIf limits inside es place
    | .chooseBlock => branching fun inside => runChoose limits inside es place
    | .gate => Run.test (normalize limits entry)
    | .step kind => do
      Run.applyEntry (.ofEntries (modernStep kind place (apart kind place es)).1) kind.assigns
      return true
  | v => Run.lift (Outcome.malformed (.document (.entryNotMapping place v.kindName)))

/-- Runs the entries of a list, each at its place. -/
def runEach (inside? : Option Inside) (limits : Limits) (entries : Value) (place : Place) :
    Run Bool :=
  Run.inTurn <| (Program.entriesOf entries).zipIdx.map fun entry =>
    run limits inside? entry.1 (place.item entry.2)

/-- Runs a list of entries with some levels of entries inside entries left. -/
def runList (limits : Limits) : Nat → Value → Place → Run Bool
  | 0, entries, place => runEach none limits entries place
  | levels + 1, entries, place =>
    runEach (some fun v p => runList limits levels v p) limits entries place

end Entry

/-- Runs an automation as its document says: the trigger that fired gives its id, and the actions
are run when the conditions hold. -/
def AutomationRecord.run (limits : Limits) (r : AutomationRecord) : Run Unit := do
  let trigger ← Run.lift (Value.itemAt (Document.modernTriggers r.triggers).1 (← get).trigger)
  Run.identify (return trigger.get "id")
  if ← Run.inTurn (r.conditions.map fun v => Run.test (Condition.normalize limits v)) then
    let _ ← Entry.runList limits limits.maxNesting.toNat (.ofItems (r.actions.map .ofEntries))
      { root := "actions" }

namespace Run

@[simp] theorem test_ok (data : Entries) : test (.ok data) = holds data := rfl

end Run

end Automation
