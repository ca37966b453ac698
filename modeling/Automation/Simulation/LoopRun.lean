import Automation.Dispatch.Loop
import Automation.Simulation.Guard

/-!
# Running a dispatch loop

A run of the actions of a document as a dispatch loop: the first state, then passes over the options
of the loop until its condition to stop holds or the limit of passes is reached. Each pass runs the
first option whose conditions hold, or what the loop does by default. The document is taken as it
is; what has not the form of a loop is a fault where the run comes to it.
-/

namespace Automation

namespace LoopRun

/-- Runs a step that is no mapping. One that seems to branch or to assign is no entry. -/
def runOther (step : Value) : Run Unit := do
  if ← Run.lift (step.holdsText "if") then Run.lift (Outcome.fault .property)
  else Run.applyEntry step (← Run.lift (step.holdsText "variables"))

mutual
/-- Runs a step: a block runs one of its branches, unless it is disabled. -/
def runStep : Value → Run Unit
  | .map o es =>
    if Entries.has es "if" then
      if (Entries.get es "enabled").isFalse then return
      else do
        let conditions := Value.ofItems (Entries.get es "if").asItems
        let c ← get
        if ← Run.lift (Guard.evaluateAll c conditions) then runBranch "then" es
        else runBranch "else" es
    else Run.applyEntry (.map o es) (Entries.has es "variables")
  | v => runOther v

/-- Runs a branch of a block, if there is one. -/
def runBranch (name : String) : List (Value × Value) → Run Unit
  | [] => return
  | (k, v) :: rest =>
    if k.isText name then if v.truthy then runSteps v else return
    else runBranch name rest

/-- Runs the elements of a value as steps. -/
def runSteps : Value → Run Unit
  | .list _ items => runEach items
  | .tuple _ items => runEach items
  | .set _ items => runEach items
  | v => do
    let steps ← Run.lift v.elements
    steps.forM runOther

/-- Runs each of some steps. -/
def runEach : List Value → Run Unit
  | [] => return
  | v :: vs => do
    runStep v
    runEach vs
end

/-- The state that a run starts in, given the value that says so. A collection is a state of its
own, unless it holds the mark of a template. -/
def startState (v : Value) (trigger : Int) : Outcome Value :=
  match v with
  | .str expression => .ok (.str (Routing.resolve expression trigger))
  | v => do if ← v.holdsText "\x7b%" then Outcome.fault .type else return v

/-- The first of some options whose conditions hold. -/
def chooseOption (c : Context) : List Value → Outcome (Option Value)
  | [] => .ok none
  | option :: rest => do
    let conditions ← option.lookup (.str "conditions")
    if ← Guard.evaluateAll c conditions then return some option else chooseOption c rest

/-- The state that a run is in. -/
def currentState : Run Value := do
  Run.lift (Outcome.orFault ((← get).vars.get? Dispatch.stateVariable) .key)

/-- One pass over the options of a choice. -/
def runPass (choice : Value) : Run Unit := do
  let options ← Run.lift (choice.lookup (.str "choose"))
  let options ← Run.lift options.elements
  let c ← get
  match ← Run.lift (chooseOption c options) with
  | some option =>
    Run.visit (← currentState)
    runSteps (← Run.lift (option.lookup (.str "sequence")))
  | none =>
    let es ← Run.lift choice.fields
    runSteps ((Entries.get? es "default").getD (.ofItems []))

/-- Passes from a number on, with some left of a limit. -/
def runPasses (loop choice : Value) (limit : Int) : Nat → Nat → Run Unit
  | left, index => do
    Run.assign "repeat" (.ofEntries [(.str "index", .int index)])
    match left with
    | 0 => Run.cutOff limit (← currentState)
    | left + 1 =>
      runPass choice
      let until? ← Run.lift (loop.lookup (.str "until"))
      let c ← get
      if ← Run.lift (Guard.evaluateAll c until?) then return
      else runPasses loop choice limit left (index + 1)

/-- The id of the trigger that fired, among the triggers of a document. -/
def triggerId (triggers : Value) (trigger : Int) : Outcome Value := do
  let es ← (← triggers.lookup (.int trigger)).fields
  return Entries.get es "id"

/-- Runs the actions of a document, for at most a number of passes. -/
def run (limits : Limits) (document : Value) (maxSteps : Option Int) : Run Unit := do
  let limit := maxSteps.getD limits.maxIterations
  let es ← Run.lift document.fields
  let actions := (Entries.get? es "actions").getD (.ofItems [])
  if !actions.truthy then return
  let triggers := (Entries.get? es "triggers").getD (.ofItems [])
  let c ← get
  Run.identify (Run.lift (triggerId triggers c.trigger))
  let first ← Run.lift (actions.lookup (.int 0))
  let vars ← Run.lift (first.lookup (.str "variables"))
  let start ← Run.lift (vars.lookup (.str Dispatch.stateVariable))
  Run.assign Dispatch.stateVariable (← Run.lift (startState start c.trigger))
  let second ← Run.lift (actions.lookup (.int 1))
  let loop ← Run.lift (second.lookup (.str "repeat"))
  let sequence ← Run.lift (loop.lookup (.str "sequence"))
  let choice ← Run.lift (sequence.lookup (.int 0))
  runPasses loop choice limit limit.toNat 1

end LoopRun

end Automation
