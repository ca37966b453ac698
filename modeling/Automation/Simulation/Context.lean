import Automation.Value.Access

/-!
# Simulated runs

What a simulated run reads and changes: the states of entities, the trigger that fired, variables,
and records of what was done. A run keeps its context when it fails (`Run.start`).
-/

namespace Automation

structure Context where
  /-- the states of entities, by entity id -/
  states : Entries := []
  /-- the number of the trigger that fired; negative numbers count from the last -/
  trigger : Int := 0
  /-- the id of that trigger -/
  triggerId : Value := .null
  vars : Entries := []
  /-- the nodes or states that were run -/
  trace : List Value := []
  /-- the entries that were run, and reports of runs that were cut off -/
  logs : List Value := []
  deriving Repr, Inhabited

/-- A part of a run. -/
abbrev Run (α : Type) := ExceptT Failure (StateM Context) α

namespace Run

variable {α : Type}

/-- The outcome of a run in a context, and the context behind it. -/
def start (r : Run α) (c : Context) : Outcome α × Context := r.run c

def lift (o : Outcome α) : Run α := ExceptT.mk (pure o)

/-- Notes that an entry was run. -/
def log (entry : Value) : Run Unit := modify fun c => { c with logs := c.logs ++ [entry] }

/-- Notes that a node or state is run. -/
def visit (v : Value) : Run Unit := modify fun c => { c with trace := c.trace ++ [v] }

/-- Sets a variable. -/
def assign (name : String) (v : Value) : Run Unit :=
  modify fun c => { c with vars := c.vars.set name v }

/-- Sets the variables that a value stands for. -/
def assignAll (v : Value) : Run Unit := do
  let (vars, outcome) := (← get).vars.update v
  modify fun c => { c with vars }
  lift outcome

/-- Notes that a run was cut off in a state. -/
def cutOff (limit : Int) (state : Value) : Run Unit :=
  log (.ofEntries [(.str "ceiling", .int limit), (.str "state", state)])

/-- Takes the id of the trigger, unless the context has one that counts. -/
def identify (triggerId : Run Value) : Run Unit := do
  if !(← get).triggerId.truthy then
    let id ← triggerId
    modify fun c => { c with triggerId := id }

/-- Runs an entry that does not branch: one that assigns sets its variables, any other is noted. -/
def applyEntry (entry : Value) (assigns : Bool) : Run Unit := do
  if assigns then
    let es ← lift entry.fields
    assignAll ((Entries.get? es "variables").getD (.ofEntries []))
  else log entry

end Run

end Automation
