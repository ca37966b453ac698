import Automation.Dispatch.Loop
import Automation.Proofs.Template.Names
import Automation.Proofs.Value.Entries

/-!
# Contexts that are alike

What the run of a graph and the run of its dispatch loop have in common: the states, the trigger and
the trace, the variables apart from those of the loop, and the log apart from reports. Contexts stay
alike under every change that either run makes, and a condition that does not ask for the variables
of the loop has one outcome in both (`Alike.evaluate_eq`).
-/

namespace Automation

open Dispatch

/-- The variables that a dispatch loop uses for itself. -/
def loopVariables : List String := [stateVariable, "repeat"]

/-- The variables of a run apart from those of a dispatch loop. -/
def userVars (vars : Entries) : Entries := (vars.erase stateVariable).erase "repeat"

/-- Whether a note is the report of a run that was cut off (`Run.cutOff`): a limit and a state, and
nothing else. A note that has a limit among other fields is one of the user's own. -/
def isCutOffReport : Value → Bool
  | .map _ [(limit, .int _), (state, _)] => limit.isText "ceiling" && state.isText "state"
  | _ => false

/-- Whether a note is the report of a run that was cut off, or an entry of the system log, as a loop
in an unknown state writes it. -/
def isReport (v : Value) : Bool :=
  isCutOffReport v || match v with
    | .map _ es => (Entries.get es "action").isText "system_log.write"
    | _ => false

/-- The notes of a run apart from reports. -/
def userLogs (logs : List Value) : List Value := logs.filter (!isReport ·)

/-- What the contexts of a graph and of its loop have in common. -/
structure Alike (a b : Context) : Prop where
  states : a.states = b.states
  triggerId : a.triggerId = b.triggerId
  vars : userVars a.vars = userVars b.vars
  trace : a.trace = b.trace
  logs : userLogs a.logs = userLogs b.logs

/-- The variable that holds the state is none of a user's. -/
theorem userVars_set_stateVariable (vars : Entries) (v : Value) :
    userVars (vars.set stateVariable v) = userVars vars := by
  unfold userVars
  rw [Entries.erase_set_self]

/-- The variable that holds the count of a loop is none of a user's. -/
theorem userVars_set_repeat (vars : Entries) (v : Value) :
    userVars (vars.set "repeat" v) = userVars vars := by
  unfold userVars
  rw [Entries.erase_comm, Entries.erase_set_self, Entries.erase_comm]

/-- Other variables can be read in either context. -/
theorem get?_userVars {vars : Entries} {name : String} (h : name ∉ loopVariables) :
    Entries.get? (userVars vars) name = vars.get? name := by
  simp only [loopVariables, List.mem_cons, List.not_mem_nil, or_false, not_or] at h
  unfold userVars
  rw [Entries.get?_erase_of_ne (Ne.symm h.2), Entries.get?_erase_of_ne (Ne.symm h.1)]

theorem userLogs_append (logs more : List Value) :
    userLogs (logs ++ more) = userLogs logs ++ userLogs more := List.filter_append ..

namespace Alike

variable {a b : Context}

/-- A condition that does not ask for the variables of the loop has one outcome. -/
theorem evaluate_eq (h : Alike a b) {v : Value}
    (hv : ∀ name ∈ loopVariables, Guard.mentions name v = false) :
    Guard.evaluate a v = Guard.evaluate b v := by
  refine Guard.evaluate_congr v h.states h.triggerId fun name hname => ?_
  -- a name that the condition asks for is that of another variable, which both have
  have hother : name ∉ loopVariables := fun hmem => by
    rw [hv name hmem] at hname
    cases hname
  rw [← get?_userVars hother, h.vars, get?_userVars hother]

/-- Two runs that visit the same node stay alike. -/
theorem visit (h : Alike a b) (v : Value) :
    Alike { a with trace := a.trace ++ [v] } { b with trace := b.trace ++ [v] } where
  states := h.states
  triggerId := h.triggerId
  vars := h.vars
  trace := congrArg (· ++ [v]) h.trace
  logs := h.logs

/-- The state is no variable of a user, so one run may move to another state alone. -/
theorem assignState (h : Alike a b) (v : Value) :
    Alike a { b with vars := b.vars.set stateVariable v } where
  states := h.states
  triggerId := h.triggerId
  vars := h.vars.trans (userVars_set_stateVariable b.vars v).symm
  trace := h.trace
  logs := h.logs

theorem assignRepeat (h : Alike a b) (v : Value) :
    Alike a { b with vars := b.vars.set "repeat" v } where
  states := h.states
  triggerId := h.triggerId
  vars := h.vars.trans (userVars_set_repeat b.vars v).symm
  trace := h.trace
  logs := h.logs

/-- Two runs that note the same stay alike. -/
theorem note (h : Alike a b) (v : Value) :
    Alike { a with logs := a.logs ++ [v] } { b with logs := b.logs ++ [v] } where
  states := h.states
  triggerId := h.triggerId
  vars := h.vars
  trace := h.trace
  logs := by rw [userLogs_append, userLogs_append, h.logs]

/-- A report on either side does not count. -/
theorem report_right (h : Alike a b) {v : Value} (hv : isReport v = true) :
    Alike a { b with logs := b.logs ++ [v] } where
  states := h.states
  triggerId := h.triggerId
  vars := h.vars
  trace := h.trace
  logs := by
    rw [userLogs_append, h.logs]
    simp [userLogs, hv]

/-- The report of a run that was cut off is left out of account. -/
theorem report_left (h : Alike a b) {v : Value} (hv : isReport v = true) :
    Alike { a with logs := a.logs ++ [v] } b where
  states := h.states
  triggerId := h.triggerId
  vars := h.vars
  trace := h.trace
  logs := by
    rw [userLogs_append, ← h.logs]
    simp [userLogs, hv]

/-- Variables that are not those of the loop are set alike. -/
theorem merge (h : Alike a b) {more : Entries}
    (hmore : ∀ name ∈ loopVariables, more.has name = false) :
    Alike { a with vars := a.vars.merge more } { b with vars := b.vars.merge more } where
  states := h.states
  triggerId := h.triggerId
  vars := by
    -- what is set has none of the names that are left out of account
    have hmerge (vars : Entries) : userVars (vars.merge more) = (userVars vars).merge more := by
      unfold userVars
      rw [Entries.erase_merge_of_not_has (hmore _ (by simp [loopVariables])),
        Entries.erase_merge_of_not_has (hmore _ (by simp [loopVariables]))]
    rw [hmerge, hmerge, h.vars]
  trace := h.trace
  logs := h.logs

end Alike

end Automation
