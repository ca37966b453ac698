import Automation.Graph.Structure
import Automation.Text.Blank
import Automation.Text.Front

/-!
# Routing of triggers

The text that gives the state in which a dispatch loop starts. When all triggers lead to the same
node it is the id of that node; otherwise it is a template with one route for each trigger, chosen
by the number of the trigger. `Routing.render` writes it and `Routing.resolve` finds the state for a
trigger in it.
-/

namespace Automation

/-- The state of a loop that stands for a node, or for the end of the run. -/
def stateOf : Option String → String
  | some id => if id = "" then endState else id
  | none => endState

namespace Routing

/-- The route of one trigger. -/
def renderRoute (index : Nat) (target : Option String) : String :=
  "\x7b% " ++ (if index = 0 then "if" else "elif") ++ " trigger.idx == \"" ++ toString index
    ++ "\" %\x7d" ++ stateOf target

/-- The text for the nodes that the triggers lead to, in order. -/
def render (targets : List (Option String)) : String :=
  match targets with
  | first :: rest =>
    if rest.all (· == first) then stateOf first
    else routes targets
  | [] => routes []
where
  routes (targets : List (Option String)) : String :=
    String.join (targets.zipIdx.map fun t => renderRoute t.2 t.1)
      ++ "\x7b% else %\x7d" ++ endState ++ "\x7b% endif %\x7d"

/-- A route at the start of a text: the number of its trigger and its state. -/
def route? (cs : List Char) : Option (List Char × List Char) := do
  let cs ← Text.dropFront? "trigger.idx".toList cs
  let cs ← Text.dropFront? "==".toList (Text.trimStart cs)
  let cs ← Text.dropFront? ['"'] (Text.trimStart cs)
  let index := cs.takeWhile Char.isDigit
  let cs ← Text.dropFront? ['"'] (cs.dropWhile Char.isDigit)
  let cs ← Text.dropFront? "%\x7d".toList (Text.trimStart cs)
  let state := cs.takeWhile Text.isIdChar
  let _ ← Text.dropFront? "\x7b%".toList (cs.dropWhile Text.isIdChar)
  if index.isEmpty || state.isEmpty then none else some (index, state)

/-- All routes in a text. -/
def routes : List Char → List (List Char × List Char)
  | [] => []
  | c :: cs => (route? (c :: cs)).toList ++ routes cs

/-- Whether a text has a statement of a template in it. -/
def hasStatement : List Char → Bool
  | '{' :: '%' :: _ => true
  | _ :: rest => hasStatement rest
  | [] => false

/-- The state in which a loop starts when the trigger of a number fires. Of several routes for one
trigger the last counts; without one the run ends. -/
def resolve (expression : String) (trigger : Int) : String :=
  let cs := expression.toList
  if hasStatement cs then
    match (routes cs).reverse.find? (·.1 == (toString trigger).toList) with
    | some (_, state) => String.ofList state
    | none => endState
  else expression

/-- A text without statements is the state itself, whichever trigger fires. -/
theorem resolve_of_not_hasStatement {expression : String}
    (h : hasStatement expression.toList = false) (trigger : Int) :
    resolve expression trigger = expression := by
  simp [resolve, h]

end Routing

end Automation
