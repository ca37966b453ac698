import Automation.Number.Literal
import Automation.Simulation.Context
import Automation.Template.Evaluation

/-!
# Guards

Whether a condition holds in a context. Groups stop at the first part that decides them; kinds that
would need a running system never hold; a disabled condition always does (`evaluate_disabled`). A
part that is no condition is a fault when it is asked, and not before.
-/

namespace Automation

namespace Guard

/-- Whether all outcomes hold, up to the first that does not. -/
def allHold : List (Outcome Bool) → Outcome Bool
  | [] => .ok true
  | o :: os => do if ← o then allHold os else return false

/-- Whether some outcome holds, up to the first that does. -/
def anyHolds : List (Outcome Bool) → Outcome Bool
  | [] => .ok false
  | o :: os => do if ← o then return true else anyHolds os

/-- The state of an entity, null when there is none. -/
def stateOf (c : Context) (entity : Value) : Outcome Value :=
  if entity.isKey then .ok ((c.states.find? entity).getD .null) else Outcome.fault .type

/-- Whether every entity is in one of the expected states, by their texts. -/
def stateHolds (c : Context) (es : Entries) : Outcome Bool := do
  let expected ← (es.get "state").asItems.mapM Value.written
  allHold ((es.get "entity_id").asItems.map fun entity => do
    return expected.contains (← (← stateOf c entity).written))

/-- A number, a truth value, or a text of one, as a binary number. -/
def numberOf : Value → Outcome Binary64
  | .bool b => .ok (.ofInt (if b then 1 else 0))
  | .int n =>
    let x := Binary64.ofInt n
    if x.isFinite then .ok x else Outcome.fault .overflow
  | .float x => .ok x
  | .str s => Outcome.orFault (Literal.float? s.toList) .value
  | .bytes bs =>
    if bs.all (· < 0x80) then
      Outcome.orFault (Literal.float? (bs.map fun b => Char.ofNat b.toNat)) .value
    else Outcome.fault .value
  | _ => Outcome.fault .type

/-- Whether a number is on the right side of a bound, if there is the bound. -/
def withinBound (es : Entries) (name : String) (x : Binary64) (order : Ordering) : Outcome Bool :=
  match es.get? name with
  | none => .ok true
  | some v => do return x.exact.compare? (← numberOf v).exact == some order

/-- Whether the state of an entity is a number within the bounds. A state that is no number is not;
one that is too large for a binary number is a fault. -/
def entityWithin (c : Context) (es : Entries) (entity : Value) : Outcome Bool :=
  match (stateOf c entity).bind numberOf with
  | .error (.fault .overflow) => Outcome.fault .overflow
  | .error _ => .ok false
  | .ok x => do
    if ← withinBound es "above" x .gt then withinBound es "below" x .lt else return false

/-- Whether the states of all entities are numbers within the bounds. -/
def numericHolds (c : Context) (es : Entries) : Outcome Bool :=
  allHold ((es.get "entity_id").asItems.map (entityWithin c es))

/-- Whether the trigger that fired is one of those named. -/
def triggerHolds (c : Context) (es : Entries) : Bool :=
  (es.get "id").asItems.any fun id => c.triggerId.agrees id

/-- Whether a condition holds, given what its parts do. -/
def decide (c : Context) (es : Entries) (parts : Outcome (List (Outcome Bool))) : Outcome Bool :=
  if (es.get "enabled").isFalse then .ok true
  else match es.get "condition" with
    | .str "and" => do allHold (← parts)
    | .str "or" => do anyHolds (← parts)
    | .str "not" => do return !(← anyHolds (← parts))
    | .str "state" => stateHolds c es
    | .str "numeric_state" => numericHolds c es
    | .str "trigger" => .ok (triggerHolds c es)
    | .str "template" => Template.check c.vars ((es.get? "value_template").getD (.str ""))
    | _ => .ok false

mutual
/-- Whether a condition holds. -/
def evaluate (c : Context) : Value → Outcome Bool
  | .map _ es => decide c es (evaluateParts c es)
  | _ => Outcome.fault .property

/-- What the parts among the entries of a condition do. -/
def evaluateParts (c : Context) : List (Value × Value) → Outcome (List (Outcome Bool))
  | [] => .ok []
  | (k, v) :: rest => if k.isText "conditions" then evaluateElements c v else evaluateParts c rest

/-- What the elements of a value do as conditions. -/
def evaluateElements (c : Context) : Value → Outcome (List (Outcome Bool))
  | .list _ items => .ok (evaluateEach c items)
  | .tuple _ items => .ok (evaluateEach c items)
  | .set _ items => .ok (evaluateEach c items)
  | v => v.elements.map fun items => items.map fun _ => Outcome.fault .property

/-- What each of some conditions does. -/
def evaluateEach (c : Context) : List Value → List (Outcome Bool)
  | [] => []
  | v :: vs => evaluate c v :: evaluateEach c vs
end

/-- Whether all the elements of a value hold as conditions. -/
def evaluateAll (c : Context) (conditions : Value) : Outcome Bool := do
  allHold ((← conditions.elements).map (evaluate c))

theorem evaluateEach_eq_map (c : Context) (vs : List Value) :
    evaluateEach c vs = vs.map (evaluate c) := by
  induction vs with
  | nil => rfl
  | cons v vs ih => simp [evaluateEach, ih]

/-- A disabled condition holds. -/
theorem evaluate_disabled (c : Context) (o : Origin) {es : Entries}
    (h : (es.get "enabled").isFalse = true) : evaluate c (.map o es) = .ok true := by
  simp [evaluate, decide, h]

end Guard

end Automation
