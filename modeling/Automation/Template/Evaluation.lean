import Automation.Failure
import Automation.Template.Syntax

/-!
# Evaluating templates

Whether a template holds. Its expression is evaluated over the variables of a run. An expression
that cannot be evaluated does not hold: because it is none (`holds_of_not_parsed`), because a name
or a field is missing, or because two values have no order. Boolean operators evaluate all their
operands, and a chain of comparisons stops at the first that fails.
-/

namespace Automation.Template

namespace Datum

/-- What counts as true. -/
def truthy : Datum → Bool
  | value v => v.truthy
  | imaginary x => !x.isZero
  | ellipsis => true

/-- Whether two constants are the same. An imaginary number is a real one only when both are
zero. -/
def same : Datum → Datum → Bool
  | value a, value b => a.same b
  | imaginary x, imaginary y => x.exact.compare? y.exact == some .eq
  | imaginary x, value v => x.isZero && v.same (.int 0)
  | value v, imaginary x => x.isZero && v.same (.int 0)
  | ellipsis, ellipsis => true
  | _, _ => false

/-- Whether a comparison holds; none when it is by size and the values have no order. -/
def holds? (op : Comparison) (a b : Datum) : Option Bool :=
  match op, a, b with
  | op, value a, value b => a.holds? op b
  | .equal, a, b => some (a.same b)
  | .unequal, a, b => some (!a.same b)
  | _, _, _ => none

end Datum

/-- The names that stand for a value unless a variable takes them. -/
def builtin? : String → Option Value
  | "true" => some (.bool true)
  | "false" => some (.bool false)
  | "none" => some .null
  | _ => none

mutual
/-- The value of an expression over some variables, if it has one. -/
def evaluate? (vars : Entries) : Expr → Option Datum
  | .constant d => some d
  | .name s =>
    match vars.get? s with
    | some v => some (.value v)
    | none => (builtin? s).map .value
  | .field e name =>
    match evaluate? vars e with
    | some (.value (.map _ es)) => (Entries.get? es name).map .value
    | _ => none
  | .negation e => (evaluate? vars e).map fun d => .value (.bool !d.truthy)
  | .allOf es => (evaluateAll? vars es).map fun ds => .value (.bool (ds.all (·.truthy)))
  | .anyOf es => (evaluateAll? vars es).map fun ds => .value (.bool (ds.any (·.truthy)))
  | .compare first rest =>
    match evaluate? vars first with
    | some left => (chain? vars left rest).map fun b => .value (.bool b)
    | none => none
  | .unsupported => none

/-- The values of some expressions, if all have one. -/
def evaluateAll? (vars : Entries) : List Expr → Option (List Datum)
  | [] => some []
  | e :: es =>
    match evaluate? vars e, evaluateAll? vars es with
    | some d, some ds => some (d :: ds)
    | _, _ => none

/-- Whether a chain of comparisons holds, each with the value on its left. -/
def chain? (vars : Entries) (left : Datum) : List (Option Comparison × Expr) → Option Bool
  | [] => some true
  | (op, e) :: rest =>
    match op, evaluate? vars e with
    | some op, some right =>
      match left.holds? op right with
      | some true => chain? vars right rest
      | result => result
    | _, _ => none
termination_by structural rest => rest
end

/-- The expression of a template: what stands inside its braces, or all of it. -/
def expressionOf (template : List Char) : List Char :=
  let cs := Text.trim template
  let open? := Text.dropFront? "\x7b\x7b".toList cs
  let close? := Text.dropFront? "\x7d\x7d".toList cs.reverse
  match open?, close? with
  | some _, some _ => Text.trim ((cs.drop 2).dropLast.dropLast)
  | _, _ => cs

/-- Whether a template holds over some variables. Without an expression it does. -/
def holds (vars : Entries) (template : String) : Bool :=
  let cs := expressionOf template.toList
  if cs.isEmpty || Text.lowerAscii cs = "true".toList then true
  else match (parse? cs).bind (evaluate? vars) with
    | some d => d.truthy
    | none => false

/-- What is no expression does not hold. -/
theorem holds_of_not_parsed {vars : Entries} {template : String}
    (some_text : (expressionOf template.toList).isEmpty = false)
    (not_true : Text.lowerAscii (expressionOf template.toList) ≠ "true".toList)
    (h : parse? (expressionOf template.toList) = none) : holds vars template = false := by
  unfold holds
  simp only [some_text, h, Bool.false_or, Option.bind_none]
  exact if_neg (by simpa using not_true)

/-- The value of a template in a condition. A byte string is no template, and what is neither a text
nor a byte string cannot even be trimmed. -/
def check (vars : Entries) : Value → Outcome Bool
  | .str template => .ok (holds vars template)
  | .bytes _ => Outcome.fault .type
  | _ => Outcome.fault .property

end Automation.Template
