import Automation.Failure
import Automation.Limits

/-!
# Conditions

A condition has a kind, options and, when it groups others, parts. Documents also write a condition
as a template alone, as a template in the place of the kind, or with the kind of a group as the key
of its parts; `Condition.ofValue` reads all forms and `Condition.toEntries` writes the one canonical
form. Reading is bounded in depth and in the number of conditions.

A node holds one condition. A list of conditions becomes the `and` group of them
(`Condition.payload`), and such a group is written as a list again (`Condition.spread`), except for
a group of one, which a list of one would not stand for.
-/

namespace Automation

/-- A condition. The options do not include the kind, nor the parts of a group. -/
inductive Condition where
  | mk (kind : String) (options : Entries) (parts : List Condition)
  deriving Repr, Inhabited

namespace Condition

/-- The kinds that group other conditions. -/
def groupKinds : List String := ["and", "or", "not"]

def kind : Condition → String
  | mk kind _ _ => kind

def options : Condition → Entries
  | mk _ options _ => options

def parts : Condition → List Condition
  | mk _ _ parts => parts

def isGroup (c : Condition) : Bool := groupKinds.contains c.kind

/-- Whether a text has a template in it. -/
def hasTemplate : List Char → Bool
  | '{' :: '{' :: _ => true
  | _ :: rest => hasTemplate rest
  | [] => false

/-- The kind and the options of a condition that is written as a mapping of the given entries. -/
def kindOf? (condition : Value) (es : Entries) : Except ConditionProblem (String × Entries) :=
  let options := es.erase "condition"
  match es.get "condition" with
  | .null =>
    match groupKinds.filter (options.has ·) with
    | [kind] => .ok (kind, (options.erase kind).set "conditions" (options.get kind))
    | _ => .error (.noKind condition)
  | .str kind =>
    if hasTemplate kind.toList then .ok ("template", options.set "value_template" (.str kind))
    else .ok (kind, options)
  | v => .error (.kindNotText v)

/-- The conditions inside a group, given its options. One condition needs no list, and no field is
no condition. -/
def partsOf (options : Entries) : List Value :=
  match options.get? "conditions" with
  | some v => v.expose.asItems
  | none => []

/-- Reads a condition with some levels left, counting the conditions read. -/
def read (limits : Limits) : Nat → Value → StateT Nat Outcome Condition
  | 0, _ => StateT.lift (Outcome.tooLarge (.conditionDepth limits.maxConditionDepth))
  | levels + 1, v => do
    let count ← get
    if limits.maxConditionLeaves ≤ count then
      StateT.lift (Outcome.tooLarge (.conditionLeaves limits.maxConditionLeaves))
    set (count + 1)
    match v.expose with
    | .str _ => return mk "template" [(.str "value_template", v)] []
    | .map _ es =>
      match kindOf? v es with
      | .error problem => StateT.lift (Outcome.malformed (.condition problem))
      | .ok (kind, options) =>
        if groupKinds.contains kind then
          let parts ← (partsOf options).mapM (read limits levels)
          return mk kind (options.erase "conditions") parts
        else return mk kind options []
    | v => StateT.lift (Outcome.malformed (.condition (.notCondition v.kindName)))

/-- The condition that a value stands for, in any of its forms. -/
def ofValue (limits : Limits) (v : Value) : Outcome Condition :=
  (·.1) <$> (read limits (limits.maxConditionDepth + 1).toNat v).run 0

mutual
/-- The canonical form of a condition. -/
def toEntries : Condition → Entries
  | mk kind options parts =>
    (.str "condition", .str kind) :: options
      ++ if groupKinds.contains kind then [(.str "conditions", .ofItems (toValues parts))] else []

/-- The canonical forms of some conditions. -/
def toValues : List Condition → List Value
  | [] => []
  | c :: cs => .ofEntries (toEntries c) :: toValues cs
end

/-- The canonical form of a condition in any form. -/
def normalize (limits : Limits) (v : Value) : Outcome Entries := toEntries <$> ofValue limits v

/-- The payload of a node for one condition, or for the `and` of a list of conditions. -/
def payload (limits : Limits) (v : Value) : Outcome Entries :=
  match v.expose with
  | .list _ [single] => normalize limits single
  | .list .. => normalize limits <|
      .ofEntries [(.str "condition", .str "and"), (.str "conditions", v)]
  | v => normalize limits v

/-- The conditions that a payload stands for: those of a plain `and` group that is not a group of
one, or else the payload by itself. -/
def spread (data : Entries) : List Value :=
  match data.get "conditions" with
  | .list _ parts =>
    if data.length = 2 && (data.get "condition").isText "and" && parts.length != 1 then parts
    else [.ofEntries data]
  | _ => [.ofEntries data]

theorem toValues_eq_map (cs : List Condition) :
    toValues cs = cs.map fun c => .ofEntries (toEntries c) := by
  induction cs with
  | nil => rfl
  | cons c cs ih => simp [toValues, ih]

/-- A group of one stays a group. -/
theorem spread_of_single {data : Entries} {o : Origin} {part : Value}
    (h : data.get "conditions" = .list o [part]) : spread data = [.ofEntries data] := by
  simp [spread, h]

end Condition

end Automation
