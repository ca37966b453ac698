import Automation.Text.Code
import Automation.Value.Basic

/-!
# Order of values

Which values can be compared by size: numbers with numbers, texts, byte strings, dates and moments
with their kind, lists with lists and tuples with tuples item by item, and sets by inclusion. Any
other pair has no order, and asking for one is a fault. Sameness is never a fault
(`holds?_equal`).
-/

namespace Automation

/-- A comparison of two values. -/
inductive Comparison where
  | equal | unequal | less | lessEqual | greater | greaterEqual
  deriving DecidableEq, Repr

namespace Comparison

/-- Whether an order satisfies a comparison. -/
def accepts : Comparison → Ordering → Bool
  | .equal, o => o == .eq
  | .unequal, o => o != .eq
  | .less, o => o == .lt
  | .lessEqual, o => o != .gt
  | .greater, o => o == .gt
  | .greaterEqual, o => o != .lt

/-- Whether two collections in a relation of inclusion satisfy a comparison. -/
def acceptsInclusion (op : Comparison) (leftInRight rightInLeft : Bool) : Bool :=
  match op with
  | .equal => leftInRight && rightInLeft
  | .unequal => !(leftInRight && rightInLeft)
  | .less => leftInRight && !rightInLeft
  | .lessEqual => leftInRight
  | .greater => rightInLeft && !leftInRight
  | .greaterEqual => rightInLeft

end Comparison

namespace Value

/-- The order of two sequences of numbers: by the first difference, else by length. -/
def compareNumbers : List Nat → List Nat → Ordering
  | [], [] => .eq
  | [], _ :: _ => .lt
  | _ :: _, [] => .gt
  | a :: as, b :: bs => (compare a b).then (compareNumbers as bs)

/-- The order of two texts, by their codes. -/
def compareTexts (a b : String) : Ordering :=
  compareNumbers (Text.codes a.toList) (Text.codes b.toList)

/-- The order of two byte strings. -/
def compareBytes (a b : List UInt8) : Ordering :=
  compareNumbers (a.map (·.toNat)) (b.map (·.toNat))

/-- Whether a comparison by size of two numbers holds; none when one is no number. -/
def holdsByNumber? (op : Comparison) (a b : Value) : Option Bool :=
  match a.numeric?, b.numeric? with
  | some x, some y => some ((x.compare? y).any op.accepts)
  | _, _ => none

mutual
/-- Whether a comparison by size holds; none when the values have no order. Two numbers one of which
is undefined have an order in which every comparison by size fails. -/
def holdsBySize? (op : Comparison) : Value → Value → Option Bool
  | .str a, b => match b with
    | .str b => some (op.accepts (compareTexts a b))
    | _ => none
  | .bytes a, b => match b with
    | .bytes b => some (op.accepts (compareBytes a b))
    | _ => none
  | .date _ a, b => match b with
    | .date _ b => some (op.accepts (compare a.ordinal b.ordinal))
    | _ => none
  | .moment _ a, b => match b with
    | .moment _ b => (a.compare? b).map op.accepts
    | _ => none
  | .list _ as, b => match b with
    | .list _ bs => holdsByItems? op as bs
    | _ => none
  | .tuple _ as, b => match b with
    | .tuple _ bs => holdsByItems? op as bs
    | _ => none
  | .set _ as, b => match b with
    | .set _ bs => some (op.acceptsInclusion (allIn as bs) (allIn bs as))
    | _ => none
  | .bool a, b => holdsByNumber? op (.bool a) b
  | .int a, b => holdsByNumber? op (.int a) b
  | .float a, b => holdsByNumber? op (.float a) b
  | .null, _ => none
  | .map .., _ => none
  | .enclosing .., _ => none
termination_by structural x => x

/-- Two lists compare by their first items that do not match, else by length. -/
def holdsByItems? (op : Comparison) : List Value → List Value → Option Bool
  | [], bs => some (op.accepts (if bs.isEmpty then .eq else .lt))
  | a :: as, bs => match bs with
    | [] => some (op.accepts .gt)
    | b :: bs => if agrees a b then holdsByItems? op as bs else holdsBySize? op a b
termination_by structural x => x
end
/-- Whether a comparison holds; none when it is by size and the values have no order. -/
def holds? (op : Comparison) (a b : Value) : Option Bool :=
  match op with
  | .equal => some (same a b)
  | .unequal => some (!same a b)
  | _ => holdsBySize? op a b

/-- Any two values can be compared by sameness. -/
theorem holds?_equal (a b : Value) : holds? .equal a b = some (same a b) := rfl

/-- A comparison by size with null has no answer. -/
theorem holdsBySize?_null (op : Comparison) (b : Value) : holdsBySize? op .null b = none := rfl

end Value

end Automation
