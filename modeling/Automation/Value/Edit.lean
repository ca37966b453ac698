import Automation.Value.Access

/-!
# Editing values

Changes inside a value, at the end of a path of keys and positions. A collection that occurs at
several places of the value is changed at all of them (`Value.putAt`), since its occurrences are one
collection.
-/

namespace Automation

/-- A change to a collection at a key or position. -/
inductive Change where
  /-- gives the key a value, or the item at the position another -/
  | set (v : Value)
  /-- puts an item in front of the position -/
  | insert (v : Value)
  | delete
  deriving Repr

namespace Change

/-- The position of an item of a list that a key stands for. -/
def slot (items : List Value) (key : Value) : Outcome Nat :=
  match key.position? with
  | none => Outcome.fault .type
  | some i =>
    let position := if i < 0 then i + items.length else i
    if 0 ≤ position && position < items.length then .ok position.toNat else Outcome.fault .index

/-- The position in front of which an item is inserted: the nearest there is. -/
def gap (items : List Value) (key : Value) : Outcome Nat :=
  match key.position? with
  | none => Outcome.fault .type
  | some i => .ok (min (if i < 0 then i + items.length else i).toNat items.length)

def applyList (c : Change) (items : List Value) (key : Value) : Outcome (List Value) :=
  match c with
  | .set v => do return items.set (← slot items key) v
  | .insert v => do return items.insertIdx (← gap items key) v
  | .delete => do return items.eraseIdx (← slot items key)

def applyMap (c : Change) (es : Entries) (key : Value) : Outcome Entries :=
  match c with
  | .set v => if key.isKey then .ok (es.insert key v) else Outcome.fault .type
  | .insert _ => Outcome.fault .property
  | .delete =>
    if !key.isKey then Outcome.fault .type
    else if (es.find? key).isNone then Outcome.fault .key
    else .ok (es.filter fun e => !e.1.agrees key)

/-- A value changed at a key. Only lists and mappings can be changed, and only lists by
insertion. -/
def apply (c : Change) (v key : Value) : Outcome Value :=
  match v, c with
  | .list o items, c => do return .list o (← c.applyList items key)
  | .map o es, c => do return .map o (← c.applyMap es key)
  | _, .insert _ => Outcome.fault .property
  | _, _ => Outcome.fault .type

/-- Inserting puts the item at its position when there is such a position. -/
theorem applyList_insert {items : List Value} {i : Nat} (h : i ≤ items.length) (v : Value) :
    applyList (.insert v) items (.int i) = .ok (items.insertIdx i v) := by
  have front : ¬ (i : Int) < 0 := by omega
  simp [applyList, gap, Value.position?, front, Nat.min_eq_left h, bind, Except.bind, pure,
    Except.pure]

end Change

namespace Value

mutual
/-- A value in which all values of an origin are replaced. -/
def replace (o : Origin) (new : Value) : Value → Value
  | .list p items => if p = o then new else .list p (replaceItems o new items)
  | .tuple p items => if p = o then new else .tuple p (replaceItems o new items)
  | .set p items => if p = o then new else .set p (replaceItems o new items)
  | .map p es => if p = o then new else .map p (replaceEntries o new es)
  | v => v

/-- The items of a list with all values of an origin replaced. -/
def replaceItems (o : Origin) (new : Value) : List Value → List Value
  | [] => []
  | v :: vs => replace o new v :: replaceItems o new vs

/-- The entries of a mapping with all values of an origin replaced. -/
def replaceEntries (o : Origin) (new : Value) : List (Value × Value) → List (Value × Value)
  | [] => []
  | (k, v) :: es => (k, replace o new v) :: replaceEntries o new es
end

/-- The value at the end of a path. -/
def follow (v : Value) (path : List Value) : Outcome Value := path.foldlM lookup v

/-- A collection around a changed one. -/
def putItem (around key new : Value) : Outcome Value :=
  match around with
  | .tuple o items => do return .tuple o (← (Change.set new).applyList items key)
  | around => (Change.set new).apply around key

/-- A value with the collection at a path replaced, given the keys of the path from its end. When
that collection has an origin, this replaces all its occurrences; else it stands in one place, and
the collection around it is the one that changes. -/
def putAt (root new : Value) : List Value → Outcome Value
  | [] => .ok new
  | key :: outer => do
    let around ← root.follow outer.reverse
    let origin := (← around.lookup key).origin
    if origin.path.isSome then return root.replace origin new
    else root.putAt (← putItem around key new) outer

/-- A value changed at the end of a path, which must not be empty. -/
def edit (v : Value) (path : List Value) (change : Change) : Outcome Value :=
  match path.reverse with
  | [] => Outcome.fault .index
  | key :: outer => do v.putAt (← change.apply (← v.follow outer.reverse) key) outer

/-- A change at the top changes the value itself. -/
theorem edit_singleton (v key : Value) (change : Change) :
    v.edit [key] change = change.apply v key := by
  simp only [edit, List.reverse_singleton, List.reverse_nil, follow, List.foldlM_nil]
  cases h : change.apply v key <;> simp [bind, Except.bind, pure, Except.pure, h, putAt]

end Value

end Automation
