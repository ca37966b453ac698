import Automation.Entry

/-!
# Sharing inside an entry

A step may hold further entries, and a value that is written once in a document may be used in
several of them. An inner entry with an old key or with a wait is copied when it gets its present
names, and so is each trigger that it waits for: values are shared inside such a copy, and not with
what is around it. `Entry.apart` marks the origins with the places of these copies. It changes
nothing but origins, and what could not be told from its surroundings alone is put in full; in
particular it keeps all keys (`fieldsApart_keys`).
-/

namespace Automation.Entry

/-- The triggers of a wait, each a copy of its own. -/
def triggersApart (place : Place) : Value → Value
  | .list o items => .list o <| (Value.partItems o (.list o items) items).zipIdx.map fun item =>
    match item.1 with
    | .map o es => (Value.map o es).inside (place.item item.2)
    | v => v
  | .map o es => (Value.map o es).inside (place.item 0)
  | v => v

/-- Whether an inner entry is copied when it gets its present names. -/
def isCopied (es : Entries) : Bool := es.has "service" || es.has "wait_for_trigger"

mutual
/-- A value inside a step, with the entries in it that are copied apart. -/
def valueApart (place : Place) : Value → Value
  | .list o items => .list o (Value.partItems o (.list o items) (itemsApart place 0 items))
  | .map o es =>
    let inner := Value.partEntries o (.map o es) (fieldsApart place es)
    .map o (if isCopied es then Entries.inside place inner else inner)
  | v => v

/-- The items of a list, with what is copied in them apart. -/
def itemsApart (place : Place) : Nat → List Value → List Value
  | _, [] => []
  | i, v :: rest => valueApart (place.item i) v :: itemsApart place (i + 1) rest

/-- The entries of a mapping, with what is copied in them apart. -/
def fieldsApart (place : Place) : List (Value × Value) → List (Value × Value)
  | [] => []
  | (k, v) :: rest =>
    let inner :=
      match k with
      | .str key =>
        if nestedKeys.contains key then valueApart (place.field key) v
        else if key = "wait_for_trigger" then triggersApart (place.field key) v
        else v
      | _ => v
    (k, inner) :: fieldsApart place rest
end

/-- The payload of a step, with the entries that are copied in it apart. -/
def apart (kind : NodeKind) (place : Place) (es : Entries) : Entries :=
  match kind with
  | .action => fieldsApart place es
  | .wait => es.map fun e =>
    if e.1.isText "wait_for_trigger" then
      (e.1, triggersApart (place.field "wait_for_trigger") e.2)
    else e
  | _ => es

theorem fieldsApart_keys (place : Place) (es : Entries) :
    (fieldsApart place es).map (·.1) = es.map (·.1) := by
  induction es with
  | nil => simp [fieldsApart]
  | cons e rest ih => simp [fieldsApart, ih]

end Automation.Entry
