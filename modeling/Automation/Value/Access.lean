import Automation.Failure

/-!
# Uses of values

What a value can be asked for when its kind is not known: its elements, the value at a key or
position, whether it holds something, its text, a field. Each use is a fault for the kinds that do
not support it (`elements_mapping`, `fields_of_not_mapping` for two of them).
-/

namespace Automation

namespace Value

/-- The elements of a collection, the keys of a mapping, and the characters of a text. -/
def elements : Value → Outcome (List Value)
  | .list _ items => .ok items
  | .tuple _ items => .ok items
  | .set _ items => .ok items
  | .map _ es => .ok (es.map (·.1))
  | .str s => .ok ((Text.letters s).map .str)
  | .bytes bs => .ok (bs.map fun b => .int b.toNat)
  | _ => Outcome.fault .type

/-- The item at a position, which counts from the end when it is negative. -/
def itemAt {α : Type} (items : List α) (i : Int) : Outcome α :=
  let position := if i < 0 then i + items.length else i
  if position < 0 then Outcome.fault .index
  else Outcome.orFault items[position.toNat]? .index

theorem itemAt_of_lt {α : Type} {items : List α} {i : Nat} (h : i < items.length) :
    itemAt items (i : Int) = .ok items[i] := by
  have hpositive : ¬ (i : Int) < 0 := by omega
  simp [itemAt, Outcome.orFault, hpositive, List.getElem?_eq_getElem h]

theorem mem_of_itemAt_eq_ok {α : Type} {items : List α} {i : Int} {x : α}
    (h : itemAt items i = .ok x) : x ∈ items := by
  unfold itemAt Outcome.orFault at h
  dsimp only at h
  generalize (if i < 0 then i + (items.length : Int) else i) = position at h
  split at h
  · cases h
  · cases hitem : items[position.toNat]? with
    | none =>
      rw [hitem] at h
      cases h
    | some y =>
      rw [hitem] at h
      cases h
      exact List.mem_of_getElem? hitem

theorem itemAt_map {α β : Type} (f : α → β) (items : List α) (i : Int) :
    itemAt (items.map f) i = f <$> itemAt items i := by
  unfold itemAt Outcome.orFault
  rw [List.length_map]
  dsimp only
  generalize (if i < 0 then i + (items.length : Int) else i) = position
  split
  · rfl
  · rw [List.getElem?_map]
    cases items[position.toNat]? <;> rfl

/-- The position that a value stands for. -/
def position? : Value → Option Int
  | .int n => some n
  | .bool b => some (if b then 1 else 0)
  | _ => none

/-- The value of a key of a mapping, a list having positions for keys. -/
def lookup (v key : Value) : Outcome Value :=
  let byPosition (items : List Value) : Outcome Value :=
    match position? key with
    | some i => itemAt items i
    | none => Outcome.fault .type
  match v with
  | .map _ es =>
    if key.isKey then Outcome.orFault (Entries.find? es key) .key else Outcome.fault .type
  | .list _ items => byPosition items
  | .tuple _ items => byPosition items
  | .str s => byPosition ((Text.letters s).map .str)
  | .bytes bs => byPosition (bs.map fun b => .int b.toNat)
  | _ => Outcome.fault .type

/-- Whether a word stands in a text. -/
def hasWord (word : List Char) : List Char → Bool
  | [] => word.isEmpty
  | c :: cs => word.isPrefixOf (c :: cs) || hasWord word cs

/-- Whether a value holds a text: as a key, as an item, or as a part. -/
def holdsText (v : Value) (s : String) : Outcome Bool :=
  match v with
  | .map _ es => .ok (Entries.has es s)
  | .list _ items => .ok (items.any (·.isText s))
  | .tuple _ items => .ok (items.any (·.isText s))
  | .set _ items => .ok (items.any (·.isText s))
  | .str t => .ok (hasWord s.toList t.toList)
  | _ => Outcome.fault .type

/-- The text of a value by itself; an integer may have too many digits for one. -/
def written (v : Value) : Outcome String :=
  if v.hasText then .ok v.plain else Outcome.fault .value

/-- The entries of a value that must be a mapping. -/
def fields : Value → Outcome Entries
  | .map _ es => .ok es
  | _ => Outcome.fault .property

/-- The elements of a mapping are its keys. -/
theorem elements_mapping (o : Origin) (es : Entries) :
    elements (.map o es) = .ok (es.map (·.1)) := rfl

/-- Only mappings have fields. -/
theorem fields_of_not_mapping {v : Value} (h : v.entries? = none) :
    fields v = Outcome.fault .property := by
  cases v <;> first | rfl | cases h

end Value

namespace Entries

/-- The two parts of a value that stands for an entry of a mapping. -/
def pairOf (v : Value) : Outcome (Value × Value) := do
  match ← v.elements with
  | [key, value] => if key.isKey then return (key, value) else Outcome.fault .type
  | _ => Outcome.fault .value

/-- The entries with those that a value stands for set in turn: the entries of a mapping, or pairs.
When one of the pairs is none, those before it are set. -/
def update (es : Entries) (v : Value) : Entries × Outcome Unit :=
  match v with
  | .map _ more => (es.merge more, .ok ())
  | v => match v.elements with
    | .ok items => setPairs es items
    | .error failure => (es, .error failure)
where
  setPairs (es : Entries) : List Value → Entries × Outcome Unit
    | [] => (es, .ok ())
    | item :: rest =>
      match pairOf item with
      | .ok (key, value) => setPairs (es.insert key value) rest
      | .error failure => (es, .error failure)

end Entries

end Automation
