import Automation.Graph.Sharing
import Automation.Proofs.Value.Entries

/-!
# Values without their origins

Two values that were written at different places and are otherwise the same are one value without
its origins (`Value.stripped`). Look-ups and changes of a mapping do not ask for origins, so they
may be done before or after these are taken away; and a copy of a value is the same as the value
(`Value.stripped_mapOrigin`).
-/

namespace Automation

namespace Value

/-- Origins are changed in each item of a list. -/
theorem mapItems_eq_map (f : Origin → Origin) (items : List Value) :
    mapItems f items = items.map (mapOrigin f) := by
  induction items with
  | nil => rfl
  | cons v vs ih => rw [mapItems, ih, List.map_cons]

/-- Origins are changed in each key and each value of a mapping. -/
theorem mapEntries_eq_map (f : Origin → Origin) (es : List (Value × Value)) :
    mapEntries f es = es.map fun e => (mapOrigin f e.1, mapOrigin f e.2) := by
  induction es with
  | nil => rfl
  | cons e es ih => rw [mapEntries, ih, List.map_cons]

@[simp] theorem truthy_mapOrigin (f : Origin → Origin) (v : Value) :
    (v.mapOrigin f).truthy = v.truthy := by
  cases v <;> simp [mapOrigin, truthy, mapItems_eq_map, mapEntries_eq_map]

@[simp] theorem isText_mapOrigin (f : Origin → Origin) (v : Value) (s : String) :
    (v.mapOrigin f).isText s = v.isText s := by
  cases v <;> rfl

/-- A value without its origins: what it is, wherever it was written. -/
def stripped (v : Value) : Value := v.mapOrigin fun _ => {}

@[simp] theorem isText_stripped (v : Value) (s : String) : v.stripped.isText s = v.isText s :=
  isText_mapOrigin _ v s

/-! ## Copies -/

mutual
@[simp] theorem isAtom_mapOrigin (f : Origin → Origin) : ∀ v : Value,
    (v.mapOrigin f).isAtom = v.isAtom
  | .null | .bool _ | .int _ | .float _ | .str _ | .bytes _ | .date .. | .moment .. => rfl
  | .list .. | .set .. | .map .. | .enclosing .. => rfl
  | .tuple o items => by
    show areAtoms (mapItems f items) = areAtoms items
    exact areAtoms_mapItems f items

@[simp] theorem areAtoms_mapItems (f : Origin → Origin) : ∀ items : List Value,
    areAtoms (mapItems f items) = areAtoms items
  | [] => rfl
  | v :: vs => by rw [mapItems, areAtoms, areAtoms, isAtom_mapOrigin f v, areAtoms_mapItems f vs]
end

mutual
/-- A copy of a value differs from it in nothing but origins. -/
theorem stripped_mapOrigin (f : Origin → Origin) : ∀ v : Value,
    (v.mapOrigin f).stripped = v.stripped
  | .null | .bool _ | .int _ | .float _ | .str _ | .bytes _ | .date .. | .moment .. => rfl
  | .enclosing .. => rfl
  | .list o items => congrArg (Value.list {}) (mapItems_mapItems f items)
  | .set o items => congrArg (Value.set {}) (mapItems_mapItems f items)
  | .map o es => congrArg (Value.map {}) (mapEntries_mapEntries f es)
  | .tuple o items => by
    -- a tuple of atoms keeps its origin both times
    show Value.tuple (if areAtoms (mapItems f items) then _ else _) _ = Value.tuple _ _
    rw [areAtoms_mapItems, mapItems_mapItems]
    split <;> rfl

theorem mapItems_mapItems (f : Origin → Origin) : ∀ items : List Value,
    mapItems (fun _ => {}) (mapItems f items) = mapItems (fun _ => {}) items
  | [] => rfl
  | v :: vs => by
    show (v.mapOrigin f).stripped :: _ = v.stripped :: _
    rw [stripped_mapOrigin f v, mapItems_mapItems f vs]

theorem mapEntries_mapEntries (f : Origin → Origin) : ∀ es : List (Value × Value),
    mapEntries (fun _ => {}) (mapEntries f es) = mapEntries (fun _ => {}) es
  | [] => rfl
  | (k, v) :: es => by
    show ((k.mapOrigin f).stripped, (v.mapOrigin f).stripped) :: _ = (k.stripped, v.stripped) :: _
    rw [stripped_mapOrigin f k, stripped_mapOrigin f v, mapEntries_mapEntries f es]
end

@[simp] theorem stripped_inside (place : Place) (v : Value) :
    (v.inside place).stripped = v.stripped :=
  stripped_mapOrigin _ v

end Value

namespace Entries

open Value

variable {es more : Entries} {name : String}

/-- The entries of a mapping without their origins. -/
def stripped (es : Entries) : Entries := mapEntries (fun _ => {}) es

/-- Entries without origins are the keys and the values without them. -/
theorem stripped_eq_map (es : Entries) :
    es.stripped = es.map fun e => (e.1.stripped, e.2.stripped) := mapEntries_eq_map _ es

@[simp] theorem stripped_cons (k v : Value) (es : Entries) :
    stripped ((k, v) :: es) = (k.stripped, v.stripped) :: es.stripped := rfl

@[simp] theorem stripped_inside (place : Place) (es : Entries) :
    (es.inside place).stripped = es.stripped :=
  mapEntries_mapEntries _ es

/-- Origins have no part in what fields a mapping has. -/
theorem has_mapEntries (f : Origin → Origin) (es : Entries) (name : String) :
    has (mapEntries f es) name = es.has name := by
  rw [mapEntries_eq_map]
  unfold has
  rw [List.any_map]
  exact List.any_congr rfl fun e => isText_mapOrigin f e.1 name

@[simp] theorem has_stripped (es : Entries) (name : String) :
    es.stripped.has name = es.has name :=
  has_mapEntries _ es name

theorem has_inside (place : Place) (es : Entries) (name : String) :
    (es.inside place).has name = es.has name :=
  has_mapEntries _ es name

@[simp] theorem get?_stripped (es : Entries) (name : String) :
    es.stripped.get? name = (es.get? name).map Value.stripped := by
  induction es with
  | nil => rfl
  | cons e es ih =>
    rw [stripped_cons, get?_cons, get?_cons, isText_stripped, ih]
    split <;> rfl

/-- Setting a field to what it is in all its places changes nothing. -/
theorem stripped_set_of_forall {v : Value} (hhas : es.has name = true)
    (h : ∀ e ∈ es, e.1.isText name = true → e.2.stripped = v.stripped) :
    (es.set name v).stripped = es.stripped := by
  unfold set
  rw [if_pos hhas, stripped_eq_map, stripped_eq_map, List.map_map]
  refine List.map_congr_left fun e he => ?_
  rw [Function.comp_apply]
  split
  · rename_i hname
    rw [h e he hname]
  · rfl

end Entries

end Automation
