import Automation.Graph.Basic
import Automation.Proofs.Value.Entries
import Automation.Value.Show

/-!
# Values that can be written

A value can be written when each of its integers has few enough digits (`Value.hasText`). What is
put together of values that can be written can be written: entries that are set, renamed, erased or
merged (`Entries.HasText`), a value that is copied (`Value.hasText_mapOrigin`), and a value that is
looked at by itself (`Value.hasText_expose`).
-/

namespace Automation

namespace Value

/-- Values can be written when each of them can. -/
theorem haveText_iff {vs : List Value} : haveText vs = true ↔ ∀ v ∈ vs, v.hasText = true := by
  rw [haveText_eq_all, List.all_eq_true]

end Value

namespace Entries

open Value

variable {es more : Entries} {name : String} {k v : Value}

/-- The keys and values of a mapping can all be written. -/
def HasText (es : Entries) : Prop := ∀ e ∈ es, e.1.hasText = true ∧ e.2.hasText = true

theorem hasText_nil : HasText [] := by simp [HasText]

theorem hasText_cons : HasText ((k, v) :: es) ↔ (k.hasText = true ∧ v.hasText = true) ∧ es.HasText :=
  List.forall_mem_cons

/-- Entries can be written when each key and each value can. -/
theorem entriesHaveText_iff : entriesHaveText es = true ↔ es.HasText := by
  induction es with
  | nil => simp [entriesHaveText, HasText]
  | cons e es ih =>
    rw [entriesHaveText, Bool.and_eq_true, Bool.and_eq_true, hasText_cons, ih]

/-- A field with a text for its name. -/
theorem hasText_single (h : v.hasText = true) : HasText [(.str name, v)] :=
  hasText_cons.2 ⟨⟨rfl, h⟩, hasText_nil⟩

theorem HasText.append (h : es.HasText) (hmore : more.HasText) : (es ++ more).HasText :=
  List.forall_mem_append.2 ⟨h, hmore⟩

/-- Fewer entries can be written as well. -/
theorem HasText.of_subset (h : es.HasText) (hsub : more ⊆ es) : more.HasText :=
  fun e he => h e (hsub he)

theorem HasText.erase (h : es.HasText) (name : String) : (es.erase name).HasText :=
  fun e he => h e (List.mem_filter.1 he).1

theorem HasText.rename (h : es.HasText) (old new : String) : (es.rename old new).HasText := by
  intro e he
  obtain ⟨e', he', rfl⟩ := List.mem_map.1 he
  split
  · exact ⟨rfl, (h e' he').2⟩
  · exact h e' he'

theorem HasText.set (h : es.HasText) (name : String) (hv : v.hasText = true) :
    (es.set name v).HasText := by
  unfold Entries.set
  split
  · intro e he
    obtain ⟨e', he', rfl⟩ := List.mem_map.1 he
    split
    · exact ⟨(h e' he').1, hv⟩
    · exact h e' he'
  · exact h.append (hasText_single hv)

theorem HasText.insert (h : es.HasText) (hk : k.hasText = true) (hv : v.hasText = true) :
    (es.insert k v).HasText := by
  unfold Entries.insert
  split
  · intro e he
    obtain ⟨e', he', rfl⟩ := List.mem_map.1 he
    split
    · exact ⟨(h e' he').1, hv⟩
    · exact h e' he'
  · exact h.append (hasText_cons.2 ⟨⟨hk, hv⟩, hasText_nil⟩)

theorem HasText.merge (h : es.HasText) (hmore : more.HasText) : (es.merge more).HasText := by
  induction more generalizing es with
  | nil => exact h
  | cons e more ih =>
    obtain ⟨⟨hk, hv⟩, hmore⟩ := hasText_cons.1 hmore
    exact ih (h.insert hk hv) hmore

/-- What is found under a name can be written. -/
theorem HasText.get? (h : es.HasText) (hget : es.get? name = some v) : v.hasText = true :=
  (h _ (mem_of_get?_eq_some hget)).2

/-- What is found under a name can be written, and so can null, where nothing is found. -/
theorem HasText.get (h : es.HasText) (name : String) : (es.get name).hasText = true := by
  unfold Entries.get
  cases hget : Entries.get? es name with
  | none => rfl
  | some v => exact h.get? hget

/-- A field that is written when there is something to write. -/
theorem hasText_field {o : Option Value} (h : ∀ v ∈ o, v.hasText = true) :
    (field name o).HasText := by
  cases o with
  | none => exact hasText_nil
  | some v => exact hasText_single (h v rfl)

end Entries

namespace Value

open Entries

variable {o : Origin}

theorem hasText_map {es : Entries} : (map o es).hasText = true ↔ es.HasText := entriesHaveText_iff

theorem hasText_list {items : List Value} :
    (list o items).hasText = true ↔ ∀ v ∈ items, v.hasText = true := haveText_iff

theorem hasText_ofEntries {es : Entries} : (ofEntries es).hasText = true ↔ es.HasText := hasText_map

theorem hasText_ofItems {items : List Value} :
    (ofItems items).hasText = true ↔ ∀ v ∈ items, v.hasText = true := hasText_list

theorem hasText_of_mem_asItems {v w : Value} (h : v.hasText = true) (hw : w ∈ v.asItems) :
    w.hasText = true := by
  cases v with
  | list o items => exact hasText_list.1 h w hw
  | _ =>
    rw [List.mem_singleton.1 hw]
    exact h

/-! ## Copies -/

mutual
/-- Where a value was written does not matter. -/
@[simp] theorem hasText_mapOrigin (f : Origin → Origin) : ∀ v : Value,
    (v.mapOrigin f).hasText = v.hasText
  | .null | .bool _ | .int _ | .float _ | .str _ | .bytes _ | .date .. | .moment .. => rfl
  | .enclosing .. => rfl
  | .list _ items | .tuple _ items | .set _ items => by
    simp only [mapOrigin, hasText, haveText_mapItems f items]
  | .map _ es => by simp only [mapOrigin, hasText, entriesHaveText_mapEntries f es]

/-- Origins have no part in what can be written. -/
theorem haveText_mapItems (f : Origin → Origin) : ∀ items : List Value,
    haveText (mapItems f items) = haveText items
  | [] => rfl
  | v :: vs => by simp only [mapItems, haveText, hasText_mapOrigin f v, haveText_mapItems f vs]

theorem entriesHaveText_mapEntries (f : Origin → Origin) : ∀ es : List (Value × Value),
    entriesHaveText (mapEntries f es) = entriesHaveText es
  | [] => rfl
  | (k, v) :: es => by
    simp only [mapEntries, entriesHaveText, hasText_mapOrigin f k, hasText_mapOrigin f v,
      entriesHaveText_mapEntries f es]
end

@[simp] theorem hasText_inside (place : Place) (v : Value) : (v.inside place).hasText = v.hasText :=
  hasText_mapOrigin _ v

/-! ## Collections inside themselves -/

mutual
/-- What is put in the place of an inner occurrence can be written. -/
theorem hasText_fill {new : Value} (hnew : new.hasText = true) : ∀ v : Value, v.hasText = true →
    (fill o new v).hasText = true
  | .null | .bool _ | .int _ | .float _ | .str _ | .bytes _ | .date .. | .moment .. | .set .. => id
  | .enclosing p isMap => by
    intro h
    rw [fill]
    split
    · exact hnew
    · exact h
  | .list p items => by
    intro h
    rw [fill]
    split
    · exact h
    · exact haveText_fillItems hnew items h
  | .tuple p items => haveText_fillItems hnew items
  | .map p es => by
    intro h
    rw [fill]
    split
    · exact h
    · exact entriesHaveText_fillEntries hnew es h

/-- Filling in a collection that can be written leaves values that can. -/
theorem haveText_fillItems {new : Value} (hnew : new.hasText = true) : ∀ items : List Value,
    haveText items = true → haveText (fillItems o new items) = true
  | [] => id
  | v :: vs => by
    intro h
    rw [haveText, Bool.and_eq_true] at h
    rw [fillItems, haveText, Bool.and_eq_true]
    exact ⟨hasText_fill hnew v h.1, haveText_fillItems hnew vs h.2⟩

theorem entriesHaveText_fillEntries {new : Value} (hnew : new.hasText = true) :
    ∀ es : List (Value × Value), entriesHaveText es = true →
      entriesHaveText (fillEntries o new es) = true
  | [] => id
  | (k, v) :: es => by
    intro h
    rw [entriesHaveText, Bool.and_eq_true, Bool.and_eq_true] at h
    rw [fillEntries, entriesHaveText, Bool.and_eq_true, Bool.and_eq_true]
    exact ⟨⟨h.1.1, hasText_fill hnew v h.1.2⟩, entriesHaveText_fillEntries hnew es h.2⟩
end

/-- The items of a list that holds itself can be written when the list can. -/
theorem haveText_partItems {o : Origin} {whole : Value} (hwhole : whole.hasText = true)
    {items : List Value} (h : ∀ v ∈ items, v.hasText = true) :
    ∀ v ∈ partItems o whole items, v.hasText = true := by
  unfold partItems
  split
  · exact haveText_iff.1 (haveText_fillItems hwhole items (haveText_iff.2 h))
  · exact h

theorem hasText_partEntries {o : Origin} {whole : Value} (hwhole : whole.hasText = true)
    {es : Entries} (h : es.HasText) : Entries.HasText (partEntries o whole es) := by
  unfold partEntries
  split
  · exact entriesHaveText_iff.1 (entriesHaveText_fillEntries hwhole es (entriesHaveText_iff.2 h))
  · exact h

/-- What a value looks like from outside can be written when the value can. -/
theorem hasText_expose {v : Value} (h : v.hasText = true) : v.expose.hasText = true := by
  unfold expose
  split
  · exact hasText_list.2 (haveText_partItems h (hasText_list.1 h))
  · exact hasText_map.2 (hasText_partEntries h (hasText_map.1 h))
  · exact h

/-- The entries of a value that is a mapping. -/
theorem hasText_of_expose_eq_map {v : Value} {es : Entries} (h : v.hasText = true)
    (hexpose : v.expose = .map o es) : es.HasText := by
  have htext := hasText_expose h
  rw [hexpose] at htext
  exact hasText_map.1 htext

end Value

namespace Entries

theorem HasText.inside {es : Entries} (h : es.HasText) (place : Place) : (es.inside place).HasText := by
  rw [← entriesHaveText_iff] at h ⊢
  unfold Entries.inside
  rw [Value.entriesHaveText_mapEntries]
  exact h

end Entries

end Automation
