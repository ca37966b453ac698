import Automation.Proofs.Entry.Modern
import Automation.Proofs.Value.Copies

/-!
# Keys stay once

A mapping whose keys are pairwise not the same keeps to that in everything that a reader does to it:
when it is looked at by itself (`Value.keysOnce_expose`), when it is copied
(`Value.keysOnce_mapOrigin`), and when its steps get their present names
(`Entry.keysOnce_modernStep`). So a step that is read out of such a document has no old names
(`Entry.isModernStep_of_keysOnce`).
-/

namespace Automation

namespace Entries

variable {es es' : Entries}

/-- Whether keys are pairwise not the same can be told from the keys. -/
theorem Distinct.of_keys (h : es.Distinct) (hkeys : es'.map (·.1) = es.map (·.1)) :
    es'.Distinct := by
  have hdistinct : (es.map (·.1)).Pairwise fun a b => a.agrees b = false := List.pairwise_map.2 h
  rw [← hkeys] at hdistinct
  exact List.pairwise_map.1 hdistinct

theorem Distinct.erase (h : es.Distinct) (name : String) : Distinct (es.erase name) := h.filter _

/-- Setting a field puts no second value under its name. -/
theorem Distinct.set (h : es.Distinct) (name : String) (v : Value) : Distinct (es.set name v) := by
  unfold Entries.set
  split
  · refine h.of_keys ?_
    rw [List.map_map]
    refine List.map_congr_left fun e _ => ?_
    rw [Function.comp_apply]
    split <;> rfl
  · rename_i hnew
    refine List.pairwise_append.2 ⟨h, List.pairwise_singleton .., fun e he e' he' => ?_⟩
    rw [List.mem_singleton.1 he', Value.agrees_str]
    simpa using List.any_eq_false.1 (Bool.eq_false_iff.2 hnew) e he

/-- A new name that is not there yet puts no second value under it. -/
theorem Distinct.rename (h : es.Distinct) {old new : String} (hnew : es.has new = false) :
    Distinct (es.rename old new) := by
  have hother {e : Value × Value} (he : e ∈ es) : e.1.isText new = false := by
    simpa using List.any_eq_false.1 hnew e he
  refine List.pairwise_map.2 (h.imp_of_mem fun {a b} ha hb hab => ?_)
  split
  · rename_i hs
    split
    · -- only one of the two keys is the old one
      rename_i ht
      rw [Value.isText_iff.1 hs, Value.isText_iff.1 ht, Value.agrees_refl] at hab
      cases hab
    · rw [Value.str_agrees]
      exact hother hb
  · split
    · rw [Value.agrees_str]
      exact hother ha
    · exact hab

end Entries

namespace Value

/-- Values have their keys once when each of them has. -/
theorem haveKeysOnce_iff {items : List Value} :
    haveKeysOnce items = true ↔ ∀ v ∈ items, v.keysOnce = true := by
  induction items with
  | nil => simp [haveKeysOnce]
  | cons v items ih => rw [haveKeysOnce, Bool.and_eq_true, ih, List.forall_mem_cons]

theorem keysOnce_list_iff {o : Origin} {items : List Value} :
    (list o items).keysOnce = true ↔ ∀ v ∈ items, v.keysOnce = true := haveKeysOnce_iff

theorem entriesKeysOnce_iff {es : Entries} :
    entriesKeysOnce es = true ↔ ∀ e ∈ es, e.2.keysOnce = true := by
  induction es with
  | nil => simp [entriesKeysOnce]
  | cons e es ih => rw [entriesKeysOnce, Bool.and_eq_true, ih, List.forall_mem_cons]

/-- A mapping has its keys once when they are pairwise different and its values have theirs. -/
theorem keysOnce_map_iff {o : Origin} {es : Entries} :
    (map o es).keysOnce = true ↔ es.Distinct ∧ ∀ e ∈ es, e.2.keysOnce = true := by
  rw [keysOnce, Bool.and_eq_true, decide_eq_true_eq, entriesKeysOnce_iff]
  rfl

/-- Filling in changes no key. -/
theorem fillEntries_keys (o : Origin) (new : Value) (es : Entries) :
    (fillEntries o new es).map (·.1) = es.map (·.1) := by
  induction es with
  | nil => rfl
  | cons e es ih => rw [fillEntries, List.map_cons, ih, List.map_cons]

mutual
/-- Keys stay once where occurrences of a collection are replaced. -/
theorem keysOnce_fill {o : Origin} {new : Value} (hnew : new.keysOnce = true) : ∀ v : Value,
    v.keysOnce = true → (fill o new v).keysOnce = true
  | .null | .bool _ | .int _ | .float _ | .str _ | .bytes _ | .date .. | .moment .. => id
  | .set .. => id
  | .enclosing p isMap => by
    rw [fill]
    split
    · exact fun _ => hnew
    · exact id
  | .list p items => by
    rw [fill]
    split
    · exact id
    · exact fun h => keysOnce_list_iff.2 (keysOnce_fillItems hnew items (keysOnce_list_iff.1 h))
  | .tuple p items => by
    rw [fill]
    exact fun h => haveKeysOnce_iff.2 (keysOnce_fillItems hnew items (haveKeysOnce_iff.1 h))
  | .map p es => by
    rw [fill]
    split
    · exact id
    · intro h
      obtain ⟨hdistinct, hall⟩ := keysOnce_map_iff.1 h
      exact keysOnce_map_iff.2
        ⟨hdistinct.of_keys (fillEntries_keys o new es), keysOnce_fillEntries hnew es hall⟩

/-- Filling in a value that has its keys once leaves values that have. Induction on the items. -/
theorem keysOnce_fillItems {o : Origin} {new : Value} (hnew : new.keysOnce = true) :
    ∀ items : List Value, (∀ v ∈ items, v.keysOnce = true) →
      ∀ v ∈ fillItems o new items, v.keysOnce = true
  | [] => fun _ => by simp [fillItems]
  | v :: vs => fun h => by
    obtain ⟨hv, hvs⟩ := List.forall_mem_cons.1 h
    rw [fillItems]
    exact List.forall_mem_cons.2 ⟨keysOnce_fill hnew v hv, keysOnce_fillItems hnew vs hvs⟩

theorem keysOnce_fillEntries {o : Origin} {new : Value} (hnew : new.keysOnce = true) :
    ∀ es : List (Value × Value), (∀ e ∈ es, e.2.keysOnce = true) →
      ∀ e ∈ fillEntries o new es, e.2.keysOnce = true
  | [] => fun _ => by simp [fillEntries]
  | (k, v) :: es => fun h => by
    obtain ⟨hv, hes⟩ := List.forall_mem_cons.1 h
    rw [fillEntries]
    exact List.forall_mem_cons.2 ⟨keysOnce_fill hnew v hv, keysOnce_fillEntries hnew es hes⟩
end

/-- The items of a list stay so when each is looked at by itself. -/
theorem keysOnce_partItems {o : Origin} {whole : Value} (hwhole : whole.keysOnce = true)
    {items : List Value} (h : ∀ v ∈ items, v.keysOnce = true) :
    ∀ v ∈ partItems o whole items, v.keysOnce = true := by
  unfold partItems
  split
  · exact keysOnce_fillItems hwhole items h
  · exact h

/-- The entries of a mapping that holds itself are under the keys of the mapping. -/
theorem partEntries_keys (o : Origin) (whole : Value) (es : Entries) :
    (partEntries o whole es).map (·.1) = es.map (·.1) := by
  unfold partEntries
  split
  · exact fillEntries_keys o whole es
  · rfl

/-- A mapping that holds itself has its keys once inside as well. -/
theorem keysOnce_partEntries {o p : Origin} {whole : Value} (hwhole : whole.keysOnce = true)
    {es : Entries} (h : (map p es).keysOnce = true) :
    (map p (partEntries o whole es)).keysOnce = true := by
  obtain ⟨hdistinct, hall⟩ := keysOnce_map_iff.1 h
  refine keysOnce_map_iff.2 ⟨hdistinct.of_keys (partEntries_keys o whole es), ?_⟩
  unfold partEntries
  split
  · exact keysOnce_fillEntries hwhole es hall
  · exact hall

/-- Keys stay once in a value that is looked at by itself. -/
theorem keysOnce_expose {v : Value} (h : v.keysOnce = true) : v.expose.keysOnce = true := by
  cases v with
  | list o items => exact keysOnce_list_iff.2 (keysOnce_partItems h (keysOnce_list_iff.1 h))
  | map o es => exact keysOnce_partEntries h h
  | _ => exact h

mutual
/-- Keys stay once in a copy. -/
theorem keysOnce_mapOrigin {f : Origin → Origin} (hf : Function.Injective f) : ∀ v : Value,
    v.keysOnce = true → (v.mapOrigin f).keysOnce = true
  | .null | .bool _ | .int _ | .float _ | .str _ | .bytes _ | .date .. | .moment .. => id
  | .enclosing .. => id
  | .list _ items | .set _ items | .tuple _ items => fun h =>
    haveKeysOnce_iff.2 (keysOnce_mapItems hf items (haveKeysOnce_iff.1 h))
  | .map o es => fun h => by
    obtain ⟨hdistinct, hall⟩ := keysOnce_map_iff.1 h
    refine keysOnce_map_iff.2 ⟨?_, keysOnce_mapEntries hf es hall⟩
    rw [mapEntries_eq_map]
    refine List.pairwise_map.2 (hdistinct.imp fun hab => ?_)
    rwa [agrees_mapOrigin hf]

theorem keysOnce_mapItems {f : Origin → Origin} (hf : Function.Injective f) :
    ∀ items : List Value, (∀ v ∈ items, v.keysOnce = true) →
      ∀ v ∈ mapItems f items, v.keysOnce = true
  | [] => fun _ => by simp [mapItems]
  | v :: vs => fun h => by
    obtain ⟨hv, hvs⟩ := List.forall_mem_cons.1 h
    rw [mapItems]
    exact List.forall_mem_cons.2 ⟨keysOnce_mapOrigin hf v hv, keysOnce_mapItems hf vs hvs⟩

theorem keysOnce_mapEntries {f : Origin → Origin} (hf : Function.Injective f) :
    ∀ es : List (Value × Value), (∀ e ∈ es, e.2.keysOnce = true) →
      ∀ e ∈ mapEntries f es, e.2.keysOnce = true
  | [] => fun _ => by simp [mapEntries]
  | (k, v) :: es => fun h => by
    obtain ⟨hv, hes⟩ := List.forall_mem_cons.1 h
    rw [mapEntries]
    exact List.forall_mem_cons.2 ⟨keysOnce_mapOrigin hf v hv, keysOnce_mapEntries hf es hes⟩
end

/-- A copy has its keys once. -/
theorem keysOnce_inside {v : Value} (h : v.keysOnce = true) (place : Place) :
    (v.inside place).keysOnce = true :=
  keysOnce_mapOrigin (Origin.inside_injective place) v h

/-- The field of a mapping. -/
theorem keysOnce_get {o : Origin} {es : Entries} (h : (map o es).keysOnce = true) (name : String) :
    (es.get name).keysOnce = true := by
  unfold Entries.get
  cases hget : es.get? name with
  | none => rfl
  | some v => exact keysOnce_of_mem_entries h (Entries.mem_of_get?_eq_some hget)

end Value

/-! ## Changes of a mapping -/

namespace Entries

open Value

variable {es : Entries}

theorem keysOnce_erase (h : (ofEntries es).keysOnce = true) (name : String) :
    (ofEntries (es.erase name)).keysOnce = true := by
  obtain ⟨hdistinct, hall⟩ := keysOnce_map_iff.1 h
  exact keysOnce_map_iff.2
    ⟨hdistinct.erase name, fun e he => hall e (List.mem_filter.1 he).1⟩

/-- An entry has its keys once behind a new name that it did not have. -/
theorem keysOnce_rename (h : (ofEntries es).keysOnce = true) {old new : String}
    (hnew : es.has new = false) : (ofEntries (es.rename old new)).keysOnce = true := by
  obtain ⟨hdistinct, hall⟩ := keysOnce_map_iff.1 h
  refine keysOnce_map_iff.2 ⟨hdistinct.rename hnew, fun e he => ?_⟩
  obtain ⟨e', he', rfl⟩ := List.mem_map.1 he
  split <;> exact hall e' he'

theorem keysOnce_set (h : (ofEntries es).keysOnce = true) (name : String) {v : Value}
    (hv : v.keysOnce = true) : (ofEntries (es.set name v)).keysOnce = true := by
  obtain ⟨hdistinct, hall⟩ := keysOnce_map_iff.1 h
  refine keysOnce_map_iff.2 ⟨hdistinct.set name v, fun e he => ?_⟩
  rcases Entry.mem_of_mem_set he with ⟨he, -⟩ | ⟨-, hvalue⟩
  · exact hall e he
  · exact hvalue ▸ hv

end Entries

namespace Entry

open Value

variable {place : Place} {es : Entries}

/-! ## Steps apart -/

/-- Copies of triggers have their keys once. -/
theorem keysOnce_triggersApart {v : Value} (h : v.keysOnce = true) :
    (triggersApart place v).keysOnce = true := by
  cases v with
  | list o items =>
    rw [triggersApart]
    refine keysOnce_list_iff.2 fun t ht => ?_
    obtain ⟨⟨w, i⟩, hitem, rfl⟩ := List.mem_map.1 ht
    have hw := keysOnce_partItems h (keysOnce_list_iff.1 h) w (List.fst_mem_of_mem_zipIdx hitem)
    cases w with
    | map => exact keysOnce_inside hw _
    | _ => exact hw
  | map o es => exact keysOnce_inside h _
  | _ => exact h

mutual
/-- Keys stay once where inner entries are copied apart. -/
theorem keysOnce_valueApart (place : Place) : ∀ v : Value, v.keysOnce = true →
    (valueApart place v).keysOnce = true
  | .null | .bool _ | .int _ | .float _ | .str _ | .bytes _ | .date .. | .moment .. => id
  | .tuple .. | .set .. | .enclosing .. => id
  | .list o items => fun h => by
    rw [valueApart]
    exact keysOnce_list_iff.2 (keysOnce_partItems h
      (keysOnce_itemsApart place items 0 (keysOnce_list_iff.1 h)))
  | .map o es => fun h => by
    rw [valueApart]
    obtain ⟨hdistinct, hall⟩ := keysOnce_map_iff.1 h
    have hfields : (Value.map o (fieldsApart place es)).keysOnce = true := keysOnce_map_iff.2
      ⟨hdistinct.of_keys (fieldsApart_keys place es), keysOnce_fieldsApart place es hall⟩
    have hinner := keysOnce_partEntries (o := o) h hfields
    split
    · obtain ⟨hdistinct, hall⟩ := keysOnce_map_iff.1 (keysOnce_inside hinner place)
      exact keysOnce_map_iff.2 ⟨hdistinct, hall⟩
    · exact hinner

theorem keysOnce_itemsApart (place : Place) : ∀ (items : List Value) (i : Nat),
    (∀ v ∈ items, v.keysOnce = true) → ∀ v ∈ itemsApart place i items, v.keysOnce = true
  | [], _ => fun _ => by simp [itemsApart]
  | v :: vs, i => fun h => by
    obtain ⟨hv, hvs⟩ := List.forall_mem_cons.1 h
    rw [itemsApart]
    exact List.forall_mem_cons.2
      ⟨keysOnce_valueApart _ v hv, keysOnce_itemsApart place vs (i + 1) hvs⟩

theorem keysOnce_fieldsApart (place : Place) : ∀ es : List (Value × Value),
    (∀ e ∈ es, e.2.keysOnce = true) → ∀ e ∈ fieldsApart place es, e.2.keysOnce = true
  | [] => fun _ => by simp [fieldsApart]
  | (k, v) :: es => fun h => by
    obtain ⟨hv, hes⟩ := List.forall_mem_cons.1 h
    unfold fieldsApart
    refine List.forall_mem_cons.2 ⟨?_, keysOnce_fieldsApart place es hes⟩
    dsimp only
    split
    · split
      · exact keysOnce_valueApart _ v hv
      · split
        · exact keysOnce_triggersApart hv
        · exact hv
    · exact hv
end

/-- A step apart has its keys once. -/
theorem keysOnce_apart (kind : NodeKind) (place : Place) (h : (ofEntries es).keysOnce = true) :
    (ofEntries (apart kind place es)).keysOnce = true := by
  obtain ⟨hdistinct, hall⟩ := keysOnce_map_iff.1 h
  unfold apart
  split
  · exact keysOnce_map_iff.2
      ⟨hdistinct.of_keys (fieldsApart_keys place es), keysOnce_fieldsApart place es hall⟩
  · refine keysOnce_map_iff.2 ⟨hdistinct.of_keys ?_, fun e he => ?_⟩
    · rw [List.map_map]
      refine List.map_congr_left fun e _ => ?_
      rw [Function.comp_apply]
      split <;> rfl
    · obtain ⟨e', he', rfl⟩ := List.mem_map.1 he
      split
      · exact keysOnce_triggersApart (hall e' he')
      · exact hall e' he'
  · exact h

/-! ## Present names -/

/-- An old name is replaced where the new one is missing, and dropped where it is there. -/
theorem keysOnce_modernKey {old new : String} (h : (ofEntries es).keysOnce = true) :
    (ofEntries (modernKey old new place es).1).keysOnce = true := by
  unfold modernKey
  split
  · split
    · exact Entries.keysOnce_erase h old
    · rename_i hnew
      exact Entries.keysOnce_rename h (by simpa using hnew)
  · exact h

/-- Triggers that were read have their keys once. -/
theorem keysOnce_modernTriggers {items : List Value} (h : ∀ v ∈ items, v.keysOnce = true)
    (i : Nat) :
    ∀ v ∈ (modernTriggers place i items).1, v.keysOnce = true := by
  induction items generalizing i with
  | nil => simp [modernTriggers]
  | cons v items ih =>
    obtain ⟨hv, hitems⟩ := List.forall_mem_cons.1 h
    have hv' := keysOnce_expose hv
    unfold modernTriggers
    dsimp only
    split
    · rename_i hexpose
      rw [hexpose] at hv'
      exact List.forall_mem_cons.2 ⟨keysOnce_modernKey hv', ih hitems (i + 1)⟩
    · exact List.forall_mem_cons.2 ⟨hv, ih hitems (i + 1)⟩

/-- A wait that was read has its keys once. -/
theorem keysOnce_modernWait (h : (ofEntries es).keysOnce = true) :
    (ofEntries (modernWait place es).1).keysOnce = true := by
  have hwaits := keysOnce_expose (keysOnce_get h "wait_for_trigger")
  rcases modernWait_cases place es with ⟨o, items, hexpose, hresult⟩ | ⟨o, inner, hexpose, hresult⟩
      | ⟨-, -, hresult⟩
  · rw [hexpose] at hwaits
    rw [hresult]
    exact Entries.keysOnce_set h _
      (keysOnce_list_iff.2 (keysOnce_modernTriggers (keysOnce_list_iff.1 hwaits) 0))
  · rw [hexpose] at hwaits
    rw [hresult]
    exact Entries.keysOnce_set h _
      (keysOnce_list_iff.2 (keysOnce_modernTriggers (List.forall_mem_singleton.2 hwaits) 0))
  · rw [hresult]
    exact h

mutual
/-- Keys stay once where inner entries get their present names. -/
theorem keysOnce_modernNested (place : Place) : ∀ v : Value, v.keysOnce = true →
    (modernNested place v).1.keysOnce = true
  | .null | .bool _ | .int _ | .float _ | .str _ | .bytes _ | .date .. | .moment .. => id
  | .tuple .. | .set .. | .enclosing .. => id
  | .list o items => fun h => by
    rw [modernNested]
    exact keysOnce_list_iff.2 (keysOnce_modernItems place items 0 (keysOnce_list_iff.1 h))
  | .map o es => fun h => by
    rw [modernNested]
    obtain ⟨hdistinct, hall⟩ := keysOnce_map_iff.1 h
    have hfields : (ofEntries ((modernFields place es).map (·.1))).keysOnce = true :=
      keysOnce_map_iff.2 ⟨hdistinct.of_keys (modernFields_keys place es),
        List.forall_mem_map.2 (keysOnce_modernFields place es hall)⟩
    exact keysOnce_modernWait (keysOnce_modernKey hfields)

theorem keysOnce_modernItems (place : Place) : ∀ (items : List Value) (i : Nat),
    (∀ v ∈ items, v.keysOnce = true) → ∀ v ∈ (modernItems place i items).1, v.keysOnce = true
  | [], _ => fun _ => by simp [modernItems]
  | v :: vs, i => fun h => by
    obtain ⟨hv, hvs⟩ := List.forall_mem_cons.1 h
    rw [modernItems]
    exact List.forall_mem_cons.2
      ⟨keysOnce_modernNested _ v hv, keysOnce_modernItems place vs (i + 1) hvs⟩

theorem keysOnce_modernFields (place : Place) : ∀ es : List (Value × Value),
    (∀ e ∈ es, e.2.keysOnce = true) → ∀ field ∈ modernFields place es, field.1.2.keysOnce = true
  | [] => fun _ => by simp [modernFields]
  | (k, v) :: es => fun h => by
    obtain ⟨hv, hes⟩ := List.forall_mem_cons.1 h
    unfold modernFields
    refine List.forall_mem_cons.2 ⟨?_, keysOnce_modernFields place es hes⟩
    split
    · split
      · exact keysOnce_modernNested _ v hv
      · exact hv
    · exact hv
end

/-- Keys stay once in the payload of a step that is read. -/
theorem keysOnce_modernStep (kind : NodeKind) (h : (ofEntries es).keysOnce = true) :
    (ofEntries (modernStep kind place (apart kind place es)).1).keysOnce = true := by
  have happart := keysOnce_apart kind place h
  unfold modernStep
  split
  · exact keysOnce_modernNested place (ofEntries _) (keysOnce_modernKey happart)
  · exact keysOnce_modernWait happart
  · exact happart

/-- What a reader makes of a step of a document has no old names. -/
theorem isModernStep_of_keysOnce (kind : NodeKind) (h : (ofEntries es).keysOnce = true) :
    IsModernStep kind (modernStep kind place (apart kind place es)).1 :=
  isModernStep_modernStep (keysOnce_modernStep kind h)

end Entry

end Automation
