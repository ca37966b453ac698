import Automation.Entry.Sharing
import Automation.Proofs.Value.Entries
import Automation.Proofs.Value.Origins

/-!
# Steps with present names

What a reader does not change in a step: without an old key the name of its action stays what it is
(`Entry.get?_modernStep_action`). Whatever it does change it can say (`Entry.check_modernStep`), as
its notices quote no values of the document. It is done with every step but an action that is found
inside itself (`Entry.renewStep_eq_ok_iff`), and whether an action is does not hinge on the copies
that are made of it (`Entry.isEndlessStep_apart`).
-/

namespace Automation

/-- Notices whose values can all be written. -/
theorem Notice.check_of_forall {notices : List Notice}
    (h : ∀ notice ∈ notices, ∀ v ∈ notice.values, v.hasText = true) :
    Notice.check notices = .ok () := by
  have hall : (notices.flatMap (·.values)).all (·.hasText) = true := by
    rw [List.all_eq_true]
    intro v hv
    obtain ⟨notice, hnotice, hv⟩ := List.mem_flatMap.1 hv
    exact h notice hnotice v hv
  rw [Notice.check, if_pos hall]

namespace Entry

variable {place : Place} {es : Entries} {name : String}

/-! ## Steps -/

/-- The kinds of nodes that steps become. -/
theorem cases_of_kind {kind : NodeKind} (h : Entry.kind es = .step kind) :
    kind = .action ∨ kind = .delay ∨ kind = .wait ∨ kind = .setVariables := by
  unfold Entry.kind at h
  repeat' split at h
  all_goals cases h
  all_goals simp

/-- No step is a trigger. -/
theorem isTrigger_of_kind {kind : NodeKind} (h : Entry.kind es = .step kind) :
    kind.isTrigger = false := by
  rcases cases_of_kind h with rfl | rfl | rfl | rfl <;> rfl

/-- No step is a condition. -/
theorem isCondition_of_kind {kind : NodeKind} (h : Entry.kind es = .step kind) :
    kind.isCondition = false := by
  rcases cases_of_kind h with rfl | rfl | rfl | rfl <;> rfl

/-- A step is of a known kind. -/
theorem isKnown_of_kind {kind : NodeKind} (h : Entry.kind es = .step kind) :
    kind.isKnown = true := by
  rcases cases_of_kind h with rfl | rfl | rfl | rfl <;> rfl

/-! ## Fields that stay -/

/-- The value of a field in front matters only when the field is looked for. -/
theorem get?_cons_congr {k v w : Value} {es' : Entries} (hv : k.isText name = true → v = w)
    (hes : Entries.get? es name = Entries.get? es' name) :
    Entries.get? ((k, v) :: es) name = Entries.get? ((k, w) :: es') name := by
  rw [Entries.get?_cons, Entries.get?_cons, hes]
  split
  · rename_i hname
    rw [hv hname]
  · rfl

/-- A field that holds no entries is the same in a step apart. -/
theorem get?_fieldsApart (hnested : name ∉ nestedKeys) (hwait : name ≠ "wait_for_trigger") :
    Entries.get? (fieldsApart place es) name = Entries.get? es name := by
  induction es with
  | nil => rw [fieldsApart]
  | cons e es ih =>
    unfold fieldsApart
    refine get?_cons_congr (fun hname => ?_) ih
    rw [Value.isText_iff.1 hname]
    dsimp only
    rw [if_neg (by simpa using hnested), if_neg hwait]

/-- A field that holds no entries is the same with present names. -/
theorem get?_modernFields (hnested : name ∉ nestedKeys) :
    Entries.get? ((modernFields place es).map (·.1)) name = Entries.get? es name := by
  induction es with
  | nil => rw [modernFields, List.map_nil]
  | cons e es ih =>
    obtain ⟨k, v⟩ := e
    unfold modernFields
    rw [List.map_cons]
    split
    · split
      · rename_i key hkey
        refine get?_cons_congr (fun hname => absurd ?_ hnested) ih
        rw [Value.isText_str, beq_iff_eq] at hname
        simpa [hname] using hkey
      · exact get?_cons_congr (fun _ => rfl) ih
    · exact get?_cons_congr (fun _ => rfl) ih

/-- No field but that of the wait changes. -/
theorem get?_modernWait (hwait : "wait_for_trigger" ≠ name) :
    Entries.get? (modernWait place es).1 name = Entries.get? es name := by
  unfold modernWait
  dsimp only
  split
  · exact Entries.get?_set_of_ne hwait _
  · exact Entries.get?_set_of_ne hwait _
  · rfl

/-- The action of a step that is written with its present name stays what it is. -/
theorem get?_modernStep_action (h : es.has "service" = false) :
    Entries.get? (modernStep .action place (apart .action place es)).1 "action"
      = Entries.get? es "action" := by
  have hnested : "service" ∉ nestedKeys ∧ "action" ∉ nestedKeys := by decide
  have hservice (fs : Entries) (hfs : Entries.get? fs "service" = Entries.get? es "service") :
      modernAction place fs = (fs, []) := by
    refine modernKey_of_not_has ?_
    rw [← Entries.get?_eq_none_iff, hfs, Entries.get?_eq_none_iff, h]
  have hapart : modernAction place (apart .action place es) = (apart .action place es, []) :=
    hservice _ (get?_fieldsApart hnested.1 (by decide))
  have hfields := hservice ((modernFields place (apart .action place es)).map (·.1)) <| by
    rw [get?_modernFields hnested.1]
    exact get?_fieldsApart hnested.1 (by decide)
  rw [modernStep]
  dsimp only
  rw [hapart, joinFields]
  dsimp only
  rw [hfields, get?_modernWait (by decide), get?_modernFields hnested.2]
  exact get?_fieldsApart hnested.2 (by decide)

/-! ## Notices -/

/-- The notice about an old name cites no value of the document. -/
theorem values_of_mem_modernKey {old new : String} {notice : Notice}
    (h : notice ∈ (modernKey old new place es).2) : notice.values = [] := by
  unfold modernKey at h
  split at h
  · split at h <;> rw [List.mem_singleton.1 h] <;> rfl
  · cases h

theorem values_of_mem_modernTriggers {items : List Value} {i : Nat} {notice : Notice}
    (h : notice ∈ (modernTriggers place i items).2) : notice.values = [] := by
  induction items generalizing i with
  | nil => cases h
  | cons v items ih =>
    unfold modernTriggers at h
    dsimp only at h
    split at h
    · exact (List.mem_append.1 h).elim values_of_mem_modernKey ih
    · exact ih h

theorem values_of_mem_modernWait {notice : Notice} (h : notice ∈ (modernWait place es).2) :
    notice.values = [] := by
  unfold modernWait at h
  dsimp only at h
  split at h
  · exact values_of_mem_modernTriggers h
  · exact values_of_mem_modernTriggers h
  · cases h

/-- Putting fields together adds only notices that cite no value. -/
theorem values_of_mem_joinFields {fields : List ((Value × Value) × List Notice)}
    (hfields : ∀ field ∈ fields, ∀ notice ∈ field.2, notice.values = []) {notice : Notice}
    (h : notice ∈ (joinFields place fields).2) : notice.values = [] := by
  unfold joinFields at h
  dsimp only at h
  rcases List.mem_append.1 h with h | h
  · exact (List.mem_append.1 h).elim values_of_mem_modernKey values_of_mem_modernWait
  · obtain ⟨key, -, h⟩ := List.mem_flatMap.1 h
    obtain ⟨field, hfield, h⟩ := List.mem_flatMap.1 h
    exact hfields field (List.mem_filter.1 hfield).1 notice h

mutual
theorem values_of_mem_modernNested (place : Place) :
    ∀ v : Value, ∀ notice ∈ (modernNested place v).2, notice.values = []
  | .list o items => by
    rw [modernNested]
    exact values_of_mem_modernItems place items 0
  | .map o es => by
    rw [modernNested]
    exact fun notice => values_of_mem_joinFields (values_of_mem_modernFields place es)
  | .null | .bool _ | .int _ | .float _ | .str _ | .bytes _ | .date .. | .moment .. => by
    simp [modernNested]
  | .tuple .. | .set .. | .enclosing .. => by
    simp [modernNested]

/-- The notices about a list are those about its items. -/
theorem values_of_mem_modernItems (place : Place) : ∀ (items : List Value) (i : Nat),
    ∀ notice ∈ (modernItems place i items).2, notice.values = []
  | [], _ => nofun
  | v :: vs, i => by
    rw [modernItems]
    exact List.forall_mem_append.2
      ⟨values_of_mem_modernNested _ v, values_of_mem_modernItems place vs (i + 1)⟩

theorem values_of_mem_modernFields (place : Place) : ∀ es : List (Value × Value),
    ∀ field ∈ modernFields place es, ∀ notice ∈ field.2, notice.values = []
  | [] => nofun
  | (k, v) :: es => by
    unfold modernFields
    refine List.forall_mem_cons.2 ⟨?_, values_of_mem_modernFields place es⟩
    split
    · split
      · exact values_of_mem_modernNested _ v
      · exact List.forall_mem_nil _
    · exact List.forall_mem_nil _
end

/-- A reader can say what it renames in a step. -/
theorem check_modernStep (kind : NodeKind) (place : Place) (es : Entries) :
    Notice.check (modernStep kind place es).2 = .ok () := by
  refine Notice.check_of_forall fun notice hnotice => ?_
  suffices hvalues : notice.values = [] by
    rw [hvalues]
    simp
  unfold modernStep at hnotice
  split at hnotice
  · exact (List.mem_append.1 hnotice).elim values_of_mem_modernKey
      (values_of_mem_joinFields (values_of_mem_modernFields place _))
  · exact values_of_mem_modernWait hnotice
  · cases hnotice

/-! ## Steps without end -/

section Endless

variable {kind : NodeKind} {o : Origin} {whole : Value}

/-- A step is renewed when there is an end to it. -/
theorem renewStep_eq_ok_iff {step : Entries × List Notice} : renewStep kind place es = .ok step
    ↔ isEndlessStep kind es = false ∧ modernStep kind place es = step := by
  unfold renewStep
  cases isEndlessStep kind es with
  | true => exact iff_of_false (fun h => nomatch h) fun h => nomatch h.1
  | false => exact ⟨fun h => ⟨rfl, Except.ok.inj h⟩, fun h => congrArg Except.ok h.2⟩

/-- Only actions are looked into. -/
theorem isEndlessStep_of_ne (h : kind ≠ .action) : isEndlessStep kind es = false := by
  unfold isEndlessStep
  split
  · exact absurd rfl h
  · rfl

mutual
/-- What takes the place of an inner occurrence has no end where the occurrence had none. -/
theorem isEndless_fill : ∀ v : Value, (isEndless v = true → isEndless whole = true) →
    isEndless (Value.fill o whole v) = isEndless v
  | .list p items => fun h => by
    rw [Value.fill]
    split
    · rfl
    · exact itemsEndless_fillItems items h
  | .map p es => fun h => by
    rw [Value.fill]
    split
    · rfl
    · exact fieldsEndless_fillEntries es h
  | .enclosing p isMap => fun h => by
    rw [Value.fill]
    split
    · exact h rfl
    · rfl
  | .tuple .. | .set .. => fun _ => rfl
  | .null | .bool _ | .int _ | .float _ | .str _ | .bytes _ | .date .. | .moment .. => fun _ => rfl

/-- Filling in makes no list endless, unless what is filled in is. -/
theorem itemsEndless_fillItems : ∀ items : List Value,
    (itemsEndless items = true → isEndless whole = true) →
      itemsEndless (Value.fillItems o whole items) = itemsEndless items
  | [] => fun _ => rfl
  | v :: vs => fun h => by
    rw [Value.fillItems, itemsEndless, itemsEndless,
      isEndless_fill v fun hv => h (Bool.or_eq_true_iff.2 (.inl hv)),
      itemsEndless_fillItems vs fun hvs => h (Bool.or_eq_true_iff.2 (.inr hvs))]

theorem fieldsEndless_fillEntries : ∀ es : List (Value × Value),
    (fieldsEndless es = true → isEndless whole = true) →
      fieldsEndless (Value.fillEntries o whole es) = fieldsEndless es
  | [] => fun _ => rfl
  | (k, v) :: es => fun h => by
    rw [Value.fillEntries, fieldsEndless, fieldsEndless,
      fieldsEndless_fillEntries es fun hes => h (Bool.or_eq_true_iff.2 (.inr hes))]
    -- a field that is not looked into counts for nothing, whatever its value is
    cases hkey : nestedKeys.any (k.isText ·) with
    | false => rfl
    | true =>
      refine congrArg (· || _) (congrArg _ (isEndless_fill v fun hv => h ?_))
      exact Bool.or_eq_true_iff.2 (.inl (Bool.and_eq_true_iff.2 ⟨hkey, hv⟩))
end

theorem itemsEndless_partItems {items items' : List Value}
    (h : itemsEndless items' = itemsEndless items) :
    itemsEndless (Value.partItems o (.list o items) items') = itemsEndless items := by
  unfold Value.partItems
  split
  · rw [itemsEndless_fillItems items' h.symm.trans, h]
  · exact h

/-- A mapping that holds itself is endless just if its entries are as they stand. -/
theorem fieldsEndless_partEntries {es es' : Entries} (h : fieldsEndless es' = fieldsEndless es) :
    fieldsEndless (Value.partEntries o (.map o es) es') = fieldsEndless es := by
  unfold Value.partEntries
  split
  · rw [fieldsEndless_fillEntries es' h.symm.trans, h]
  · exact h

mutual
/-- Whether there is an end to a value does not hinge on where its parts were written. -/
theorem isEndless_mapOrigin (f : Origin → Origin) :
    ∀ v : Value, isEndless (v.mapOrigin f) = isEndless v
  | .list _ items => itemsEndless_mapItems f items
  | .map _ es => fieldsEndless_mapEntries f es
  | .enclosing .. | .tuple .. | .set .. => rfl
  | .null | .bool _ | .int _ | .float _ | .str _ | .bytes _ | .date .. | .moment .. => rfl

theorem itemsEndless_mapItems (f : Origin → Origin) :
    ∀ items : List Value, itemsEndless (Value.mapItems f items) = itemsEndless items
  | [] => rfl
  | v :: vs => by
    rw [Value.mapItems, itemsEndless, itemsEndless, isEndless_mapOrigin f v,
      itemsEndless_mapItems f vs]

theorem fieldsEndless_mapEntries (f : Origin → Origin) :
    ∀ es : List (Value × Value), fieldsEndless (Value.mapEntries f es) = fieldsEndless es
  | [] => rfl
  | (k, v) :: es => by
    rw [Value.mapEntries, fieldsEndless, fieldsEndless, isEndless_mapOrigin f v,
      fieldsEndless_mapEntries f es]
    simp only [Value.isText_mapOrigin]
end

mutual
/-- Copies are endless just if the value is. Induction on the value, in the order of its copying. -/
theorem isEndless_valueApart (place : Place) : ∀ v : Value,
    isEndless (valueApart place v) = isEndless v
  | .list o items => by
    rw [valueApart]
    exact itemsEndless_partItems (itemsEndless_itemsApart place 0 items)
  | .map o es => by
    have hparts : fieldsEndless (Value.partEntries o (.map o es) (fieldsApart place es))
        = fieldsEndless es := fieldsEndless_partEntries (fieldsEndless_fieldsApart place es)
    rw [valueApart]
    unfold isEndless
    split
    · exact (fieldsEndless_mapEntries _ _).trans hparts
    · exact hparts
  | .enclosing .. | .tuple .. | .set .. => rfl
  | .null | .bool _ | .int _ | .float _ | .str _ | .bytes _ | .date .. | .moment .. => rfl

theorem itemsEndless_itemsApart (place : Place) (i : Nat) : ∀ items : List Value,
    itemsEndless (itemsApart place i items) = itemsEndless items
  | [] => rfl
  | v :: vs => by
    rw [itemsApart, itemsEndless, itemsEndless, isEndless_valueApart _ v,
      itemsEndless_itemsApart place (i + 1) vs]

theorem fieldsEndless_fieldsApart (place : Place) : ∀ es : List (Value × Value),
    fieldsEndless (fieldsApart place es) = fieldsEndless es
  | [] => rfl
  | (k, v) :: es => by
    unfold fieldsApart
    rw [fieldsEndless, fieldsEndless, fieldsEndless_fieldsApart place es]
    cases hkey : nestedKeys.any (k.isText ·) with
    | false => rfl
    | true =>
      obtain ⟨key, hmem, hname⟩ := List.any_eq_true.1 hkey
      cases Value.isText_iff.1 hname
      dsimp only
      rw [if_pos (List.contains_iff_mem.2 hmem), isEndless_valueApart _ v]
end

/-- Copying what is copied of a step does not change whether there is an end to it. -/
theorem isEndlessStep_apart (kind : NodeKind) (place : Place) (es : Entries) :
    isEndlessStep kind (apart kind place es) = isEndlessStep kind es := by
  cases kind <;> first
    | exact fieldsEndless_fieldsApart place es
    | rfl

end Endless

end Entry

end Automation
