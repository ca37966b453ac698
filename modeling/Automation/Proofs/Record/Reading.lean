import Automation.Proofs.Value.Entries
import Automation.Record.Reading

/-!
# What readers make of written values

The readers of records give back what was written: a list whose items are read, a mapping whose keys
are texts (`Entries.Keyed`), a field that is there, and a field that was left out.
-/

namespace Automation

namespace Reading

variable {α β : Type}

@[simp] theorem pure_eq_value (a : α) : (pure a : Reading α) = .value a := rfl

@[simp] theorem map_value (f : α → β) (a : α) : f <$> (.value a : Reading α) = .value (f a) := rfl

@[simp] theorem seq_value (f : α → β) (a : α) :
    (.value f : Reading (α → β)) <*> .value a = .value (f a) := rfl

@[simp] theorem under_value (steps : List String) (a : α) :
    (.value a : Reading α).under steps = .value a := rfl

/-- What is made of a reading is read when the reading is. -/
theorem map_eq_value {f : α → β} {r : Reading α} {b : β} :
    f <$> r = .value b ↔ ∃ a, r = .value a ∧ f a = b := by
  cases r with
  | value a =>
    rw [map_value]
    simp
  | refused issues =>
    show (.refused _ : Reading β) = .value b ↔ _
    simp

/-- Two readings in a row are read when both are. -/
theorem seq_eq_value {f : Reading (α → β)} {r : Reading α} {b : β} :
    f <*> r = .value b ↔ ∃ g a, f = .value g ∧ r = .value a ∧ g a = b := by
  cases f with
  | value g =>
    show g <$> r = .value b ↔ _
    rw [map_eq_value]
    simp
  | refused issues =>
    show (.refused _ : Reading β) = .value b ↔ _
    simp

/-- Where something was read has no part in what was read. -/
theorem under_eq_value {steps : List String} {r : Reading α} {a : α} :
    r.under steps = .value a ↔ r = .value a := by
  cases r <;> simp [under]

/-- Of readings put together, each gave its value. -/
theorem mem_of_collect_eq_value {rs : List (Reading α)} {as : List α} (h : collect rs = .value as)
    {a : α} (ha : a ∈ as) : .value a ∈ rs := by
  induction rs generalizing as with
  | nil =>
    cases h
    cases ha
  | cons r rs ih =>
    obtain ⟨f, rest, hr, hrest, rfl⟩ := seq_eq_value.1 h
    obtain ⟨b, rfl, rfl⟩ := map_eq_value.1 hr
    rcases List.mem_cons.1 ha with rfl | ha
    · exact List.mem_cons_self
    · exact List.mem_cons_of_mem _ (ih hrest ha)

/-- Readings that are read together are read one by one. -/
theorem exists_of_collect_eq_value {rs : List (Reading α)} {as : List α}
    (h : collect rs = .value as) {r : Reading α} (hr : r ∈ rs) : ∃ a, r = .value a := by
  induction rs generalizing as with
  | nil => cases hr
  | cons r' rs ih =>
    obtain ⟨f, rest, hfirst, hrest, rfl⟩ := seq_eq_value.1 h
    obtain ⟨b, rfl, rfl⟩ := map_eq_value.1 hfirst
    rcases List.mem_cons.1 hr with rfl | hr
    · exact ⟨b, rfl⟩
    · exact ih hrest hr

/-- Readings that all give a value, together. -/
theorem collect_of_forall {f : α → Reading β} {g : α → β} {xs : List α}
    (h : ∀ x ∈ xs, f x = .value (g x)) : collect (xs.map f) = .value (xs.map g) := by
  induction xs with
  | nil => rfl
  | cons x xs ih =>
    rw [List.map_cons, collect, h x List.mem_cons_self,
      ih fun y hy => h y (List.mem_cons_of_mem _ hy)]
    rfl

/-- Readings that are read one by one are read together. -/
theorem exists_collect_eq_value {rs : List (Reading α)} (h : ∀ r ∈ rs, ∃ a, r = .value a) :
    ∃ as, collect rs = .value as := by
  induction rs with
  | nil => exact ⟨_, rfl⟩
  | cons r rs ih =>
    obtain ⟨a, rfl⟩ := h r List.mem_cons_self
    obtain ⟨as, has⟩ := ih fun x hx => h x (List.mem_cons_of_mem _ hx)
    exact ⟨a :: as, by rw [collect, has]; rfl⟩

end Reading

theorem Value.isStr_iff {k : Value} : k.isStr = true ↔ ∃ s, k = .str s := by
  cases k <;> simp [isStr]

namespace Entries

/-- The keys of a mapping are texts, pairwise different. -/
structure Keyed (es : Entries) : Prop where
  isStr : ∀ e ∈ es, e.1.isStr = true
  distinct : es.Distinct

theorem keyed_nil : Keyed [] := ⟨by simp, List.Pairwise.nil⟩

/-- A mapping with a field in front that it does not have. -/
theorem Keyed.cons {es : Entries} {name : String} (h : es.Keyed) (hnew : es.has name = false)
    (v : Value) : Keyed ((.str name, v) :: es) := by
  refine ⟨fun e he => ?_, List.pairwise_cons.2 ⟨fun e he => ?_, h.distinct⟩⟩
  · rcases List.mem_cons.1 he with rfl | he
    · rfl
    · exact h.isStr e he
  · simp only [has, List.any_eq_false] at hnew
    simpa using hnew e he

/-- Setting a field keeps the keys texts. -/
theorem Keyed.set {es : Entries} (h : es.Keyed) (name : String) (v : Value) :
    Keyed (es.set name v) := by
  unfold Entries.set
  split
  · refine ⟨fun e he => ?_, ?_⟩
    · obtain ⟨e', he', rfl⟩ := List.mem_map.1 he
      split <;> exact h.isStr e' he'
    · refine List.pairwise_map.2 (h.distinct.imp fun {a b} hab => ?_)
      split <;> split <;> exact hab
  · rename_i hnew
    refine ⟨fun e he => ?_, List.pairwise_append.2 ⟨h.distinct, List.pairwise_singleton .., ?_⟩⟩
    · rcases List.mem_append.1 he with he | he
      · exact h.isStr e he
      · rw [List.mem_singleton.1 he]
        rfl
    · intro a ha b hb
      rw [List.mem_singleton.1 hb, Value.agrees_str]
      simp only [has, List.any_eq_true, not_exists, not_and] at hnew
      simpa using hnew a ha

/-- Mappings without a common key are merged one behind the other. -/
theorem merge_of_distinct {es more : Entries} (h : Distinct (es ++ more)) :
    es.merge more = es ++ more := by
  induction more generalizing es with
  | nil => simp [merge]
  | cons e rest ih =>
    have hnew : (es.any fun e' => e'.1.agrees e.1) = false := by
      rw [List.any_eq_false]
      intro a ha
      rw [(List.pairwise_append.1 h).2.2 a ha e List.mem_cons_self]
      decide
    have hinsert : es.insert e.1 e.2 = es ++ [e] := by
      rw [insert, if_neg (by simp [hnew])]
    rw [List.append_cons] at h ⊢
    rw [merge, List.foldl_cons, hinsert]
    exact ih h

/-- A merged mapping has texts for keys when both have. -/
theorem Keyed.merge {es more : Entries} (h : es.Keyed) (hmore : more.Keyed) :
    Keyed (es.merge more) := by
  have hstep : ∀ (more es : Entries), es.Keyed → (∀ e ∈ more, e.1.isStr = true) →
      Keyed (es.merge more) := by
    intro more
    induction more with
    | nil => exact fun _ h _ => h
    | cons e rest ih =>
      intro es h hstr
      obtain ⟨name, hname⟩ := Value.isStr_iff.1 (hstr e List.mem_cons_self)
      rw [Entries.merge, List.foldl_cons, hname, insert_str]
      exact ih _ (h.set name _) fun e he => hstr e (List.mem_cons_of_mem _ he)
  exact hstep more es h hmore.isStr

end Entries

namespace Reader

open Entries

variable {α : Type} {es : Entries} {name : String} {read : Reader α}

/-- A mapping of texts is read as it is. -/
theorem entries_ofEntries (h : es.Keyed) : entries (.ofEntries es) = .value es := by
  have hkeys : Reading.collect (es.map fun e => (text e.1).under [keyStep e.1, "[key]"])
      = .value (es.map fun e => e.1.text?.getD "") := by
    refine Reading.collect_of_forall fun e he => ?_
    obtain ⟨s, hs⟩ := Value.isStr_iff.1 (h.isStr e he)
    rw [hs]
    rfl
  -- putting the entries in one by one is a merge, which distinct keys make the entries themselves
  have hfold : ∀ (es acc : Entries), (∀ e ∈ es, e.1.isStr = true) →
      ((es.map fun e => e.1.text?.getD "").zip es).foldl
        (fun acc e => acc.insert (.str e.1) e.2.2) acc = acc.merge es := by
    intro es
    induction es with
    | nil => exact fun _ _ => rfl
    | cons e rest ih =>
      intro acc hstr
      obtain ⟨s, hs⟩ := Value.isStr_iff.1 (hstr e List.mem_cons_self)
      have hkey : Value.str (e.1.text?.getD "") = e.1 := by rw [hs]; rfl
      rw [List.map_cons, List.zip_cons_cons, List.foldl_cons, hkey,
        ih _ fun e he => hstr e (List.mem_cons_of_mem _ he)]
      rfl
  have hmerge : merge [] es = es := by
    have : Distinct ([] ++ es) := h.distinct
    simpa using merge_of_distinct this
  show (fun keys : List String =>
      (keys.zip es).foldl (fun acc e => Entries.insert acc (.str e.1) e.2.2) [])
    <$> Reading.collect (es.map fun e => (text e.1).under [keyStep e.1, "[key]"]) = _
  rw [hkeys, Reading.map_value, hfold es [] h.isStr, hmerge]

/-- A mapping whose keys are texts and whose values are all read. -/
theorem exists_mapping_ofEntries
    (h : ∀ e ∈ es, e.1.isStr = true ∧ ∃ a, read e.2 = .value a) :
    ∃ as, mapping read (.ofEntries es) = .value as := by
  obtain ⟨as, has⟩ : ∃ as, Reading.collect (es.map fun e =>
      Prod.mk <$> (text e.1).under [keyStep e.1, "[key]"] <*> (read e.2).under [keyStep e.1])
        = .value as := Reading.exists_collect_eq_value fun r hr => by
      obtain ⟨e, he, rfl⟩ := List.mem_map.1 hr
      obtain ⟨hstr, a, ha⟩ := h e he
      obtain ⟨s, hs⟩ := Value.isStr_iff.1 hstr
      rw [hs, ha]
      exact ⟨(s, a), rfl⟩
  refine ⟨as.foldl (fun acc e => (acc.filter (·.1 != e.1)) ++ [e]) [], ?_⟩
  exact congrArg (fun r => (fun as : List (String × α) =>
    as.foldl (fun acc e => (acc.filter (·.1 != e.1)) ++ [e]) []) <$> r) has

/-- A list of what was written is read item by item. -/
theorem list_map {β : Type} {write : β → Value} {f : β → α} {xs : List β}
    (h : ∀ x ∈ xs, read (write x) = .value (f x)) :
    list read (.ofItems (xs.map write)) = .value (xs.map f) := by
  have hcollect : Reading.collect ((xs.zipIdx.map (Prod.map write id)).map fun item =>
      (read item.1).under [toString item.2]) = .value (xs.zipIdx.map fun item => f item.1) := by
    rw [List.map_map]
    refine Reading.collect_of_forall fun item hitem => ?_
    rw [Function.comp_apply, Prod.map_fst, h item.1 (List.fst_mem_of_mem_zipIdx hitem)]
    rfl
  show Reading.collect ((xs.map write).zipIdx.map fun item =>
    (read item.1).under [toString item.2]) = _
  rw [List.zipIdx_map, hcollect, show (fun item : β × Nat => f item.1) = f ∘ Prod.fst from rfl,
    ← List.map_map, List.zipIdx_map_fst]

/-- A list whose items are all read. -/
theorem list_ofItems {f : Value → α} {items : List Value}
    (h : ∀ v ∈ items, read v = .value (f v)) : list read (.ofItems items) = .value (items.map f) := by
  have := @list_map _ _ _ id f items h
  rwa [List.map_id] at this

/-- A list of written mappings. -/
theorem list_entries_ofItems {ess : List Entries} (h : ∀ es ∈ ess, es.Keyed) :
    list entries (.ofItems (ess.map .ofEntries)) = .value ess := by
  rw [list_ofItems (f := fun v => (v.entries?).getD [])]
  · rw [List.map_map]
    congr 1
    exact List.map_id' ess
  · intro v hv
    obtain ⟨es, hes, rfl⟩ := List.mem_map.1 hv
    exact entries_ofEntries (h es hes)

/-! ## Fields -/

theorem field_of_get? {v : Value} {a : α} (h : es.get? name = some v) (hread : read v = .value a) :
    field es name read = .value a := by
  unfold field
  rw [h]
  show (read v).under [name] = _
  rw [hread, Reading.under_value]

theorem fieldOr_of_get? {v : Value} {a default : α} (h : es.get? name = some v)
    (hread : read v = .value a) : fieldOr es name default read = .value a := by
  unfold fieldOr
  rw [h]
  show (read v).under [name] = _
  rw [hread, Reading.under_value]

/-- A field that was written when there was something to write. -/
theorem optionalField_of_get? {o : Option α} (write : α → Value)
    (h : es.get? name = o.map write) (hread : ∀ a ∈ o, read (write a) = .value a)
    (hnull : ∀ a ∈ o, (write a).isNull = false) : optionalField es name read = .value o := by
  cases o with
  | none =>
    rw [optionalField, fieldOr, h]
    rfl
  | some a =>
    have hsome : optional read (write a) = some <$> read (write a) := by
      have := hnull a rfl
      cases hw : write a <;> first | rfl | (rw [hw] at this; cases this)
    refine fieldOr_of_get? h ?_
    rw [hsome, hread a rfl]
    rfl

/-! ## What was read -/

/-- A field that was read is there. -/
theorem of_field_eq_value {a : α} (h : field es name read = .value a) :
    ∃ v, es.get? name = some v ∧ read v = .value a := by
  unfold field at h
  split at h
  · rename_i v hget
    exact ⟨v, hget, Reading.under_eq_value.1 h⟩
  · cases h

/-- A field was read, or it was not there. -/
theorem of_fieldOr_eq_value {a default : α} (h : fieldOr es name default read = .value a) :
    a = default ∨ ∃ v, es.get? name = some v ∧ read v = .value a := by
  unfold fieldOr at h
  split at h
  · rename_i v hget
    exact .inr ⟨v, hget, Reading.under_eq_value.1 h⟩
  · cases h
    exact .inl rfl

/-- An optional field that was read, and is not null, is there. -/
theorem of_optionalField_eq_value {o : Option α} (h : optionalField es name read = .value o) :
    ∀ a ∈ o, ∃ v, es.get? name = some v ∧ read v = .value a := by
  intro a ha
  rcases of_fieldOr_eq_value h with rfl | ⟨v, hget, hread⟩
  · cases ha
  · unfold optional at hread
    split at hread
    · cases hread
      cases ha
    · obtain ⟨a', ha', rfl⟩ := Reading.map_eq_value.1 hread
      cases ha
      exact ⟨v, hget, ha'⟩

/-- Each thing in a list that was read was read from an item. -/
theorem of_list_eq_value {v : Value} {as : List α} (h : list read v = .value as) :
    ∃ items, sequence? v = some items ∧ ∀ a ∈ as, ∃ item ∈ items, read item = .value a := by
  unfold list at h
  split at h
  · rename_i items hitems
    refine ⟨items, hitems, fun a ha => ?_⟩
    obtain ⟨item, hitem, hread⟩ := List.mem_map.1 (Reading.mem_of_collect_eq_value h ha)
    exact ⟨item.1, List.fst_mem_of_mem_zipIdx hitem, Reading.under_eq_value.1 hread⟩
  · cases h

/-- In a list that is read each item is read. -/
theorem exists_of_list_eq_value {v item : Value} {items : List Value} {as : List α}
    (h : list read v = .value as) (hitems : sequence? v = some items) (hitem : item ∈ items) :
    ∃ a, read item = .value a := by
  unfold list at h
  rw [hitems] at h
  obtain ⟨x, hx, rfl⟩ := List.mem_map.1 (show item ∈ items.zipIdx.map Prod.fst by
    rwa [List.zipIdx_map_fst])
  obtain ⟨a, ha⟩ := Reading.exists_of_collect_eq_value h (List.mem_map_of_mem hx)
  exact ⟨a, Reading.under_eq_value.1 ha⟩

/-- A record that was read is a mapping whose entries were read. -/
theorem of_record_eq_value {record : String} {v : Value} {a : α} {read : Entries → Reading α}
    (h : Reader.record record read v = .value a) :
    ∃ o es, v.expose = .map o es ∧ read es = .value a := by
  unfold Reader.record at h
  split at h
  · rename_i o es hexpose
    exact ⟨o, es, hexpose, h⟩
  · cases h

/-- Entries that are read have texts for keys, pairwise different. -/
theorem keyed_of_entries {v : Value} {fields : Entries} (h : entries v = .value fields) :
    fields.Keyed := by
  unfold entries at h
  split at h
  · obtain ⟨keys, -, rfl⟩ := Reading.map_eq_value.1 h
    rename_i es _
    have hall : ∀ (pairs : List (String × Value × Value)) (acc : Entries), acc.Keyed →
        Keyed (pairs.foldl (fun acc e => acc.insert (.str e.1) e.2.2) acc) := by
      intro pairs
      induction pairs with
      | nil => exact fun _ h => h
      | cons e pairs ih =>
        intro acc hacc
        rw [List.foldl_cons, insert_str]
        exact ih _ (hacc.set e.1 e.2.2)
    exact hall _ _ keyed_nil
  · cases h

/-- A choice that was read is one of the choices. -/
theorem mem_of_oneOf {choices : List String} {v : Value} {s : String}
    (h : oneOf choices v = .value s) : s ∈ choices := by
  unfold oneOf at h
  split at h
  · split at h
    · cases h
    · split at h
      · rename_i hmem
        cases h
        simpa using hmem
      · cases h
  · cases h

/-! ## Keys -/

/-- Each of the choices is read as it is. -/
theorem oneOf_of_mem {choices : List String} (hplain : ∀ c ∈ choices, Text.hasHalf c = false)
    {c : String} (hc : c ∈ choices) : oneOf choices (.str c) = .value c := by
  simp [oneOf, hplain c hc, hc]

section Names

variable {names : List String} (h : ∀ e ∈ es, ∃ name ∈ names, e.1 = .str name)

include h

/-- Keys without halves of surrogate pairs in them let everything be read. -/
theorem closely_of_forall (hplain : ∀ name ∈ names, Text.hasHalf name = false) (r : Reading α) :
    closely es r = r := by
  have hany : (es.any fun e => e.1.text?.any Text.hasHalf) = false := by
    rw [List.any_eq_false]
    intro e he
    obtain ⟨name, hname, hkey⟩ := h e he
    rw [hkey, Value.text?, Option.any_some, hplain name hname]
    decide
  rw [closely, hany]
  rfl

/-- Fields are no further entries. -/
theorem extras_of_forall (allowed : Bool) : extras es names allowed = .value [] := by
  unfold extras
  rw [List.filterMap_eq_nil_iff.2]
  · rfl
  · intro e he
    obtain ⟨name, hname, hkey⟩ := h e he
    rw [hkey]
    simp [hname]

end Names

end Reader

end Automation
