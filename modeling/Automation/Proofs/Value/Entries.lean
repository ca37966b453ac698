import Automation.Value.Access

/-!
# Mappings after a change

What the look-ups of a mapping give behind each of its changes: a field that was set, other fields,
fields that were erased, and mappings merged into another. The keys of a mapping are pairwise not
the same (`Entries.Distinct`); most facts do not need it, because a look-up takes the first entry
and a change reaches all of them.

A field is looked up by `isText` and changed by `agrees`; the two are one on texts
(`agrees_str`, `str_agrees`).
-/

namespace Automation

namespace Value

/-! ## Texts as keys -/

/-- What agrees with a text is that text. -/
@[simp] theorem agrees_str (k : Value) (s : String) : k.agrees (.str s) = k.isText s := by
  cases k with
  | str t =>
    show (s == t) = (t == s)
    exact BEq.comm
  | _ => simp [agrees, isOneUndefined, same, isText, isNull, sameNumber]

/-- A text agrees with nothing but itself. -/
@[simp] theorem str_agrees (s : String) (k : Value) : (Value.str s).agrees k = k.isText s := by
  simp [agrees, isOneUndefined]

theorem isText_str (a b : String) : (Value.str a).isText b = (a == b) := rfl

/-- A value is not two texts. -/
theorem isText_of_ne {k : Value} {a b : String} (h : k.isText a = true) (hne : a ≠ b) :
    k.isText b = false := by
  rw [isText_iff] at h
  subst h
  simpa [isText] using hne

/-- A mapping has a value at a text when it has a field of that name. -/
theorem lookup_str (o : Origin) (es : Entries) (name : String) :
    (map o es).lookup (.str name) = Outcome.orFault (Entries.get? es name) .key := by
  unfold lookup Entries.find? Entries.get?
  simp only [isKey, if_true, agrees_str]

end Value

namespace Entries

open Value

variable {es : Entries} {name other : String}

/-- The keys of a mapping are pairwise not the same. -/
def Distinct (es : Entries) : Prop := es.Pairwise fun a b => a.1.agrees b.1 = false

/-- A field that is found is an entry. -/
theorem mem_of_get?_eq_some {v : Value} (h : get? es name = some v) : (.str name, v) ∈ es := by
  obtain ⟨e, he, hv⟩ := Option.map_eq_some_iff.1 h
  have hkey : e.1.isText name = true := List.find?_some (p := fun e : Value × Value => e.1.isText name) he
  have hmem := List.mem_of_find?_eq_some he
  rwa [← isText_iff.1 hkey, ← hv]

/-- An entry of a mapping is found. -/
theorem get?_of_mem (hd : Distinct es) {v : Value} (h : (.str name, v) ∈ es) :
    get? es name = some v := by
  induction es with
  | nil => cases h
  | cons e rest ih =>
    obtain ⟨hhead, hrest⟩ := List.pairwise_cons.1 hd
    rcases List.mem_cons.1 h with rfl | h
    · simp [get?_cons, isText]
    · have hne : e.1.isText name = false := by
        rw [← agrees_str]
        exact hhead _ h
      rw [get?_cons, hne]
      exact ih hrest h

/-- The field of a name is any entry of that name. -/
theorem get?_of_mem_of_isText (hd : Distinct es) {e : Value × Value} (he : e ∈ es)
    (hname : e.1.isText name = true) : get? es name = some e.2 := by
  obtain ⟨k, v⟩ := e
  cases isText_iff.1 hname
  exact get?_of_mem hd he

/-- A field is the only entry of its name. -/
theorem filter_isText_of_distinct (hd : Distinct es) (name : String) :
    es.filter (·.1.isText name) = ((get? es name).map (Value.str name, ·)).toList := by
  induction es with
  | nil => rfl
  | cons e es ih =>
    obtain ⟨k, v⟩ := e
    obtain ⟨hfirst, hrest⟩ := List.pairwise_cons.1 hd
    rw [get?_cons]
    cases hk : k.isText name with
    | true =>
      cases isText_iff.1 hk
      -- behind the entry of the name there is none, as keys are distinct
      have hnone : es.filter (·.1.isText name) = [] := by
        refine List.filter_eq_nil_iff.2 fun e he => ?_
        rw [← str_agrees, hfirst e he]
        exact Bool.false_ne_true
      rw [List.filter_cons, if_pos hk, hnone]
      rfl
    | false =>
      rw [List.filter_cons, if_neg (by simp [hk]), ih hrest]
      rfl

/-! ## Fields that are set -/

@[simp] theorem get?_cons_str (k : String) (v : Value) (es : Entries) (name : String) :
    get? ((.str k, v) :: es) name = if k = name then some v else get? es name := by
  simp [get?_cons, isText]

theorem get?_append (es more : Entries) (name : String) :
    get? (es ++ more) name = (get? es name).or (get? more name) := by
  unfold get?
  rw [List.find?_append]
  cases List.find? (fun e => e.1.isText name) es <;> simp

/-- A mapping has a field that is found. -/
theorem has_of_get?_eq_some {v : Value} (h : get? es name = some v) : has es name = true := by
  rw [has_eq_isSome_get?, h]
  rfl

theorem get?_eq_none_iff : get? es name = none ↔ has es name = false := by
  rw [has_eq_isSome_get?]
  cases get? es name <;> simp

/-- Replacing the values of one field leaves the others. -/
theorem get?_map_of_ne {p : Value → Bool} {v : Value}
    (h : ∀ k : Value, k.isText other = true → p k = false) :
    get? (es.map fun e => if p e.1 then (e.1, v) else e) other = get? es other := by
  induction es with
  | nil => rfl
  | cons e rest ih =>
    obtain ⟨k, w⟩ := e
    rw [List.map_cons]
    by_cases hk : k.isText other
    · simp [h k hk, get?_cons, hk]
    · by_cases hp : p k <;> simp [hp, get?_cons, hk, ih]

/-- A field that was set has its value. -/
@[simp] theorem get?_set_self (es : Entries) (name : String) (v : Value) :
    get? (es.set name v) name = some v := by
  unfold set
  split
  · rename_i h
    induction es with
    | nil => simp [has] at h
    | cons e rest ih =>
      obtain ⟨k, w⟩ := e
      by_cases hk : k.isText name
      · simp [hk, get?_cons]
      · have hrest : has rest name = true := by simpa [has, hk] using h
        simpa [hk, get?_cons] using ih hrest
  · rename_i h
    have hnone : get? es name = none := get?_eq_none_iff.2 (by simpa using h)
    simp [get?_append, hnone]

/-- Setting a field leaves the others. -/
theorem get?_set_of_ne (hne : name ≠ other) (v : Value) :
    get? (es.set name v) other = get? es other := by
  unfold set
  split
  · exact get?_map_of_ne fun k hk => isText_of_ne hk (Ne.symm hne)
  · rw [get?_append]
    simp [hne]

/-! ## Fields that are erased -/

/-- Erasing a field leaves the others. -/
theorem get?_erase_of_ne (hne : name ≠ other) : get? (es.erase name) other = get? es other := by
  induction es with
  | nil => rfl
  | cons e rest ih =>
    obtain ⟨k, w⟩ := e
    unfold erase at ih ⊢
    by_cases hk : k.isText name
    · have : k.isText other = false := isText_of_ne hk hne
      simp [hk, get?_cons, this, ih]
    · simp [hk, get?_cons, ih]

/-- The keys behind setting a field: those from before, and the name of the field. -/
theorem key_mem_set {v : Value} {e : Value × Value} (h : e ∈ es.set name v) :
    (∃ e' ∈ es, e.1 = e'.1) ∨ e.1 = .str name := by
  unfold set at h
  split at h
  · obtain ⟨e', he', rfl⟩ := List.mem_map.1 h
    refine .inl ⟨e', he', ?_⟩
    split <;> rfl
  · rcases List.mem_append.1 h with he | he
    · exact .inl ⟨e, he, rfl⟩
    · exact .inr (by rw [List.mem_singleton.1 he])

theorem erase_cons_of_isText {k : Value} (h : k.isText name = true) (v : Value) :
    erase ((k, v) :: es) name = erase es name :=
  List.filter_cons_of_neg (by rw [h]; decide)

theorem erase_cons_of_not_isText {k : Value} (h : k.isText name = false) (v : Value) :
    erase ((k, v) :: es) name = (k, v) :: erase es name :=
  List.filter_cons_of_pos (by rw [h]; rfl)

/-- Two fields are erased in any order. -/
theorem erase_comm (es : Entries) (a b : String) : (es.erase a).erase b = (es.erase b).erase a := by
  simp only [erase, List.filter_filter, Bool.and_comm]

/-- A field that is set and then erased is as good as never set. -/
theorem erase_set_self (es : Entries) (name : String) (v : Value) :
    (es.set name v).erase name = es.erase name := by
  unfold set
  split
  · rename_i h
    clear h
    unfold erase
    induction es with
    | nil => rfl
    | cons e rest ih =>
      by_cases hk : e.1.isText name
      · rw [List.map_cons, if_pos hk]
        simpa [hk] using ih
      · rw [List.map_cons, if_neg hk]
        simpa [hk] using ih
  · simp [erase, isText]

/-- Setting a field commutes with erasing another. -/
theorem erase_set_of_ne (hne : name ≠ other) (v : Value) :
    (es.set name v).erase other = (es.erase other).set name v := by
  have hhas : has (es.erase other) name = has es name := by
    rw [has_eq_isSome_get?, has_eq_isSome_get?, get?_erase_of_ne (Ne.symm hne)]
  unfold set
  rw [hhas]
  split
  · unfold erase
    rw [List.filter_map]
    congr 1
    refine List.filter_congr fun e _ => ?_
    by_cases hk : e.1.isText name
    · simp [hk]
    · simp [hk]
  · simp [erase, isText, hne]

/-! ## Fields that are renamed -/

/-- Renaming a field leaves those of other names. -/
theorem get?_rename_of_ne {old new : String} (hold : old ≠ name) (hnew : new ≠ name) :
    get? (es.rename old new) name = get? es name := by
  induction es with
  | nil => rfl
  | cons e es ih =>
    obtain ⟨k, v⟩ := e
    unfold rename at ih ⊢
    rw [List.map_cons]
    split
    · rename_i hk
      rw [get?_cons_str, if_neg hnew, ih, get?_cons, isText_of_ne hk hold]
      rfl
    · rw [get?_cons, get?_cons, ih]

/-! ## Keys that are inserted -/

/-- Inserting a key leaves the fields of other names. -/
theorem get?_insert_of_not_isText {k : Value} (h : k.isText name = false) (v : Value) :
    get? (es.insert k v) name = get? es name := by
  unfold insert
  split
  · refine get?_map_of_ne (p := fun k' => k'.agrees k) fun k' hk' => ?_
    rw [isText_iff.1 hk', str_agrees, h]
  · rw [get?_append, get?_cons, h]
    simp

/-- Inserting a text sets the field. -/
theorem insert_str (es : Entries) (name : String) (v : Value) :
    es.insert (.str name) v = es.set name v := by
  have hkey : (fun e : Value × Value => e.1.agrees (.str name)) = fun e => e.1.isText name :=
    funext fun e => agrees_str e.1 name
  unfold insert set has
  rw [hkey]
  simp only [agrees_str]

/-- Inserting a key commutes with erasing a field of another name. -/
theorem erase_insert_of_not_isText {k : Value} (h : k.isText name = false) (v : Value) :
    (es.insert k v).erase name = (es.erase name).insert k v := by
  have hany : ((es.erase name).any fun e => e.1.agrees k) = es.any fun e => e.1.agrees k := by
    unfold erase
    rw [List.any_filter]
    refine List.any_congr rfl fun e => ?_
    by_cases hk : e.1.isText name
    · rw [isText_iff.1 hk, str_agrees, h, Bool.and_false]
    · simp [hk]
  unfold insert
  rw [hany]
  split
  · unfold erase
    rw [List.filter_map]
    congr 1
    refine List.filter_congr fun e _ => ?_
    by_cases hk : e.1.agrees k <;> simp [hk]
  · simp [erase, h]

/-- Merging mappings without a field leaves that field. -/
theorem get?_merge_of_not_has {more : Entries} (h : has more name = false) :
    get? (es.merge more) name = get? es name := by
  induction more generalizing es with
  | nil => rfl
  | cons e rest ih =>
    simp only [has, List.any_cons, Bool.or_eq_false_iff] at h
    rw [merge, List.foldl_cons]
    exact (ih h.2).trans (get?_insert_of_not_isText h.1 _)

/-- Merging mappings without a field commutes with erasing that field. -/
theorem erase_merge_of_not_has {more : Entries} (h : has more name = false) :
    (es.merge more).erase name = (es.erase name).merge more := by
  induction more generalizing es with
  | nil => rfl
  | cons e rest ih =>
    simp only [has, List.any_cons, Bool.or_eq_false_iff] at h
    rw [merge, List.foldl_cons]
    refine (ih h.2).trans ?_
    rw [erase_insert_of_not_isText h.1]
    rfl

/-- A merged mapping has the fields of the mapping that was merged into it. -/
theorem get?_merge_of_has {more : Entries} (hd : Distinct more) (h : has more name = true) :
    get? (es.merge more) name = get? more name := by
  induction more generalizing es with
  | nil => simp [has] at h
  | cons e rest ih =>
    obtain ⟨k, v⟩ := e
    obtain ⟨hhead, hrest⟩ := List.pairwise_cons.1 hd
    rw [merge, List.foldl_cons]
    by_cases hk : k.isText name
    · -- no later entry touches the field again
      have hnot : has rest name = false := by
        simp only [has, List.any_eq_false]
        intro e he
        rw [isText_iff.1 hk] at hhead
        simpa using hhead e he
      refine (get?_merge_of_not_has hnot).trans ?_
      rw [isText_iff.1 hk, insert_str]
      simp
    · have hrest' : has rest name = true := by simpa [has, hk] using h
      refine (ih hrest hrest').trans ?_
      simp [get?_cons, hk]

end Entries

end Automation
