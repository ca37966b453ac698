import Automation.Proofs.Entry
import Automation.Proofs.Program.Entries
import Automation.Proofs.Value.Origins

/-!
# Steps that are read again

A reader gives the actions and triggers inside a step their present names. What it makes of a step
has no old names left (`Entry.isModernStep_modernStep`), and a step without old names is read as it
is, up to the origins of values, and without a notice (`Entry.modernStep_apart`). So a step that was
read is left alone when it is read again, and it is still taken for a step of its kind
(`Entry.kind_modernStep`).

This takes mappings that have each key once (`Value.keysOnce`): a second value under a key is not
looked at, and may be of any form.
-/

namespace Automation

namespace Value

mutual
/-- Whether each mapping in a value has its keys once. -/
def keysOnce : Value → Bool
  | .list _ items => haveKeysOnce items
  | .tuple _ items => haveKeysOnce items
  | .set _ items => haveKeysOnce items
  | .map _ es => decide (es.Pairwise fun a b => a.1.agrees b.1 = false) && entriesKeysOnce es
  | _ => true

/-- Whether each mapping in some values has its keys once. -/
def haveKeysOnce : List Value → Bool
  | [] => true
  | v :: vs => keysOnce v && haveKeysOnce vs

/-- Whether each mapping in the values of some entries has its keys once. -/
def entriesKeysOnce : List (Value × Value) → Bool
  | [] => true
  | (_, v) :: es => keysOnce v && entriesKeysOnce es
end

/-- What a list holds has its keys once when the list does. -/
theorem keysOnce_of_mem {o : Origin} {items : List Value} (h : (list o items).keysOnce = true)
    {v : Value} (hv : v ∈ items) : v.keysOnce = true := by
  rw [keysOnce] at h
  induction items with
  | nil => cases hv
  | cons w items ih =>
    rw [haveKeysOnce, Bool.and_eq_true] at h
    rcases List.mem_cons.1 hv with rfl | hv
    · exact h.1
    · exact ih h.2 hv

/-- The keys of a mapping with keys once are pairwise different. -/
theorem distinct_of_keysOnce {o : Origin} {es : Entries} (h : (map o es).keysOnce = true) :
    es.Distinct := by
  rw [keysOnce, Bool.and_eq_true, decide_eq_true_eq] at h
  exact h.1

/-- What a mapping holds has its keys once when the mapping does. -/
theorem keysOnce_of_mem_entries {o : Origin} {es : Entries} (h : (map o es).keysOnce = true)
    {e : Value × Value} (he : e ∈ es) : e.2.keysOnce = true := by
  rw [keysOnce, Bool.and_eq_true] at h
  have hall := h.2
  clear h
  induction es with
  | nil => cases he
  | cons e' es ih =>
    rw [entriesKeysOnce, Bool.and_eq_true] at hall
    rcases List.mem_cons.1 he with rfl | he
    · exact hall.1
    · exact ih he hall.2

theorem stripped_list (o : Origin) (items : List Value) :
    (list o items).stripped = .list {} (items.map stripped) :=
  congrArg (list {}) (mapItems_eq_map _ items)

theorem stripped_map (o : Origin) (es : Entries) : (map o es).stripped = .map {} es.stripped := rfl

end Value

namespace Entry

open Value

variable {place : Place} {es : Entries}

/-! ## Values without old names -/

/-- A trigger that does not name its platform by the old name. -/
def IsModernTrigger (v : Value) : Prop :=
  ∀ o es, v = .map o es → o.isKnot = false ∧ Entries.has es "platform" = false

/-- What a wait may wait for: a list of such triggers, or no triggers at all. -/
def IsAwaited (v : Value) : Prop :=
  v.entries? = none ∧ ∀ o items, v = .list o items → o.isKnot = false ∧ ∀ t ∈ items, IsModernTrigger t

/-- Entries that wait for such triggers, if they wait for any. -/
def IsModernWait (es : Entries) : Prop :=
  ∃ v, IsAwaited v ∧ ∀ e ∈ es, e.1.isText "wait_for_trigger" = true → e.2 = v

/-- A value in which no action and no trigger has an old name, as far as a reader looks. -/
inductive IsModern : Value → Prop where
  | list {o : Origin} {items : List Value} (hknot : o.isKnot = false)
    (hitems : ∀ v ∈ items, IsModern v) : IsModern (.list o items)
  | map {o : Origin} {es : Entries} (hknot : o.isKnot = false)
    (hservice : Entries.has es "service" = false) (hwait : IsModernWait es)
    (hnested : ∀ e ∈ es, ∀ key ∈ nestedKeys, e.1.isText key = true → IsModern e.2) :
    IsModern (.map o es)
  | plain {v : Value} (hitems : v.items? = none) (hentries : v.entries? = none) : IsModern v

/-- The payload of a step of a kind in which no action and no trigger has an old name, as far as a
reader looks. -/
def IsModernStep (kind : NodeKind) (es : Entries) : Prop :=
  (kind = .action → IsModern (.ofEntries es)) ∧ (kind = .wait → IsModernWait es)

/-! ## What a reader leaves -/

/-- The old name is gone: its entry was renamed, or dropped where the new name was there as well. -/
theorem has_modernKey {old new : String} (hne : new ≠ old) :
    (modernKey old new place es).1.has old = false := by
  unfold modernKey
  split
  · split
    -- with both names there the old one is dropped, with one it is renamed
    · exact Entries.has_erase es old
    · unfold Entries.has Entries.rename
      rw [List.any_eq_false]
      intro e he
      obtain ⟨e', -, rfl⟩ := List.mem_map.1 he
      split
      · simp [Value.isText, hne]
      · assumption
  · rename_i h
    simpa using h

/-- Entries are those that were there, but for the one with the new name. -/
theorem mem_of_mem_modernKey {old new : String} {e : Value × Value}
    (he : e ∈ (modernKey old new place es).1) (hnew : e.1.isText new = false) : e ∈ es := by
  unfold modernKey at he
  split at he
  · split at he
    · exact (List.mem_filter.1 he).1
    · obtain ⟨e', he', rfl⟩ := List.mem_map.1 he
      split at hnew
      · simp [Value.isText] at hnew
      · rename_i hold
        rwa [if_neg hold]
  · exact he

/-- An entry behind a change of one field is an old one of another name, or has the new value. -/
theorem mem_of_mem_set {name : String} {v : Value} {e : Value × Value} (he : e ∈ es.set name v) :
    (e ∈ es ∧ e.1.isText name = false) ∨ e.1.isText name = true ∧ e.2 = v := by
  unfold Entries.set at he
  split at he
  · obtain ⟨e', he', rfl⟩ := List.mem_map.1 he
    cases hname : e'.1.isText name with
    | true => exact .inr ⟨hname, rfl⟩
    | false => exact .inl ⟨he', hname⟩
  · rename_i hnew
    rcases List.mem_append.1 he with he | he
    · refine .inl ⟨he, ?_⟩
      simpa using List.any_eq_false.1 (Bool.eq_false_iff.2 hnew) e he
    · rw [List.mem_singleton.1 he]
      exact .inr ⟨by simp [Value.isText], rfl⟩

/-- A wait is left alone, or it becomes a list of triggers. -/
theorem modernWait_cases (place : Place) (es : Entries) :
    (∃ o items, (es.get "wait_for_trigger").expose = .list o items
        ∧ (modernWait place es).1 = es.set "wait_for_trigger"
          (.ofItems (modernTriggers (place.field "wait_for_trigger") 0 items).1))
      ∨ (∃ o inner, (es.get "wait_for_trigger").expose = .map o inner
        ∧ (modernWait place es).1 = es.set "wait_for_trigger"
          (.ofItems (modernTriggers (place.field "wait_for_trigger") 0 [.map o inner]).1))
      ∨ ((es.get "wait_for_trigger").expose.items? = none
        ∧ (es.get "wait_for_trigger").expose.entries? = none ∧ modernWait place es = (es, [])) := by
  unfold modernWait
  generalize (es.get "wait_for_trigger").expose = v
  cases v with
  | list o items => exact .inl ⟨o, items, rfl, rfl⟩
  | map o inner => exact .inr (.inl ⟨o, inner, rfl, rfl⟩)
  | _ => exact .inr (.inr ⟨rfl, rfl, rfl⟩)

/-- A field that is not null is there. -/
theorem has_of_expose_ne_null {name : String} (h : (es.get name).expose ≠ .null) :
    es.has name = true := by
  rw [Entries.has_eq_isSome_get?]
  unfold Entries.get at h
  cases hget : es.get? name with
  | none =>
    rw [hget] at h
    exact absurd rfl h
  | some v => rfl

/-- A wait has the fields that it had. -/
theorem has_modernWait (place : Place) (es : Entries) (name : String) :
    (modernWait place es).1.has name = es.has name := by
  have hset (v : Value) (h : es.has "wait_for_trigger" = true) :
      (es.set "wait_for_trigger" v).has name = es.has name := by
    by_cases hname : "wait_for_trigger" = name
    · rw [← hname, h, Entries.has_eq_isSome_get?, Entries.get?_set_self]
      rfl
    · exact Block.has_set_of_ne hname v
  rcases modernWait_cases place es with ⟨o, items, hexpose, hresult⟩ | ⟨o, inner, hexpose, hresult⟩
      | ⟨-, -, hresult⟩
  · rw [hresult, hset _ (has_of_expose_ne_null (by rw [hexpose]; exact nofun))]
  · rw [hresult, hset _ (has_of_expose_ne_null (by rw [hexpose]; exact nofun))]
  · rw [hresult]

/-- Only what is waited for is read anew. -/
theorem mem_of_mem_modernWait {e : Value × Value} (he : e ∈ (modernWait place es).1)
    (hwait : e.1.isText "wait_for_trigger" = false) : e ∈ es := by
  have hset {v : Value} (he : e ∈ es.set "wait_for_trigger" v) : e ∈ es := by
    rcases mem_of_mem_set he with ⟨he, -⟩ | ⟨hname, -⟩
    · exact he
    · rw [hwait] at hname
      cases hname
  rcases modernWait_cases place es with ⟨o, items, -, hresult⟩ | ⟨o, inner, -, hresult⟩
      | ⟨-, -, hresult⟩
  · exact hset (hresult ▸ he)
  · exact hset (hresult ▸ he)
  · rwa [hresult] at he

/-- Each trigger that was read names its platform by the present name. -/
theorem isModernTrigger_of_mem_modernTriggers {items : List Value} {i : Nat} {t : Value}
    (ht : t ∈ (modernTriggers place i items).1) : IsModernTrigger t := by
  induction items generalizing i with
  | nil => cases ht
  | cons v items ih =>
    unfold modernTriggers at ht
    dsimp only at ht
    split at ht
    · rcases List.mem_cons.1 ht with rfl | ht
      · -- a trigger that is a mapping was given the present name of its platform
        intro o es hmap
        cases hmap
        exact ⟨rfl, has_modernKey (by decide)⟩
      · exact ih ht
    · -- anything else is no mapping, so there is no name to ask for
      rename_i hexpose
      rcases List.mem_cons.1 ht with rfl | ht
      · intro o es hmap
        exact absurd (by rw [hmap]; rfl) (hexpose o (partEntries o (.map o es) es))
      · exact ih ht

/-- A wait that was read waits for triggers with present names. -/
theorem isModernWait_modernWait (hdistinct : (modernWait place es).1.Distinct) :
    IsModernWait (modernWait place es).1 := by
  have hset (items : List Value) (h : ∀ t ∈ items, IsModernTrigger t) :
      IsModernWait (es.set "wait_for_trigger" (.ofItems items)) := by
    refine ⟨.ofItems items, ⟨rfl, fun o items' heq => ?_⟩, fun e he hname => ?_⟩
    · cases heq
      exact ⟨rfl, h⟩
    · rcases mem_of_mem_set he with ⟨-, hother⟩ | ⟨-, hvalue⟩
      · rw [hname] at hother
        cases hother
      · exact hvalue
  -- a list and a single trigger are read as a list, and anything else is left as it is
  rcases modernWait_cases place es with ⟨o, items, -, hresult⟩ | ⟨o, inner, -, hresult⟩
      | ⟨hitems, hentries, hresult⟩
  · rw [hresult]
    exact hset _ fun t => isModernTrigger_of_mem_modernTriggers
  · rw [hresult]
    exact hset _ fun t => isModernTrigger_of_mem_modernTriggers
  · rw [hresult]
    refine ⟨es.get "wait_for_trigger", ⟨?_, fun o items heq => ?_⟩, fun e he hname => ?_⟩
    · cases hvalue : es.get "wait_for_trigger" <;> first
        | rfl
        | (rw [hvalue] at hentries; cases hentries)
    · rw [heq] at hitems
      cases hitems
    · obtain ⟨k, v⟩ := e
      cases Value.isText_iff.1 hname
      rw [hresult] at hdistinct
      rw [Entries.get, Entries.get?_of_mem hdistinct he]
      rfl

/-- Entries whose inner entries have present names are put together without old names. -/
theorem isModern_joinFields {fields : List ((Value × Value) × List Notice)}
    (hfields : ∀ field ∈ fields, ∀ key ∈ nestedKeys, field.1.1.isText key = true →
      field.1.2.keysOnce = true → IsModern field.1.2)
    (honce : (Value.ofEntries (joinFields place fields).1).keysOnce = true) :
    IsModern (.ofEntries (joinFields place fields).1) := by
  have hother : ∀ key ∈ nestedKeys, key ≠ "wait_for_trigger" ∧ key ≠ "action" := by decide
  refine .map rfl ?_ (isModernWait_modernWait (distinct_of_keysOnce honce)) fun e he key hkey hname => ?_
  · show Entries.has (modernWait place _).1 "service" = false
    rw [has_modernWait]
    exact has_modernKey (by decide)
  · -- neither the wait nor the name of the action is a field with inner entries
    have hmem : e ∈ fields.map (·.1) := mem_of_mem_modernKey
      (mem_of_mem_modernWait he (Value.isText_of_ne hname (hother key hkey).1))
      (Value.isText_of_ne hname (hother key hkey).2)
    obtain ⟨field, hfield, rfl⟩ := List.mem_map.1 hmem
    exact hfields field hfield key hkey hname (keysOnce_of_mem_entries honce he)

mutual
/-- What a reader makes of a value inside an entry has no old names. -/
theorem isModern_modernNested (place : Place) : ∀ v : Value,
    (modernNested place v).1.keysOnce = true → IsModern (modernNested place v).1
  | .list o items => by
    rw [modernNested]
    intro honce
    exact .list rfl fun v hv => isModern_modernItems place items 0 v hv (keysOnce_of_mem honce hv)
  | .map o es => by
    rw [modernNested]
    exact isModern_joinFields (isModern_modernFields place es)
  | .null | .bool _ | .int _ | .float _ | .str _ | .bytes _ | .date .. | .moment .. =>
    fun _ => .plain rfl rfl
  | .tuple .. | .set .. | .enclosing .. => fun _ => .plain rfl rfl

theorem isModern_modernItems (place : Place) : ∀ (items : List Value) (i : Nat),
    ∀ v ∈ (modernItems place i items).1, v.keysOnce = true → IsModern v
  | [], _ => by simp [modernItems]
  | v :: vs, i => by
    rw [modernItems]
    exact List.forall_mem_cons.2
      ⟨isModern_modernNested _ v, isModern_modernItems place vs (i + 1)⟩

/-- Of the fields that are read only those with inner entries are looked into. -/
theorem isModern_modernFields (place : Place) : ∀ es : List (Value × Value),
    ∀ field ∈ modernFields place es, ∀ key ∈ nestedKeys, field.1.1.isText key = true →
      field.1.2.keysOnce = true → IsModern field.1.2
  | [] => by simp [modernFields]
  | (k, v) :: es => by
    unfold modernFields
    refine List.forall_mem_cons.2 ⟨fun key hkey hname => ?_, isModern_modernFields place es⟩
    split at hname
    · rename_i name
      split at hname
      · rename_i hnested
        rw [if_pos hnested]
        exact isModern_modernNested _ v
      · rename_i hnested
        rw [Value.isText_str, beq_iff_eq] at hname
        exact absurd (List.contains_iff_mem.2 hkey) (hname ▸ hnested)
    · rename_i hstr
      exact absurd (Value.isText_iff.1 hname) (hstr key)
end

/-- What a reader makes of a step has no old names. -/
theorem isModernStep_modernStep {kind : NodeKind}
    (honce : (Value.ofEntries (modernStep kind place es).1).keysOnce = true) :
    IsModernStep kind (modernStep kind place es).1 := by
  refine ⟨?_, ?_⟩
  · rintro rfl
    exact isModern_joinFields (isModern_modernFields place _) honce
  · rintro rfl
    exact isModernWait_modernWait (distinct_of_keysOnce honce)

/-! ## Steps without old names -/

variable (place) in
/-- Triggers with present names are left as they are, without a notice. -/
theorem modernTriggers_of_forall {items : List Value} (h : ∀ t ∈ items, IsModernTrigger t) (i : Nat) :
    (modernTriggers place i items).1.map Value.stripped = items.map Value.stripped
      ∧ (modernTriggers place i items).2 = [] := by
  induction items generalizing i with
  | nil => exact ⟨rfl, rfl⟩
  | cons v items ih =>
    obtain ⟨hv, hitems⟩ := List.forall_mem_cons.1 h
    obtain ⟨hrest, hnotices⟩ := ih hitems (i + 1)
    unfold modernTriggers
    dsimp only
    split
    · rename_i o es hexpose
      -- a value that looks like a mapping from outside is one, since it holds itself nowhere
      obtain ⟨inner, rfl⟩ : ∃ inner, v = .map o inner := by
        cases v <;> cases hexpose
        exact ⟨_, rfl⟩
      obtain ⟨hknot, hplatform⟩ := hv o inner rfl
      rw [expose_of_not_knot (v := .map o inner) hknot] at hexpose
      cases hexpose
      rw [modernTrigger, modernKey_of_not_has hplatform, List.map_cons, List.map_cons, hrest, hnotices]
      exact ⟨rfl, rfl⟩
    · rw [List.map_cons, List.map_cons, hrest]
      exact ⟨rfl, hnotices⟩

variable (place) in
/-- A wait for triggers with present names is left as it is. -/
theorem modernWait_of_isModernWait (h : IsModernWait es) :
    (modernWait place es).1.stripped = es.stripped ∧ (modernWait place es).2 = [] := by
  obtain ⟨v, ⟨hentries, hitems⟩, hall⟩ := h
  unfold modernWait
  dsimp only
  cases hget : es.get? "wait_for_trigger" with
  | none =>
    rw [Entries.get, hget]
    exact ⟨rfl, rfl⟩
  | some w =>
    -- the first value under the name is the one that all entries under it have
    obtain rfl : w = v := hall _ (Entries.mem_of_get?_eq_some hget) (Value.isText_iff.2 rfl)
    rw [Entries.get, hget, Option.getD_some]
    cases w with
    | list o items =>
      obtain ⟨hknot, htriggers⟩ := hitems o items rfl
      obtain ⟨hsame, hnotices⟩ := modernTriggers_of_forall (place.field "wait_for_trigger") htriggers 0
      rw [expose_of_not_knot (v := .list o items) hknot]
      refine ⟨Entries.stripped_set_of_forall (Entries.has_of_get?_eq_some hget) fun e he hname => ?_,
        hnotices⟩
      rw [hall e he hname, stripped_list, Value.ofItems, stripped_list, hsame]
    | map o inner => cases hentries
    | _ => exact ⟨rfl, rfl⟩

/-- Fields are those that were there, and what is read further in is a nested field. -/
theorem exists_of_mem_modernFields {field : (Value × Value) × List Notice}
    (h : field ∈ modernFields place es) : ∃ e ∈ es, field.1.1 = e.1
      ∧ (field = (e, []) ∨ ∃ key ∈ nestedKeys, e.1.isText key = true
        ∧ field = ((e.1, (modernNested (place.field key) e.2).1),
          (modernNested (place.field key) e.2).2)) := by
  induction es with
  | nil => simp [modernFields] at h
  | cons e es ih =>
    obtain ⟨k, v⟩ := e
    unfold modernFields at h
    rcases List.mem_cons.1 h with rfl | h
    · refine ⟨(k, v), List.mem_cons_self, ?_⟩
      -- only the name of a field with inner entries leads further in
      split
      · rename_i key
        split
        · rename_i hnested
          exact ⟨rfl, .inr ⟨key, List.contains_iff_mem.1 hnested, by simp [Value.isText], rfl⟩⟩
        · exact ⟨rfl, .inl rfl⟩
      · exact ⟨rfl, .inl rfl⟩
    · obtain ⟨e, he, hfield⟩ := ih h
      exact ⟨e, List.mem_cons_of_mem _ he, hfield⟩

/-- Fields whose inner entries are left as they are are the same. -/
theorem stripped_modernFields (hnested : ∀ e ∈ es, ∀ key ∈ nestedKeys, e.1.isText key = true →
    ∀ place, (modernNested place e.2).1.stripped = e.2.stripped) :
    Entries.stripped ((modernFields place es).map (·.1)) = es.stripped := by
  induction es with
  | nil => rw [modernFields, List.map_nil]
  | cons e es ih =>
    obtain ⟨k, v⟩ := e
    obtain ⟨hv, hes⟩ := List.forall_mem_cons.1 hnested
    unfold modernFields
    rw [List.map_cons, Entries.stripped_cons k v, ← ih hes]
    split
    · split
      · rename_i key hkey
        rw [Entries.stripped_cons, hv key (List.contains_iff_mem.1 hkey) (by simp [Value.isText]) _]
      · rw [Entries.stripped_cons]
    · rw [Entries.stripped_cons]

variable (place) in
/-- Reading inner entries changes no wait: it is not read further in like other entries. -/
theorem isModernWait_modernFields (hwait : IsModernWait es) :
    IsModernWait ((modernFields place es).map (·.1)) := by
  obtain ⟨v, hv, hall⟩ := hwait
  refine ⟨v, hv, fun e he hname => ?_⟩
  obtain ⟨field, hfield, rfl⟩ := List.mem_map.1 he
  obtain ⟨e, hmem, hkey, rfl | ⟨key, hnestedKey, hother, rfl⟩⟩ := exists_of_mem_modernFields hfield
  · exact hall e hmem hname
  · have hne : key ≠ "wait_for_trigger" := by
      rintro rfl
      exact absurd hnestedKey (by decide)
    rw [hkey, Value.isText_of_ne hother hne] at hname
    cases hname

variable (place) in
/-- Entries whose inner entries are left as they are are left as they are. -/
theorem joinFields_modernFields (hservice : es.has "service" = false) (hwait : IsModernWait es)
    (hnested : ∀ e ∈ es, ∀ key ∈ nestedKeys, e.1.isText key = true → ∀ place,
      (modernNested place e.2).1.stripped = e.2.stripped ∧ (modernNested place e.2).2 = []) :
    (joinFields place (modernFields place es)).1.stripped = es.stripped
      ∧ (joinFields place (modernFields place es)).2 = [] := by
  have hsame : Entries.stripped ((modernFields place es).map (·.1)) = es.stripped :=
    stripped_modernFields fun e he key hkey hname place => (hnested e he key hkey hname place).1
  have hquiet : ∀ field ∈ modernFields place es, field.2 = [] := by
    intro field hfield
    obtain ⟨e, he, -, rfl | ⟨key, hkey, hname, rfl⟩⟩ := exists_of_mem_modernFields hfield
    · rfl
    · exact (hnested e he key hkey hname _).2
  -- no field got the old name of an action while its inner entries were read
  have hold : Entries.has ((modernFields place es).map (·.1)) "service" = false := by
    rw [← Entries.has_stripped, hsame, Entries.has_stripped, hservice]
  obtain ⟨hstripped, hnotices⟩ :=
    modernWait_of_isModernWait place (isModernWait_modernFields place hwait)
  unfold joinFields
  dsimp only
  rw [modernAction, modernKey_of_not_has hold]
  dsimp only
  rw [hstripped, hsame, hnotices]
  -- the notices are those of the inner entries, and there are none
  refine ⟨rfl, ?_⟩
  simp only [List.nil_append, List.flatMap_eq_nil_iff]
  exact fun key _ field hfield => hquiet field (List.mem_filter.1 hfield).1

variable (place) in
/-- A list is left as it is when what it holds is. -/
theorem modernItems_of_forall {items : List Value} (h : ∀ v ∈ items, ∀ place,
      (modernNested place v).1.stripped = v.stripped ∧ (modernNested place v).2 = []) (i : Nat) :
    (modernItems place i items).1.map Value.stripped = items.map Value.stripped
      ∧ (modernItems place i items).2 = [] := by
  induction items generalizing i with
  | nil => simp [modernItems]
  | cons v vs ih =>
    obtain ⟨hv, hvs⟩ := List.forall_mem_cons.1 h
    obtain ⟨hrest, hnotices⟩ := ih hvs (i + 1)
    obtain ⟨hfirst, hnone⟩ := hv (place.item i)
    rw [modernItems, List.map_cons, List.map_cons]
    dsimp only
    rw [hfirst, hrest, hnone, hnotices]
    exact ⟨rfl, rfl⟩

/-- A value without old names is left as it is. -/
theorem modernNested_of_isModern {v : Value} (h : IsModern v) (place : Place) :
    (modernNested place v).1.stripped = v.stripped ∧ (modernNested place v).2 = [] := by
  induction h generalizing place with
  | @list o items _ _ ih =>
    obtain ⟨hsame, hnotices⟩ := modernItems_of_forall place ih 0
    rw [modernNested]
    dsimp only
    rw [stripped_list, Value.ofItems, stripped_list, hsame]
    exact ⟨rfl, hnotices⟩
  | @map o es _ hservice hwait _ ih =>
    obtain ⟨hsame, hnotices⟩ := joinFields_modernFields place hservice hwait
      fun e he key hkey hname place => ih e he key hkey hname place
    rw [modernNested]
    -- the result has no origin, which stripping takes away in any case
    refine ⟨?_, hnotices⟩
    show Value.map {} (Entries.stripped _) = .map {} es.stripped
    rw [hsame]
  | @plain v hitems hentries =>
    cases v <;> first
      | exact ⟨rfl, rfl⟩
      | (cases hitems; done)
      | cases hentries

/-! ## Steps apart -/

/-- A copy of a trigger with a present name has it as well. -/
theorem IsModernTrigger.inside {v : Value} (h : IsModernTrigger v) (place : Place) :
    IsModernTrigger (v.inside place) := by
  intro o es hmap
  cases v with
  | map p inner =>
    cases hmap
    obtain ⟨hknot, hplatform⟩ := h p inner rfl
    exact ⟨hknot, (Entries.has_inside ..).trans hplatform⟩
  | _ => cases hmap

theorem IsAwaited.inside {v : Value} (h : IsAwaited v) (place : Place) :
    IsAwaited (v.inside place) := by
  obtain ⟨hentries, hitems⟩ := h
  cases v with
  | list p inner =>
    refine ⟨rfl, fun o items heq => ?_⟩
    cases heq
    obtain ⟨hknot, htriggers⟩ := hitems p inner rfl
    refine ⟨hknot, fun t ht => ?_⟩
    rw [mapItems_eq_map] at ht
    obtain ⟨t', ht', rfl⟩ := List.mem_map.1 ht
    exact (htriggers t' ht').inside place
  | map => cases hentries
  | _ => exact ⟨rfl, nofun⟩

/-- A copy of a value without old names has none. -/
theorem IsModern.inside {v : Value} (h : IsModern v) (place : Place) :
    IsModern (v.inside place) := by
  induction h with
  | list hknot _ ih =>
    refine .list hknot fun v hv => ?_
    rw [mapItems_eq_map] at hv
    obtain ⟨v', hv', rfl⟩ := List.mem_map.1 hv
    exact ih v' hv'
  | @map o es hknot hservice hwait _ ih =>
    have hmem {e : Value × Value} (he : e ∈ mapEntries (.inside place) es) :
        ∃ e' ∈ es, e.1.isText = e'.1.isText ∧ e.2 = e'.2.inside place := by
      rw [mapEntries_eq_map] at he
      obtain ⟨e', he', rfl⟩ := List.mem_map.1 he
      exact ⟨e', he', funext (isText_mapOrigin _ e'.1), rfl⟩
    -- a copy has the keys of the mapping, with copies of its values
    obtain ⟨w, hw, hall⟩ := hwait
    refine .map hknot ((Entries.has_inside ..).trans hservice)
      ⟨w.inside place, hw.inside place, fun e he hname => ?_⟩ fun e he key hkey hname => ?_
    · obtain ⟨e', he', hkey, hvalue⟩ := hmem he
      rw [hkey] at hname
      rw [hvalue, hall e' he' hname]
    · obtain ⟨e', he', hkey', hvalue⟩ := hmem he
      rw [hkey'] at hname
      rw [hvalue]
      exact ih e' he' key hkey hname
  | @plain v hitems hentries =>
    refine .plain ?_ ?_
    · cases v <;> first
        | rfl
        | cases hitems
    · cases v <;> first
        | rfl
        | cases hentries

variable (place) in
/-- Triggers that are set apart keep their names, and are the same up to origins. -/
theorem triggersApart_of_isAwaited {v : Value} (h : IsAwaited v) :
    IsAwaited (triggersApart place v) ∧ (triggersApart place v).stripped = v.stripped := by
  obtain ⟨hentries, hitems⟩ := h
  cases v with
  | list o items =>
    obtain ⟨hknot, htriggers⟩ := hitems o items rfl
    -- a list that does not hold itself has its own items as parts
    have hparts : partItems o (.list o items) items = items := by
      rw [partItems, if_neg (by simp [hknot])]
    rw [triggersApart, hparts]
    refine ⟨⟨rfl, fun p copies heq => ?_⟩, ?_⟩
    · cases heq
      refine ⟨hknot, fun t ht => ?_⟩
      obtain ⟨⟨w, i⟩, hitem, rfl⟩ := List.mem_map.1 ht
      have htrigger := htriggers w (List.fst_mem_of_mem_zipIdx hitem)
      cases w with
      | map => exact htrigger.inside _
      | _ => exact htrigger
    · rw [stripped_list, stripped_list, List.map_map]
      -- only mappings are copied, and a copy differs in its origin alone
      conv_rhs => rw [← List.zipIdx_map_fst 0 items, List.map_map]
      refine congrArg (Value.list {}) (List.map_congr_left fun ⟨w, i⟩ _ => ?_)
      cases w with
      | map o es => exact stripped_inside _ (.map o es)
      | _ => rfl
  | map => cases hentries
  | _ => exact ⟨⟨rfl, nofun⟩, rfl⟩

/-- Entries apart are those that were there, up to what is further in. -/
theorem exists_of_mem_fieldsApart {e : Value × Value} (h : e ∈ fieldsApart place es) :
    ∃ e' ∈ es, e.1 = e'.1
      ∧ (e.2 = e'.2 ∧ (∀ key ∈ nestedKeys, e'.1.isText key = false)
          ∧ e'.1.isText "wait_for_trigger" = false
        ∨ (∃ key ∈ nestedKeys, e'.1.isText key = true ∧ e.2 = valueApart (place.field key) e'.2)
        ∨ e'.1.isText "wait_for_trigger" = true
          ∧ e.2 = triggersApart (place.field "wait_for_trigger") e'.2) := by
  induction es with
  | nil => simp [fieldsApart] at h
  | cons e' es ih =>
    obtain ⟨k, v⟩ := e'
    unfold fieldsApart at h
    rcases List.mem_cons.1 h with rfl | h
    · refine ⟨(k, v), List.mem_cons_self, rfl, ?_⟩
      dsimp only
      -- a key is that of nested entries, that of a wait, or of no account
      split
      · rename_i key
        split
        · rename_i hnested
          exact .inr (.inl ⟨key, List.contains_iff_mem.1 hnested, by simp [Value.isText], rfl⟩)
        · rename_i hnested
          split
          · rename_i hwait
            exact .inr (.inr ⟨by simp [Value.isText, hwait], by rw [hwait]⟩)
          · rename_i hwait
            refine .inl ⟨rfl, fun other hother => ?_, by simpa [Value.isText] using hwait⟩
            rw [Value.isText_str, beq_eq_false_iff_ne]
            rintro rfl
            exact hnested (List.contains_iff_mem.2 hother)
      · rename_i hstr
        have hplain (name : String) : k.isText name = false :=
          Bool.eq_false_iff.2 fun hname => hstr name (Value.isText_iff.1 hname)
        exact .inl ⟨rfl, fun key _ => hplain key, hplain _⟩
    · obtain ⟨e', he', hrest⟩ := ih h
      exact ⟨e', List.mem_cons_of_mem _ he', hrest⟩

/-- Entries apart are the same up to origins when what is further in is. -/
theorem stripped_fieldsApart
    (hnested : ∀ e ∈ es, ∀ key ∈ nestedKeys, e.1.isText key = true → ∀ place,
      (valueApart place e.2).stripped = e.2.stripped)
    (hwait : ∀ e ∈ es, e.1.isText "wait_for_trigger" = true → ∀ place,
      (triggersApart place e.2).stripped = e.2.stripped) :
    Entries.stripped (fieldsApart place es) = es.stripped := by
  induction es with
  | nil => rw [fieldsApart]
  | cons e es ih =>
    obtain ⟨k, v⟩ := e
    obtain ⟨hv, hes⟩ := List.forall_mem_cons.1 hnested
    obtain ⟨hw, hws⟩ := List.forall_mem_cons.1 hwait
    unfold fieldsApart
    rw [Entries.stripped_cons, Entries.stripped_cons, ih hes hws]
    -- inner entries and waits are copied, and all else is left as it is
    split
    · rename_i key
      split
      · rename_i hkey
        rw [hv key (List.contains_iff_mem.1 hkey) (by simp [Value.isText])]
      · split
        · rename_i hkey
          rw [hw (by simp [Value.isText, hkey])]
        · rfl
    · rfl

variable (place) in
/-- Entries without old names have none apart, when what is further in has none. -/
theorem isModern_fieldsApart {o : Origin} (hknot : o.isKnot = false)
    (hservice : es.has "service" = false) (hwait : IsModernWait es)
    (hnested : ∀ e ∈ es, ∀ key ∈ nestedKeys, e.1.isText key = true →
      IsModern e.2 ∧ ∀ place, IsModern (valueApart place e.2)
        ∧ (valueApart place e.2).stripped = e.2.stripped) :
    IsModern (.map o (fieldsApart place es))
      ∧ Entries.stripped (fieldsApart place es) = es.stripped := by
  obtain ⟨w, hw, hall⟩ := hwait
  have hsame : Entries.stripped (fieldsApart place es) = es.stripped := by
    refine stripped_fieldsApart (fun e he key hkey hname place => ?_) fun e he hname place => ?_
    · exact ((hnested e he key hkey hname).2 place).2
    · rw [hall e he hname]
      exact (triggersApart_of_isAwaited _ hw).2
  have hother : "wait_for_trigger" ∉ nestedKeys := by decide
  refine ⟨.map hknot ?_ ⟨triggersApart (place.field "wait_for_trigger") w,
    (triggersApart_of_isAwaited _ hw).1, fun e he hname => ?_⟩ fun e he key hkey hname => ?_, hsame⟩
  · rw [← Entries.has_stripped, hsame, Entries.has_stripped, hservice]
  · obtain ⟨e', he', hkey, ⟨-, -, hno⟩ | ⟨key, hmem, hnest, -⟩ | ⟨-, hvalue⟩⟩ :=
      exists_of_mem_fieldsApart he
    · rw [hkey, hno] at hname
      cases hname
    · rw [hkey, Value.isText_of_ne hnest fun heq : key = "wait_for_trigger" => hother (heq ▸ hmem)] at hname
      cases hname
    · rw [hkey] at hname
      rw [hvalue, hall e' he' hname]
  · -- of the three kinds of fields only one has inner entries
    obtain ⟨e', he', hkey', ⟨-, hno, -⟩ | ⟨key', -, hname', hvalue⟩ | ⟨hname', -⟩⟩ :=
      exists_of_mem_fieldsApart he
    · rw [hkey', hno key hkey] at hname
      cases hname
    · rw [hkey'] at hname
      rw [hvalue]
      exact ((hnested e' he' key hkey hname).2 _).1
    · rw [hkey', Value.isText_of_ne hname' fun heq : "wait_for_trigger" = key => hother (heq ▸ hkey)] at hname
      cases hname

/-- A list without old names has none apart when what it holds has none. -/
theorem isModern_itemsApart {items : List Value} (h : ∀ v ∈ items, ∀ place,
      IsModern (valueApart place v) ∧ (valueApart place v).stripped = v.stripped)
    (place : Place) (i : Nat) :
    (∀ v ∈ itemsApart place i items, IsModern v)
      ∧ (itemsApart place i items).map Value.stripped = items.map Value.stripped := by
  induction items generalizing i with
  | nil => simp [itemsApart]
  | cons v vs ih =>
    obtain ⟨hv, hvs⟩ := List.forall_mem_cons.1 h
    obtain ⟨hmodern, hsame⟩ := ih hvs (i + 1)
    obtain ⟨hfirst, hstripped⟩ := hv (place.item i)
    rw [itemsApart, List.map_cons, List.map_cons, hstripped, hsame]
    exact ⟨List.forall_mem_cons.2 ⟨hfirst, hmodern⟩, rfl⟩

/-- A value without old names has none apart, and is the same up to origins. -/
theorem isModern_valueApart {v : Value} (h : IsModern v) (place : Place) :
    IsModern (valueApart place v) ∧ (valueApart place v).stripped = v.stripped := by
  induction h generalizing place with
  | @list o items hknot _ ih =>
    obtain ⟨hmodern, hsame⟩ := isModern_itemsApart ih place 0
    have hparts (whole : Value) (items : List Value) : partItems o whole items = items := by
      rw [partItems, if_neg (by simp [hknot])]
    rw [valueApart, hparts, stripped_list, stripped_list, hsame]
    exact ⟨.list hknot hmodern, rfl⟩
  | @map o es hknot hservice hwait hnested ih =>
    obtain ⟨hmodern, hsame⟩ := isModern_fieldsApart place hknot hservice hwait
      fun e he key hkey hname => ⟨hnested e he key hkey hname, ih e he key hkey hname⟩
    have hparts (whole : Value) (es : Entries) : partEntries o whole es = es := by
      rw [partEntries, if_neg (by simp [hknot])]
    rw [valueApart, hparts]
    -- where the mapping itself is copied, only origins change once more
    split
    · refine ⟨?_, ?_⟩
      · cases hmodern.inside place with
        | map _ hservice hwait hnested => exact .map hknot hservice hwait hnested
        | plain _ hentries => cases hentries
      · rw [stripped_map, stripped_map, Entries.stripped_inside, hsame]
    · rw [stripped_map, stripped_map, hsame]
      exact ⟨hmodern, rfl⟩
  | @plain v hitems hentries =>
    cases v <;> first
      | exact ⟨.plain rfl rfl, rfl⟩
      | (cases hitems; done)
      | cases hentries

/-- A wait without old names has none apart, and is the same up to origins. -/
theorem isModernWait_apart (h : IsModernWait es) (place : Place) :
    IsModernWait (apart .wait place es) ∧ (apart .wait place es).stripped = es.stripped := by
  obtain ⟨w, hw, hall⟩ := h
  obtain ⟨hawaited, hvalue⟩ := triggersApart_of_isAwaited (place.field "wait_for_trigger") hw
  have hkey (e : Value × Value) : (if e.1.isText "wait_for_trigger" = true then
      (e.1, triggersApart (place.field "wait_for_trigger") e.2) else e).1 = e.1 := by
    split <;> rfl
  constructor
  · refine ⟨triggersApart (place.field "wait_for_trigger") w, hawaited, fun e he hname => ?_⟩
    obtain ⟨e', he', rfl⟩ := List.mem_map.1 he
    rw [hkey] at hname
    rw [if_pos hname, hall e' he' hname]
  · rw [Entries.stripped_eq_map, Entries.stripped_eq_map, apart, List.map_map]
    refine List.map_congr_left fun e he => ?_
    rw [Function.comp_apply]
    split
    · rename_i hname
      rw [hall e he hname, hvalue]
    · rfl

/-- A step without old names is read as it is, without a notice. -/
theorem modernStep_apart {kind : NodeKind} (h : IsModernStep kind es) (place : Place) :
    (modernStep kind place (apart kind place es)).1.stripped = es.stripped
      ∧ (modernStep kind place (apart kind place es)).2 = [] := by
  -- only actions and waits are looked into
  cases kind with
  | action =>
    cases h.1 rfl with
    | map hknot hservice hwait hnested =>
      obtain ⟨hmodern, hsame⟩ := isModern_fieldsApart place hknot hservice hwait
        fun e he key hkey hname => ⟨hnested e he key hkey hname,
          isModern_valueApart (hnested e he key hkey hname)⟩
      -- the copy has no old names either, so reading it changes nothing
      cases hmodern with
      | map _ hservice hwait hnested =>
        obtain ⟨hstripped, hnotices⟩ := joinFields_modernFields place hservice hwait
          fun e he key hkey hname => modernNested_of_isModern (hnested e he key hkey hname)
        unfold modernStep apart
        dsimp only
        rw [modernAction, modernKey_of_not_has hservice]
        dsimp only
        rw [hstripped, hsame, hnotices]
        exact ⟨rfl, rfl⟩
      | plain _ hentries => cases hentries
    | plain _ hentries => cases hentries
  | wait =>
    obtain ⟨hwaits, hsame⟩ := isModernWait_apart (h.2 rfl) place
    obtain ⟨hstripped, hnotices⟩ := modernWait_of_isModernWait place hwaits
    exact ⟨hstripped.trans hsame, hnotices⟩
  | _ => exact ⟨rfl, rfl⟩

/-! ## What kind of step it stays -/

/-- The kind of an entry is told by the names of its fields. -/
theorem kind_congr {es' : Entries} (haction : (es'.has "action" || es'.has "service")
      = (es.has "action" || es.has "service"))
    (h : ∀ name, name ≠ "action" → name ≠ "service" → es'.has name = es.has name) :
    kind es' = kind es := by
  unfold kind
  rw [haction, h "if" (by decide) (by decide), h "choose" (by decide) (by decide),
    h "condition" (by decide) (by decide), h "delay" (by decide) (by decide),
    h "wait_template" (by decide) (by decide), h "wait_for_trigger" (by decide) (by decide),
    h "variables" (by decide) (by decide)]

/-- Mappings with the same keys have the same fields. -/
theorem has_of_map_fst_eq {es' : Entries} (h : es'.map (·.1) = es.map (·.1)) (name : String) :
    es'.has name = es.has name := by
  unfold Entries.has
  have hany (es : Entries) : (es.any fun e => e.1.isText name)
      = (es.map (·.1)).any fun k => k.isText name := by
    rw [List.any_map]
    rfl
  rw [hany, hany, h]

/-- Reading inner entries changes no key. -/
theorem modernFields_keys (place : Place) (es : Entries) :
    ((modernFields place es).map (·.1)).map (·.1) = es.map (·.1) := by
  induction es with
  | nil => rw [modernFields]; rfl
  | cons e es ih =>
    obtain ⟨k, v⟩ := e
    unfold modernFields
    rw [List.map_cons, List.map_cons, List.map_cons, ih]
    split
    · split <;> rfl
    · rfl

/-- Only the two names of an action change. -/
theorem has_modernAction_of_ne {name : String} (haction : name ≠ "action")
    (hservice : name ≠ "service") : (modernAction place es).1.has name = es.has name := by
  unfold modernAction modernKey
  split
  · split
    · -- the old name goes, with or without a new one in its place, and no other name does
      rw [Entries.has_eq_isSome_get?, Entries.get?_erase_of_ne (Ne.symm hservice),
        Entries.has_eq_isSome_get?]
    · unfold Entries.has Entries.rename
      rw [List.any_map]
      refine List.any_congr rfl fun e => ?_
      rw [Function.comp_apply]
      split
      · rename_i hold
        rw [Value.isText_of_ne hold (Ne.symm hservice)]
        simpa [Value.isText] using Ne.symm haction
      · rfl
  · rfl

/-- An action is named behind a reading just if it was before, by one name or the other. -/
theorem has_modernAction (place : Place) (es : Entries) :
    ((modernAction place es).1.has "action" || (modernAction place es).1.has "service")
      = (es.has "action" || es.has "service") := by
  have hservice : (modernAction place es).1.has "service" = false := has_modernKey (by decide)
  rw [hservice, Bool.or_false]
  unfold modernAction modernKey
  cases hold : es.has "service" with
  | false => simp
  | true =>
    rw [if_pos rfl, Bool.or_true]
    -- either the new name was there, or the old one becomes it
    cases hnew : es.has "action" with
    | true =>
      rw [if_pos rfl, Entries.has_eq_isSome_get?, Entries.get?_erase_of_ne (by decide),
        ← Entries.has_eq_isSome_get?, hnew]
    | false =>
      rw [if_neg (by decide)]
      obtain ⟨e, he, hname⟩ := List.any_eq_true.1 hold
      exact List.any_eq_true.2 ⟨(.str "action", e.2),
        List.mem_map.2 ⟨e, he, by rw [if_pos hname]⟩, by simp [Value.isText]⟩

/-- A step is taken for a step of its kind behind a reading. -/
theorem kind_modernStep {kind : NodeKind} (h : Entry.kind es = .step kind) (place : Place) :
    Entry.kind (modernStep kind place (apart kind place es)).1 = .step kind := by
  rw [← h]
  -- a kind depends on the keys alone, and reading changes none but the old name of an action
  cases kind with
  | action =>
    let apartFields := (modernAction place (fieldsApart place es)).1
    let fields := (modernFields place apartFields).map (·.1)
    have happart := has_of_map_fst_eq (fieldsApart_keys place es)
    have hfields := has_of_map_fst_eq (modernFields_keys place apartFields)
    refine kind_congr ?_ fun name haction hservice => ?_
    · show (Entries.has (modernWait place (modernAction place fields).1).1 "action"
        || Entries.has (modernWait place (modernAction place fields).1).1 "service") = _
      rw [has_modernWait, has_modernWait, has_modernAction, hfields, hfields, has_modernAction,
        happart, happart]
    · show Entries.has (modernWait place (modernAction place fields).1).1 name = _
      rw [has_modernWait, has_modernAction_of_ne haction hservice, hfields,
        has_modernAction_of_ne haction hservice, happart]
  | wait =>
    have hkeys : (apart .wait place es).map (·.1) = es.map (·.1) := by
      rw [apart, List.map_map]
      refine List.map_congr_left fun e _ => ?_
      rw [Function.comp_apply]
      split <;> rfl
    have hhas (name : String) : (modernStep .wait place (apart .wait place es)).1.has name
        = es.has name := by
      rw [modernStep, has_modernWait, has_of_map_fst_eq hkeys]
    exact kind_congr (by rw [hhas, hhas]) fun name _ _ => hhas name
  | _ => rfl

end Entry

end Automation
