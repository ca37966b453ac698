import Automation.Proofs.Entry.Outdated

/-!
# Old names are replaced

What a reader makes of an action has no old name at any depth that the reader looks at, tells of
each that there was, and is otherwise the action (`Entry.old_names_are_replaced`). What may change
is stated as a relation of values (`Entry.Renewed`): an old key gets its present name in its place,
or goes when the present name is there too, and a trigger that is waited for by itself becomes a
list. All other keys and values stay what and where they are.

An action is read as a value inside another (`Entry.modernNested_ofEntries`), so all of this is
proved of such values. There is an end to a value unless a reader comes from it to a collection that
it is still inside of (`Entry.isEndless_iff_reached`), and present names do not change that
(`Entry.isEndless_modernNested`).
-/

namespace Automation

namespace Entry

open Value

/-! ## What may change -/

/-- Entries with an old key under its present name, or without it if they have the present one. -/
def presentKey (old new : String) (es : Entries) : Entries :=
  if es.has new then es.erase old else es.rename old new

/-- A trigger of a wait with the present name of its platform. -/
inductive RenewedTrigger : Value → Value → Prop where
  | trigger {o : Origin} {t : Value} {es : Entries} (hexpose : t.expose = .map o es) :
    RenewedTrigger t (.ofEntries (presentKey "platform" "trigger" es))
  | other {t : Value} (hexpose : t.expose.entries? = none) : RenewedTrigger t t

/-- What is waited for, as a list of triggers with present names. -/
inductive RenewedWait : Value → Value → Prop where
  | list {o : Origin} {v : Value} {items items' : List Value} (hexpose : v.expose = .list o items)
    (hitems : List.Forall₂ RenewedTrigger items items') : RenewedWait v (.ofItems items')
  | single {o : Origin} {v t : Value} {es : Entries} (hexpose : v.expose = .map o es)
    (ht : RenewedTrigger (.map o es) t) : RenewedWait v (.ofItems [t])
  | other {v : Value} (hitems : v.expose.items? = none) (hentries : v.expose.entries? = none) :
    RenewedWait v v

mutual
/-- A value inside a step with present names. -/
inductive Renewed : Value → Value → Prop where
  | list {o : Origin} {items items' : List Value} (hitems : List.Forall₂ Renewed items items') :
    Renewed (.list o items) (.ofItems items')
  | map {o : Origin} {es es' : Entries} (hfields : List.Forall₂ RenewedField es es') :
    Renewed (.map o es) (.ofEntries (presentKey "service" "action" es'))
  | other {v : Value} (hitems : v.items? = none) (hentries : v.entries? = none) : Renewed v v

/-- A field with present names in what it holds. -/
inductive RenewedField : Value × Value → Value × Value → Prop where
  | nested {key : String} {v v' : Value} (hkey : key ∈ nestedKeys) (hv : Renewed v v') :
    RenewedField (.str key, v) (.str key, v')
  | wait {v v' : Value} (hv : RenewedWait v v') :
    RenewedField (.str "wait_for_trigger", v) (.str "wait_for_trigger", v')
  | other {k v : Value} (hnested : ∀ key ∈ nestedKeys, k.isText key = false)
    (hwait : k.isText "wait_for_trigger" = false) : RenewedField (k, v) (k, v)
end

/-! ## Keys -/

section Keys

variable {place : Place} {es : Entries} {old new : String}

theorem modernKey_fst (old new : String) (place : Place) (es : Entries) :
    (modernKey old new place es).1 = presentKey old new es := by
  unfold modernKey presentKey
  split
  · split <;> rfl
  · rename_i hold
    rw [Bool.not_eq_true] at hold
    rw [Entries.erase_of_not_has hold, Entries.rename_of_not_has new hold, ite_self]

/-- Once an old key is gone there is nothing more to change. -/
theorem presentKey_presentKey (hne : new ≠ old) (es : Entries) :
    presentKey old new (presentKey old new es) = presentKey old new es := by
  have hgone : (presentKey old new es).has old = false := by
    rw [← modernKey_fst _ _ { root := "" }]
    exact has_modernKey hne
  rw [← modernKey_fst _ _ { root := "" }, modernKey_of_not_has hgone]

/-- Other fields than those of the two names are left alone. -/
theorem get?_presentKey_of_ne {name : String} (hold : old ≠ name) (hnew : new ≠ name) :
    (presentKey old new es).get? name = es.get? name := by
  rw [← modernKey_fst _ _ { root := "" }]
  exact get?_modernKey_of_ne hold hnew

theorem distinct_presentKey (old new : String) (h : es.Distinct) :
    (presentKey old new es).Distinct := by
  unfold presentKey
  split
  · exact h.erase old
  · rename_i hnew
    exact h.rename (by simpa using hnew)

/-- A change of values that leaves those of the two names alone can be made before or after. -/
theorem presentKey_map {f : Value × Value → Value × Value} (hkey : ∀ e, (f e).1 = e.1)
    (hold : ∀ v, f (.str old, v) = (.str old, v)) (hnew : ∀ v, f (.str new, v) = (.str new, v)) :
    presentKey old new (es.map f) = (presentKey old new es).map f := by
  -- a change that keeps the names of fields makes no difference to which of them are there
  have hhas : Entries.has (es.map f) new = es.has new := by
    unfold Entries.has
    rw [List.any_map]
    exact List.any_congr rfl fun e => by rw [Function.comp_apply, hkey]
  unfold presentKey
  rw [hhas]
  split
  · unfold Entries.erase
    rw [List.filter_map]
    congr 2
    funext e
    rw [Function.comp_apply, hkey]
  · unfold Entries.rename
    rw [List.map_map, List.map_map]
    refine List.map_congr_left fun e _ => ?_
    rw [Function.comp_apply, Function.comp_apply, hkey]
    split
    · rename_i hname
      obtain ⟨k, v⟩ := e
      cases isText_iff.1 hname
      rw [hold, hnew]
    · rfl

theorem modernField_old (place : Place) {name : String} (h : name ∉ nestedKeys) (v : Value) :
    modernField place (.str name, v) = ((.str name, v), []) := by
  refine modernField_of_not_nested (fun key hkey => ?_) v
  rw [isText_str, beq_eq_false_iff_ne]
  rintro rfl
  exact h hkey

/-- The keys of an action get their present names before or after those of what it holds. -/
theorem modernFields_presentKey (place : Place) (es : Entries) :
    (modernFields place (presentKey "service" "action" es)).map (·.1)
      = presentKey "service" "action" ((modernFields place es).map (·.1)) := by
  rw [modernFields_eq_map, modernFields_eq_map, List.map_map, List.map_map]
  refine (presentKey_map (fun e => modernField_key place e) (fun v => ?_) fun v => ?_).symm
  · rw [modernField_old place (by decide)]
  · rw [modernField_old place (by decide)]

theorem joinFields_fst (place : Place) (fields : List ((Value × Value) × List Notice)) :
    (joinFields place fields).1
      = (modernWait place (presentKey "service" "action" (fields.map (·.1)))).1 := by
  rw [← modernKey_fst _ _ place]
  rfl

/-- An action is read as what it is as a value inside another. -/
theorem modernStep_action_eq (honce : (Value.ofEntries es).keysOnce = true) :
    modernStep .action place es = joinFields place (modernFields place es) := by
  have honce' : (Value.ofEntries (presentKey "service" "action" es)).keysOnce = true := by
    rw [← modernKey_fst _ _ place]
    exact keysOnce_modernKey honce
  -- once its own name is replaced, the action is read like an inner entry
  have hgone : (presentKey "service" "action" es).has "service" = false := by
    rw [← modernKey_fst _ _ place]
    exact has_modernKey (by decide)
  unfold modernStep
  dsimp only
  rw [modernAction, modernKey_fst]
  refine Prod.ext ?_ ?_
  · show (joinFields place _).1 = _
    rw [joinFields_fst, joinFields_fst, modernFields_presentKey,
      presentKey_presentKey (by decide)]
  · show _ ++ (joinFields place _).2 = _
    rw [joinFields_notices (distinct_of_keysOnce honce'),
      joinFields_notices (distinct_of_keysOnce honce), modernAction, modernKey_of_not_has hgone,
      List.nil_append, awaited_congr (get?_presentKey_of_ne (by decide) (by decide)),
      ← List.append_assoc]
    refine congrArg (List.append _) ?_
    refine List.flatMap_congr fun key hkey => ?_
    have hne : ∀ key ∈ nestedKeys, "service" ≠ key ∧ "action" ≠ key := by decide
    rw [get?_presentKey_of_ne (hne key hkey).1 (hne key hkey).2]

end Keys

/-! ## What is kept -/

section Kept

variable {place : Place} {es : Entries}

theorem renewedTrigger_modernTriggers (place : Place) (items : List Value) (i : Nat) :
    List.Forall₂ RenewedTrigger items (modernTriggers place i items).1 := by
  induction items generalizing i with
  | nil => exact .nil
  | cons t items ih =>
    rw [modernTriggers]
    dsimp only
    split
    · rename_i o es hexpose
      rw [modernTrigger, modernKey_fst]
      exact .cons (.trigger hexpose) (ih (i + 1))
    · rename_i hexpose
      refine .cons (.other ?_) (ih (i + 1))
      cases h : t.expose with
      | map o es => exact absurd h (hexpose o es)
      | _ => rfl

/-- The value of a field is that of every entry of its name. -/
theorem get_eq_of_mem (hdistinct : es.Distinct) {e : Value × Value} (he : e ∈ es) {name : String}
    (hname : e.1.isText name = true) : es.get name = e.2 := by
  rw [Entries.get, Entries.get?_of_mem_of_isText hdistinct he hname]
  rfl

/-- A wait gets a value in which all triggers have present names, and keeps its other fields. -/
theorem exists_modernWait_eq (place : Place) (hdistinct : es.Distinct) :
    ∃ new, RenewedWait (es.get "wait_for_trigger") new
      ∧ (modernWait place es).1
        = es.map fun e => if e.1.isText "wait_for_trigger" then (e.1, new) else e := by
  have hset (new : Value) (hnull : (es.get "wait_for_trigger").expose ≠ .null) :
      es.set "wait_for_trigger" new
        = es.map fun e => if e.1.isText "wait_for_trigger" then (e.1, new) else e :=
    if_pos (has_of_expose_ne_null hnull)
  have htriggers (items : List Value) :=
    renewedTrigger_modernTriggers (place.field "wait_for_trigger") items 0
  -- a list of triggers, a single one, or something else that is left alone
  rcases modernWait_cases place es with ⟨o, items, hexpose, hresult⟩ | ⟨o, inner, hexpose, hresult⟩
      | ⟨hitems, hentries, hresult⟩
  · rw [hresult, hset _ (by rw [hexpose]; exact nofun)]
    exact ⟨_, .list hexpose (htriggers items), rfl⟩
  · rw [hresult, hset _ (by rw [hexpose]; exact nofun)]
    obtain ⟨t, rest, ht, hrest, heq⟩ := List.forall₂_cons_left_iff.1 (htriggers [.map o inner])
    rw [heq, List.forall₂_nil_left_iff.1 hrest]
    exact ⟨_, .single hexpose ht, rfl⟩
  · rw [hresult]
    refine ⟨_, .other hitems hentries, ?_⟩
    conv_lhs => rw [← List.map_id es]
    refine List.map_congr_left fun e he => ?_
    split
    · rename_i hname
      rw [get_eq_of_mem hdistinct he hname]
      rfl
    · rfl

theorem renewed_modernItems (place : Place) {items : List Value}
    (h : ∀ v ∈ items, ∀ place, Renewed v (modernNested place v).1) (i : Nat) :
    List.Forall₂ Renewed items (modernItems place i items).1 := by
  induction items generalizing i with
  | nil => exact .nil
  | cons v items ih =>
    obtain ⟨hv, hitems⟩ := List.forall_mem_cons.1 h
    rw [modernItems]
    exact .cons (hv _) (ih hitems (i + 1))

/-- A field gets present names in what it holds, if it is given those of the wait. -/
theorem renewedField_modernField (place : Place) (new : Value) {e : Value × Value}
    (hnested : ∀ place, Renewed e.2 (modernNested place e.2).1)
    (hwait : e.1.isText "wait_for_trigger" = true → RenewedWait e.2 new) :
    RenewedField e (if e.1.isText "wait_for_trigger" then (e.1, new)
      else (modernField place e).1) := by
  obtain ⟨k, v⟩ := e
  split
  · rename_i hname
    cases isText_iff.1 hname
    exact .wait (hwait hname)
  · rename_i hname
    by_cases h : ∃ key ∈ nestedKeys, k.isText key = true
    · obtain ⟨key, hkey, hk⟩ := h
      cases isText_iff.1 hk
      rw [modernField_of_nested hkey]
      exact .nested hkey (hnested _)
    · have hnone : ∀ key ∈ nestedKeys, k.isText key = false := by simpa using h
      rw [modernField_of_not_nested hnone]
      exact .other hnone (by simpa using hname)

/-- What a reader makes of a value inside a step is the value with present names. -/
theorem renewed_modernNested (place : Place) {v : Value} (honce : v.keysOnce = true) :
    Renewed v (modernNested place v).1 := by
  induction v using Value.walk generalizing place with
  | list o items ih =>
    rw [modernNested]
    exact .list (renewed_modernItems place
      (fun v hv place => ih v hv place (keysOnce_of_mem honce hv)) 0)
  | map o es ih =>
    rw [modernNested]
    show Renewed _ (.ofEntries (joinFields place (modernFields place es)).1)
    have hdistinct := distinct_of_keysOnce honce
    -- a mapping is renewed field by field, each of which may get a new key or a new value
    obtain ⟨new, hnew, heq⟩ := exists_modernWait_eq place (distinct_presentKey "service" "action"
      (hdistinct.of_keys (modernFields_keys place es)))
    have hwait : Entries.get (presentKey "service" "action" ((modernFields place es).map (·.1)))
        "wait_for_trigger" = es.get "wait_for_trigger" := by
      rw [Entries.get, get?_presentKey_of_ne (by decide) (by decide), get?_modernFields (by decide),
        Entries.get]
    rw [hwait] at hnew
    rw [joinFields_fst, heq,
      ← presentKey_map (fun e => by split <;> rfl) (fun v => rfl) fun v => rfl]
    refine .map ?_
    rw [modernFields_eq_map, List.map_map, List.map_map, List.forall₂_map_right_iff,
      List.forall₂_same]
    intro e he
    have hfield := renewedField_modernField place new
      (fun place => ih e he place (keysOnce_of_mem_entries honce he))
      fun hname => get_eq_of_mem hdistinct he hname ▸ hnew
    rw [Function.comp_apply, Function.comp_apply, modernField_key]
    exact hfield
  | plain v hitems hentries =>
    rw [modernNested_of_plain hitems hentries]
    exact .other hitems hentries

end Kept

/-! ## Actions inside themselves -/

section Endless

variable {place : Place} {es : Entries}

theorem itemsEndless_iff {items : List Value} :
    itemsEndless items = true ↔ ∃ v ∈ items, isEndless v = true := by
  induction items with
  | nil => simp [itemsEndless]
  | cons v vs ih => rw [itemsEndless, Bool.or_eq_true, ih, List.exists_mem_cons_iff]

theorem fieldsEndless_iff (hdistinct : es.Distinct) : fieldsEndless es = true
    ↔ ∃ key ∈ nestedKeys, ∃ u, es.get? key = some u ∧ isEndless u = true := by
  have hany : fieldsEndless es
      = es.any fun e => nestedKeys.any (e.1.isText ·) && isEndless e.2 := by
    clear hdistinct
    induction es with
    | nil => rfl
    | cons e es ih => rw [fieldsEndless, ih, List.any_cons]
  rw [hany, List.any_eq_true]
  constructor
  · rintro ⟨e, he, h⟩
    obtain ⟨hnested, hendless⟩ := Bool.and_eq_true_iff.1 h
    obtain ⟨key, hkey, hname⟩ := List.any_eq_true.1 hnested
    exact ⟨key, hkey, e.2, Entries.get?_of_mem_of_isText hdistinct he hname, hendless⟩
  · rintro ⟨key, hkey, u, hu, hendless⟩
    exact ⟨(.str key, u), Entries.mem_of_get?_eq_some hu, Bool.and_eq_true_iff.2
      ⟨List.any_eq_true.2 ⟨key, hkey, beq_self_eq_true key⟩, hendless⟩⟩

/-- There is no end to a value when a reader comes from it to a collection that it is inside of. -/
theorem isEndless_iff_reached {v : Value} (honce : v.keysOnce = true) (place : Place) :
    isEndless v = true ↔ ∃ o isMap q, Reached v place (.enclosing o isMap) q := by
  induction v using Value.walk generalizing place with
  | list o items ih =>
    rw [isEndless, itemsEndless_iff]
    -- what is reached in a list is reached in one of its items
    constructor
    · rintro ⟨u, hu, h⟩
      obtain ⟨i, hi⟩ := List.mem_iff_getElem?.1 hu
      obtain ⟨p, isMap, q, hreached⟩ := (ih u hu (keysOnce_of_mem honce hu) (place.item i)).1 h
      exact ⟨p, isMap, q, .item hi hreached⟩
    · rintro ⟨p, isMap, q, hreached⟩
      cases hreached with
      | item hu h =>
        have hmem := List.mem_of_getElem? hu
        exact ⟨_, hmem, (ih _ hmem (keysOnce_of_mem honce hmem) _).2 ⟨p, isMap, q, h⟩⟩
  | map o es ih =>
    rw [isEndless, fieldsEndless_iff (distinct_of_keysOnce honce)]
    -- in a mapping it is reached in the first value under a key with inner entries
    constructor
    · rintro ⟨key, hkey, u, hu, h⟩
      have hmem := Entries.mem_of_get?_eq_some hu
      obtain ⟨p, isMap, q, hreached⟩ :=
        (ih _ hmem (keysOnce_of_mem_entries honce hmem) (place.field key)).1 h
      exact ⟨p, isMap, q, .field hkey hu hreached⟩
    · rintro ⟨p, isMap, q, hreached⟩
      cases hreached with
      | field hkey hu h =>
        have hmem := Entries.mem_of_get?_eq_some hu
        exact ⟨_, hkey, _, hu,
          (ih _ hmem (keysOnce_of_mem_entries honce hmem) _).2 ⟨p, isMap, q, h⟩⟩
  | plain v hitems hentries =>
    cases v with
    | enclosing o isMap => exact iff_of_true rfl ⟨o, isMap, place, .here _ _⟩
    | list => cases hitems
    | map => cases hentries
    | _ =>
      refine iff_of_false (fun h => Bool.false_ne_true h) ?_
      rintro ⟨p, isMap, q, hreached⟩
      cases hreached

/-- A field that holds entries has them with present names. -/
theorem get?_modernFields_nested {key : String} (hkey : key ∈ nestedKeys) :
    Entries.get? ((modernFields place es).map (·.1)) key
      = (es.get? key).map fun v => (modernNested (place.field key) v).1 := by
  rw [modernFields_eq_map, List.map_map]
  induction es with
  | nil => rfl
  | cons e es ih =>
    obtain ⟨k, v⟩ := e
    rw [List.map_cons, Entries.get?_cons, ih, Function.comp_apply, modernField_key,
      Entries.get?_cons]
    split
    · rename_i hname
      cases isText_iff.1 hname
      rw [modernField_of_nested hkey]
      rfl
    · rfl

theorem itemsEndless_modernItems (place : Place) {items : List Value}
    (h : ∀ v ∈ items, ∀ place, isEndless (modernNested place v).1 = isEndless v) (i : Nat) :
    itemsEndless (modernItems place i items).1 = itemsEndless items := by
  induction items generalizing i with
  | nil => rfl
  | cons v items ih =>
    obtain ⟨hv, hitems⟩ := List.forall_mem_cons.1 h
    rw [modernItems]
    dsimp only
    rw [itemsEndless, itemsEndless, hv, ih hitems]

/-- Present names neither put an end to a value nor take it away. -/
theorem isEndless_modernNested (place : Place) {v : Value} (honce : v.keysOnce = true) :
    isEndless (modernNested place v).1 = isEndless v := by
  induction v using Value.walk generalizing place with
  | list o items ih =>
    rw [modernNested]
    exact itemsEndless_modernItems place
      (fun v hv place => ih v hv place (keysOnce_of_mem honce hv)) 0
  | map o es ih =>
    have hresult := keysOnce_modernNested place _ honce
    rw [modernNested] at hresult ⊢
    rw [Bool.eq_iff_iff]
    refine (fieldsEndless_iff (distinct_of_keysOnce hresult)).trans
      (Iff.trans ?_ (fieldsEndless_iff (distinct_of_keysOnce honce)).symm)
    -- none of the keys that are renamed or set is one of those that hold entries
    have hne : ∀ key ∈ nestedKeys, "wait_for_trigger" ≠ key ∧ "service" ≠ key ∧ "action" ≠ key := by
      decide
    refine exists_congr fun key => and_congr_right fun hkey => ?_
    obtain ⟨hwait, hservice, haction⟩ := hne key hkey
    rw [joinFields_fst, get?_modernWait hwait, get?_presentKey_of_ne hservice haction,
      get?_modernFields_nested hkey]
    cases hget : es.get? key with
    | none => simp
    | some u =>
      have hmem := Entries.mem_of_get?_eq_some hget
      simp [ih _ hmem (place.field key) (keysOnce_of_mem_entries honce hmem)]
  | plain v hitems hentries => rw [modernNested_of_plain hitems hentries]

end Endless

/-! ## Values without knots -/

mutual
/-- Whether no collection in a value can occur inside itself. -/
def unknotted : Value → Bool
  | .list o items => !o.isKnot && itemsUnknotted items
  | .map o es => !o.isKnot && fieldsUnknotted es
  | _ => true

def itemsUnknotted : List Value → Bool
  | [] => true
  | v :: rest => unknotted v && itemsUnknotted rest

def fieldsUnknotted : List (Value × Value) → Bool
  | [] => true
  | (_, v) :: rest => unknotted v && fieldsUnknotted rest
end

section Unknotted

variable {o : Origin} {place : Place} {es : Entries}

theorem itemsUnknotted_iff {items : List Value} :
    itemsUnknotted items = true ↔ ∀ v ∈ items, unknotted v = true := by
  induction items with
  | nil => simp [itemsUnknotted]
  | cons v vs ih => rw [itemsUnknotted, Bool.and_eq_true, ih, List.forall_mem_cons]

theorem fieldsUnknotted_iff : fieldsUnknotted es = true ↔ ∀ e ∈ es, unknotted e.2 = true := by
  induction es with
  | nil => simp [fieldsUnknotted]
  | cons e es ih => rw [fieldsUnknotted, Bool.and_eq_true, ih, List.forall_mem_cons]

theorem unknotted_list_iff {items : List Value} : unknotted (.list o items) = true
    ↔ o.isKnot = false ∧ ∀ v ∈ items, unknotted v = true := by
  rw [unknotted, Bool.and_eq_true, itemsUnknotted_iff, Bool.not_eq_true']

theorem unknotted_map_iff : unknotted (.map o es) = true
    ↔ o.isKnot = false ∧ ∀ e ∈ es, unknotted e.2 = true := by
  rw [unknotted, Bool.and_eq_true, fieldsUnknotted_iff, Bool.not_eq_true']

/-- Triggers apart are the same up to origins. -/
theorem stripped_triggersApart {v : Value} (h : unknotted v = true) (place : Place) :
    (triggersApart place v).stripped = v.stripped := by
  cases v with
  | list o items =>
    rw [triggersApart, partItems, if_neg (by simp [(unknotted_list_iff.1 h).1]), stripped_list,
      stripped_list, List.map_map]
    conv_rhs => rw [← List.zipIdx_map_fst 0 items, List.map_map]
    refine congrArg (Value.list {}) (List.map_congr_left fun item _ => ?_)
    obtain ⟨w, i⟩ := item
    cases w with
    | map o es => exact stripped_inside _ (.map o es)
    | _ => rfl
  | map o es => exact stripped_inside _ (.map o es)
  | _ => rfl

theorem stripped_itemsApart {items : List Value} (h : ∀ v ∈ items, ∀ place,
      (valueApart place v).stripped = v.stripped) (place : Place) (i : Nat) :
    (itemsApart place i items).map Value.stripped = items.map Value.stripped := by
  induction items generalizing i with
  | nil => rw [itemsApart]
  | cons v vs ih =>
    obtain ⟨hv, hvs⟩ := List.forall_mem_cons.1 h
    rw [itemsApart, List.map_cons, List.map_cons, hv, ih hvs]

/-- A value apart is the same up to origins. -/
theorem stripped_valueApart {v : Value} (h : unknotted v = true) (place : Place) :
    (valueApart place v).stripped = v.stripped := by
  induction v using Value.walk generalizing place with
  | list o items ih =>
    obtain ⟨hknot, hitems⟩ := unknotted_list_iff.1 h
    rw [valueApart, partItems, if_neg (by simp [hknot]), stripped_list, stripped_list,
      stripped_itemsApart fun v hv place => ih v hv (hitems v hv) place]
  | map o es ih =>
    obtain ⟨hknot, hfields⟩ := unknotted_map_iff.1 h
    -- what is copied in the fields differs in origins alone, and so does the copy of the mapping
    have hsame : Entries.stripped (fieldsApart place es) = es.stripped :=
      stripped_fieldsApart (fun e he _ _ _ place => ih e he (hfields e he) place)
        fun e he _ place => stripped_triggersApart (hfields e he) place
    have hparts (whole : Value) (es : Entries) : partEntries o whole es = es := by
      rw [partEntries, if_neg (by simp [hknot])]
    rw [valueApart, hparts]
    split
    · rw [stripped_map, stripped_map, Entries.stripped_inside, hsame]
    · rw [stripped_map, stripped_map, hsame]
  | plain v hitems hentries =>
    cases v with
    | list => cases hitems
    | map => cases hentries
    | _ => rfl

/-- The payload of a step apart is the same up to origins. -/
theorem stripped_apart_action (h : ∀ e ∈ es, unknotted e.2 = true) (place : Place) :
    (apart .action place es).stripped = es.stripped :=
  stripped_fieldsApart (fun e he _ _ _ place => stripped_valueApart (h e he) place)
    fun e he _ place => stripped_triggersApart (h e he) place

end Unknotted

/-! ## Steps -/

variable {place : Place} {es : Entries}

/-- An action is read as a value inside another. -/
theorem modernNested_ofEntries (place : Place) (honce : (Value.ofEntries es).keysOnce = true) :
    modernNested place (.ofEntries es)
      = (.ofEntries (modernStep .action place es).1, (modernStep .action place es).2) := by
  rw [modernStep_action_eq honce, Value.ofEntries, modernNested]

theorem keysOnce_modernStep_action (place : Place) (honce : (Value.ofEntries es).keysOnce = true) :
    (Value.ofEntries (modernStep .action place es).1).keysOnce = true := by
  have h := keysOnce_modernNested place (.ofEntries es) honce
  rwa [modernNested_ofEntries place honce] at h

/-- An action with present names is renewed as it is, and nothing is told. -/
theorem renewStep_modernStep (place place' : Place) (honce : (Value.ofEntries es).keysOnce = true)
    (hends : isEndlessStep .action es = false) :
    ∃ again, renewStep .action place' (apart .action place' (modernStep .action place es).1)
        = .ok (again, [])
      ∧ again.stripped = (modernStep .action place es).1.stripped := by
  have hmodern := isModernStep_modernStep (keysOnce_modernStep_action place honce)
  obtain ⟨hsame, hquiet⟩ := modernStep_apart hmodern place'
  generalize hdata : (modernStep .action place es).1 = data at hsame hquiet
  have hnested : isEndless (.ofEntries data) = isEndless (.ofEntries es) := by
    rw [← hdata, ← isEndless_modernNested place honce, modernNested_ofEntries place honce]
  refine ⟨(modernStep .action place' (apart .action place' data)).1,
    renewStep_eq_ok_iff.2 ⟨?_, ?_⟩, hsame⟩
  · rw [isEndlessStep_apart]
    exact hnested.trans hends
  · rw [← hquiet]

/-- Nothing is out of date in what a reader makes of an action. -/
theorem not_outdated_modernStep (honce : (Value.ofEntries es).keysOnce = true) (n : Notice) :
    ¬ Outdated (.ofEntries (modernStep .action place es).1) place n := by
  have honce' := keysOnce_modernStep_action place honce
  have hmodern := isModern_modernNested place (.ofEntries es)
    (by rwa [modernNested_ofEntries place honce])
  obtain ⟨-, hquiet⟩ := modernNested_of_isModern hmodern place
  rw [modernNested_ofEntries place honce] at hquiet
  rw [← mem_modernNested_iff honce', hquiet]
  exact List.not_mem_nil

/-- A reader does not come back from an action in which it comes to a collection that it is inside
of. In what it makes of any other, no mapping that it comes to has the old name of an action, and no
trigger that such a mapping waits for has the old name of a platform. Each old name that there was
is told, once and with the place of its mapping, and there is one value at a place; nothing else is
told. All other keys and values are what and where they were, but that a trigger which is waited for
by itself is in a list. Reading the action again changes nothing and tells nothing.

What is read is the action with all that is copied of it apart, which without knots is the action up
to origins. -/
theorem old_names_are_replaced (place : Place) {es : Entries}
    (honce : (Value.ofEntries es).keysOnce = true) :
    (∃ o isMap q, Reached (.ofEntries es) place (.enclosing o isMap) q)
        ∧ renewStep .action place (apart .action place es) = Outcome.fault .overflow
    ∨ (¬∃ o isMap q, Reached (.ofEntries es) place (.enclosing o isMap) q)
      ∧ ((∀ e ∈ es, unknotted e.2 = true) → (apart .action place es).stripped = es.stripped)
      ∧ ∃ data notices,
        renewStep .action place (apart .action place es) = .ok (data, notices)
        ∧ (∀ o fields q, Reached (.ofEntries data) place (.map o fields) q →
          Entries.has fields "service" = false
            ∧ ∀ t ∈ awaited fields, ∀ p trigger, t.expose = .map p trigger →
              Entries.has trigger "platform" = false)
        ∧ (∀ n, n ∈ notices ↔ Outdated (.ofEntries (apart .action place es)) place n)
        ∧ notices.Nodup
        ∧ (∀ w w' q, Reached (.ofEntries (apart .action place es)) place w q →
          Reached (.ofEntries (apart .action place es)) place w' q → w' = w)
        ∧ Renewed (.ofEntries (apart .action place es)) (.ofEntries data)
        ∧ ∀ place', ∃ again, renewStep .action place' (apart .action place' data) = .ok (again, [])
          ∧ again.stripped = data.stripped := by
  have hendless : isEndlessStep .action es = true
      ↔ ∃ o isMap q, Reached (.ofEntries es) place (.enclosing o isMap) q :=
    isEndless_iff_reached honce place
  have hwhole := keysOnce_apart .action place honce
  -- an action that is reached inside itself is renewed without end
  cases hends : isEndlessStep .action es with
  | true =>
    refine .inl ⟨hendless.1 hends, ?_⟩
    rw [renewStep, isEndlessStep_apart, hends, if_pos rfl]
  | false =>
    rw [← isEndlessStep_apart _ place] at hends
    refine .inr ⟨fun h => ?_, fun h => stripped_apart_action h place,
      (modernStep .action place (apart .action place es)).1,
      (modernStep .action place (apart .action place es)).2, renewStep_eq_ok_iff.2 ⟨hends, rfl⟩,
      fun o fields q hreached => ⟨?_, fun t ht p trigger hexpose => ?_⟩, fun n => ?_, ?_,
      fun w w' q => Reached.unique, ?_, fun place' => renewStep_modernStep place place' hwhole hends⟩
    · rw [← hendless, ← isEndlessStep_apart _ place, hends] at h
      cases h
    · by_contra hold
      rw [Bool.not_eq_false] at hold
      exact not_outdated_modernStep hwhole _ ⟨_, _, hreached, .action hold⟩
    · -- an old name that was left would be a notice of the second reading, which has none
      by_contra hold
      rw [Bool.not_eq_false] at hold
      obtain ⟨i, hi⟩ := List.mem_iff_getElem?.1 ht
      exact not_outdated_modernStep hwhole _ ⟨_, _, hreached, .trigger hi hexpose hold⟩
    · rw [← mem_modernNested_iff hwhole, modernNested_ofEntries place hwhole]
    · have hnodup := nodup_modernNested place hwhole
      rwa [modernNested_ofEntries place hwhole] at hnodup
    · have hrenewed := renewed_modernNested place hwhole
      rwa [modernNested_ofEntries place hwhole] at hrenewed

/-- Three times: a lamp is switched, there is a wait for motion, and a script is run, all of it with
old names. The script gets data with a field of the same name, which is no old name. -/
def rounds : Entries := [
  (.str "repeat", .ofEntries [
    (.str "count", .int 3),
    (.str "sequence", .ofItems [
      .ofEntries [(.str "service", .str "light.toggle"), (.str "alias", .str "lamp")],
      .ofEntries [(.str "wait_for_trigger", .ofEntries [
        (.str "platform", .str "state"), (.str "entity_id", .str "binary_sensor.motion")])],
      .ofEntries [(.str "parallel", .ofEntries [
        (.str "action", .str "script.turn_on"), (.str "service", .str "script.turn_on"),
        (.str "data", .ofEntries [(.str "service", .str "kept")])])]])])]

/-- Three old names are told, and all of them are gone. -/
theorem old_names_are_replaced_rounds : ∃ data notices,
    renewStep .action { root := "actions" } (apart .action { root := "actions" } rounds)
        = .ok (data, notices)
      ∧ notices.map (·.message) = [
        "actions.repeat.sequence[0]: legacy key 'service' renamed to 'action'",
        "actions.repeat.sequence[1].wait_for_trigger[0]: legacy key 'platform' renamed to 'trigger'",
        "actions.repeat.sequence[2].parallel: dropped legacy key 'service' next to 'action'"]
      ∧ (apart .action { root := "actions" } rounds).stripped = rounds.stripped
      ∧ Renewed (.ofEntries (apart .action { root := "actions" } rounds)) (.ofEntries data)
      ∧ ∀ o fields q, Reached (.ofEntries data) { root := "actions" } (.map o fields) q →
          Entries.has fields "service" = false := by
  have honce : (Value.ofEntries rounds).keysOnce = true := by decide
  have hunknotted : unknotted (.ofEntries rounds) = true := by decide
  -- the entry is not found inside itself, so it is renewed
  rcases old_names_are_replaced { root := "actions" } honce with
    ⟨-, hfault⟩ | ⟨-, hsame, data, notices, hrenewed, hgone, -, -, -, hkept, -⟩
  · cases hfault
  · refine ⟨data, notices, hrenewed, ?told, hsame (unknotted_map_iff.1 hunknotted).2, hkept,
      fun o fields q h => (hgone o fields q h).1⟩
    case told =>
      cases hrenewed
      rfl

end Entry

end Automation
