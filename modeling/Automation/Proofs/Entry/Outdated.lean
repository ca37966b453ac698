import Automation.Proofs.Entry.Once

/-!
# Old names and where they stand

A reader looks for old names in a step, and from there through lists and the keys that hold further
entries (`Entry.Reached`), and in the triggers that the mappings it comes to wait for. Each old name
there is told once, with the place of its mapping, and nothing else is
(`Entry.mem_modernNested_iff`, `Entry.nodup_modernNested`). A place is that of one value
(`Entry.Reached.unique`), so as many notices are told as there are old names.
-/

namespace Automation

namespace Value

/-- What a list has when its items do, a mapping when its values do, and everything else by itself,
all values have. -/
theorem walk {motive : Value → Prop}
    (list : ∀ o items, (∀ v ∈ items, motive v) → motive (.list o items))
    (map : ∀ o (es : Entries), (∀ e ∈ es, motive e.2) → motive (.map o es))
    (plain : ∀ v : Value, v.items? = none → v.entries? = none → motive v) (v : Value) :
    motive v := by
  refine @Value.rec motive (fun items => ∀ v ∈ items, motive v) (fun es => ∀ e ∈ es, motive e.2)
    (fun e => motive e.2) ?null ?bool ?int ?float ?str ?bytes ?date ?moment list ?tuple ?set map
    ?enclosing ?nil ?cons ?noEntries ?entries ?entry v
  case nil => exact nofun
  case cons => exact fun v vs hv hvs => List.forall_mem_cons.2 ⟨hv, hvs⟩
  case noEntries => exact nofun
  case entries => exact fun e es he hes => List.forall_mem_cons.2 ⟨he, hes⟩
  case entry => exact fun _ _ _ hv => hv
  all_goals intros; exact plain _ rfl rfl

end Value

namespace Entry

open Value

/-! ## Values inside a step -/

/-- A value that a reader comes to from another, through lists and the keys that hold further
entries, with the places of both. -/
inductive Reached : Value → Place → Value → Place → Prop where
  | here (v : Value) (place : Place) : Reached v place v place
  | item {o : Origin} {items : List Value} {i : Nat} {u w : Value} {place q : Place}
    (hu : items[i]? = some u) (h : Reached u (place.item i) w q) :
    Reached (.list o items) place w q
  | field {o : Origin} {es : Entries} {key : String} {u w : Value} {place q : Place}
    (hkey : key ∈ nestedKeys) (hu : es.get? key = some u) (h : Reached u (place.field key) w q) :
    Reached (.map o es) place w q

/-- The triggers that entries wait for, one of them by itself or all in a list. -/
def awaited (es : Entries) : List Value :=
  match (es.get "wait_for_trigger").expose with
  | .list _ items => items
  | .map o inner => [.map o inner]
  | _ => []

/-- What there is to tell of an old key of the mapping at a place. -/
def oldKey (old new : String) (place : Place) (es : Entries) : Notice :=
  if es.has new then .droppedKey place old new else .renamedKey place old new

/-- What there is to tell of a value at a place by itself: the old name of an action, and those of
the triggers that are waited for. -/
inductive HasOldName : Value → Place → Notice → Prop where
  | action {o : Origin} {es : Entries} {place : Place} (hold : es.has "service" = true) :
    HasOldName (.map o es) place (oldKey "service" "action" place es)
  | trigger {o p : Origin} {es inner : Entries} {place : Place} {i : Nat} {t : Value}
    (ht : (awaited es)[i]? = some t) (hexpose : t.expose = .map p inner)
    (hold : inner.has "platform" = true) :
    HasOldName (.map o es) place
      (oldKey "platform" "trigger" ((place.field "wait_for_trigger").item i) inner)

/-- What there is to tell of all that a reader comes to from a value at a place. -/
def Outdated (v : Value) (place : Place) (n : Notice) : Prop :=
  ∃ w q, Reached v place w q ∧ HasOldName w q n

section Inversion

variable {o : Origin} {place : Place} {n : Notice}

/-- A list is outdated where one of its items is. -/
theorem outdated_list_iff {items : List Value} : Outdated (.list o items) place n
    ↔ ∃ i u, items[i]? = some u ∧ Outdated u (place.item i) n := by
  constructor
  · rintro ⟨w, q, hreached, hold⟩
    cases hreached with
    | here => cases hold
    | item hu h => exact ⟨_, _, hu, w, q, h, hold⟩
  · rintro ⟨i, u, hu, w, q, h, hold⟩
    exact ⟨w, q, .item hu h, hold⟩

/-- A mapping is outdated by its own old names, or where one of its inner entries is. -/
theorem outdated_map_iff {es : Entries} : Outdated (.map o es) place n
    ↔ HasOldName (.map o es) place n
      ∨ ∃ key ∈ nestedKeys, ∃ u, es.get? key = some u ∧ Outdated u (place.field key) n := by
  constructor
  · rintro ⟨w, q, hreached, hold⟩
    cases hreached with
    | here => exact .inl hold
    | field hkey hu h => exact .inr ⟨_, hkey, _, hu, w, q, h, hold⟩
  · rintro (hold | ⟨key, hkey, u, hu, w, q, h, hold⟩)
    · exact ⟨_, _, .here _ _, hold⟩
    · exact ⟨w, q, .field hkey hu h, hold⟩

/-- What is no list and no mapping has no names. -/
theorem not_outdated {v : Value} (hitems : v.items? = none) (hentries : v.entries? = none) :
    ¬ Outdated v place n := by
  rintro ⟨w, q, hreached, hold⟩
  cases hreached with
  | here =>
    cases hold <;> cases hentries
  | item => cases hitems
  | field => cases hentries

/-- A mapping has the old name of an action, or one of the triggers that it waits for has that of a
platform. -/
theorem hasOldName_map_iff {es : Entries} : HasOldName (.map o es) place n
    ↔ (es.has "service" = true ∧ n = oldKey "service" "action" place es)
      ∨ ∃ i t p inner, (awaited es)[i]? = some t ∧ t.expose = .map p inner
        ∧ Entries.has inner "platform" = true
        ∧ n = oldKey "platform" "trigger" ((place.field "wait_for_trigger").item i) inner := by
  constructor
  · intro h
    cases h with
    | action hold => exact .inl ⟨hold, rfl⟩
    | trigger ht hexpose hold => exact .inr ⟨_, _, _, _, ht, hexpose, hold, rfl⟩
  · rintro (⟨hold, rfl⟩ | ⟨i, t, p, inner, ht, hexpose, hold, rfl⟩)
    · exact .action hold
    · exact .trigger ht hexpose hold

end Inversion

/-! ## Places -/

/-- A place inside another. -/
def Within (place q : Place) : Prop := q.root = place.root ∧ ∃ rest, q.steps = place.steps ++ rest

theorem Within.refl (place : Place) : Within place place := ⟨rfl, [], (List.append_nil _).symm⟩

/-- What lies in a place lies in all that the place lies in. -/
theorem Within.trans {p q r : Place} (h : Within p q) (h' : Within q r) : Within p r := by
  obtain ⟨hroot, rest, hsteps⟩ := h
  obtain ⟨hroot', rest', hsteps'⟩ := h'
  exact ⟨hroot'.trans hroot, rest ++ rest', by rw [hsteps', hsteps, List.append_assoc]⟩

/-- The place one step further in. -/
def stepIn (place : Place) (s : Step) : Place := { place with steps := place.steps ++ [s] }

theorem within_stepIn (place : Place) (s : Step) : Within place (stepIn place s) := ⟨rfl, [s], rfl⟩

/-- A place is inside one of the next steps. -/
theorem Within.step_unique {place q : Place} {s s' : Step} (h : Within (stepIn place s) q)
    (h' : Within (stepIn place s') q) : s = s' := by
  obtain ⟨-, rest, hsteps⟩ := h
  obtain ⟨-, rest', hsteps'⟩ := h'
  rw [hsteps] at hsteps'
  simp only [stepIn, List.append_assoc, List.singleton_append, List.append_cancel_left_eq,
    List.cons.injEq] at hsteps'
  exact hsteps'.1

/-- No place lies further in than itself. -/
theorem not_within_stepIn (place : Place) (s : Step) : ¬ Within (stepIn place s) place := by
  rintro ⟨-, rest, hsteps⟩
  have := congrArg List.length hsteps
  simp only [stepIn, List.length_append, List.length_singleton] at this
  omega

/-- What a reader comes to lies within where it began. Induction on the way. -/
theorem Reached.within {v w : Value} {place q : Place} (h : Reached v place w q) :
    Within place q := by
  induction h with
  | here => exact .refl _
  | item _ _ ih => exact (within_stepIn _ (.index _)).trans ih
  | field _ _ _ ih => exact (within_stepIn _ (.field _)).trans ih

/-- A place is that of one value. -/
theorem Reached.unique {v w w' : Value} {place q : Place} (h : Reached v place w q)
    (h' : Reached v place w' q) : w' = w := by
  induction h with
  | here v place =>
    cases h' with
    | here => rfl
    | @item _ _ i _ _ _ _ hu h => exact absurd h.within (not_within_stepIn place (.index i))
    | @field _ _ key _ _ _ _ hkey hu h =>
      exact absurd h.within (not_within_stepIn place (.field key))
  | @item o items i u w place q hu h ih =>
    cases h' with
    | here => exact absurd h.within (not_within_stepIn _ (.index i))
    | @item _ _ j u' _ _ _ hu' h' =>
      -- both ways lie in the same place, so they begin with the same step
      have hstep : Step.index i = .index j := h.within.step_unique h'.within
      cases hstep
      cases hu.symm.trans hu'
      exact ih h'
  | @field o es key u w place q hkey hu h ih =>
    cases h' with
    | here => exact absurd h.within (not_within_stepIn _ (.field key))
    | @field _ _ key' u' _ _ _ hkey' hu' h' =>
      have hstep : Step.field key = .field key' := h.within.step_unique h'.within
      cases hstep
      cases hu.symm.trans hu'
      exact ih h'

/-- What there is to tell is told of a place further in. -/
theorem Outdated.exists_within {v : Value} {place : Place} {n : Notice} (h : Outdated v place n) :
    ∃ old new q es, n = oldKey old new q es ∧ Within place q := by
  obtain ⟨w, q, hreached, hold⟩ := h
  cases hold with
  | action => exact ⟨_, _, _, _, rfl, hreached.within⟩
  | @trigger _ _ _ _ _ i =>
    refine ⟨_, _, _, _, rfl, hreached.within.trans ?_⟩
    exact (within_stepIn q (.field "wait_for_trigger")).trans (within_stepIn _ (.index i))

/-- Notices about old names in different places are different. -/
theorem oldKey_inj {old new old' new' : String} {place place' : Place} {es es' : Entries}
    (h : oldKey old new place es = oldKey old' new' place' es') : place = place' := by
  unfold oldKey at h
  split at h <;> split at h <;> cases h <;> rfl

/-- What there is to tell at different next steps is different. -/
theorem Outdated.step_unique {v v' : Value} {place : Place} {s s' : Step} {n : Notice}
    (h : Outdated v (stepIn place s) n) (h' : Outdated v' (stepIn place s') n) : s = s' := by
  obtain ⟨old, new, q, es, rfl, hq⟩ := h.exists_within
  obtain ⟨old', new', q', es', heq, hq'⟩ := h'.exists_within
  rw [oldKey_inj heq] at hq
  exact hq.step_unique hq'

/-- What there is to tell of a mapping by itself is told of its place, or of that of a trigger. -/
theorem HasOldName.exists_place {v : Value} {place : Place} {n : Notice}
    (h : HasOldName v place n) : ∃ old new q es, n = oldKey old new q es
      ∧ (q = place ∨ Within (stepIn place (.field "wait_for_trigger")) q) := by
  cases h with
  | action => exact ⟨_, _, _, _, rfl, .inl rfl⟩
  | trigger => exact ⟨_, _, _, _, rfl, .inr (within_stepIn _ (.index _))⟩

/-- What there is to tell of a mapping by itself is not told of what it holds. -/
theorem HasOldName.not_outdated {v u : Value} {place : Place} {n : Notice} {key : String}
    (h : HasOldName v place n) (hkey : key ∈ nestedKeys) : ¬ Outdated u (place.field key) n := by
  intro hinside
  obtain ⟨old, new, q, es, rfl, hq⟩ := hinside.exists_within
  obtain ⟨old', new', q', es', heq, hq'⟩ := h.exists_place
  rw [← oldKey_inj heq] at hq'
  rcases hq' with rfl | hq'
  · exact not_within_stepIn _ (.field key) hq
  · have hstep : Step.field key = .field "wait_for_trigger" := hq.step_unique hq'
    have hnot : "wait_for_trigger" ∉ nestedKeys := by decide
    exact hnot (Step.field.inj hstep ▸ hkey)

/-! ## What a reader tells -/

section Notices

variable {place : Place} {es : Entries} {n : Notice}

/-- There is a notice just if the old name was there. -/
theorem mem_modernKey_iff {old new : String} : n ∈ (modernKey old new place es).2
    ↔ es.has old = true ∧ n = oldKey old new place es := by
  unfold modernKey oldKey
  cases es.has old with
  | false => simp
  | true => cases es.has new <;> simp

theorem nodup_modernKey (old new : String) (place : Place) (es : Entries) :
    (modernKey old new place es).2.Nodup := by
  unfold modernKey
  split
  · split <;> exact List.nodup_singleton _
  · exact List.nodup_nil

/-- The notices about triggers are one for each mapping with an old name, in its place. -/
theorem mem_modernTriggers_cons_iff {v : Value} {items : List Value} {i : Nat} :
    n ∈ (modernTriggers place i (v :: items)).2
    ↔ (∃ p inner, v.expose = .map p inner ∧ Entries.has inner "platform" = true
        ∧ n = oldKey "platform" "trigger" (place.item i) inner)
      ∨ n ∈ (modernTriggers place (i + 1) items).2 := by
  rw [modernTriggers]
  dsimp only
  split
  · rename_i p inner hexpose
    rw [hexpose, List.mem_append, modernTrigger, mem_modernKey_iff]
    refine or_congr_left ⟨fun h => ⟨p, inner, rfl, h⟩, ?_⟩
    rintro ⟨q, inner', heq, h⟩
    cases heq
    exact h
  · rename_i hexpose
    refine (or_iff_right ?_).symm
    rintro ⟨p, inner, heq, -⟩
    exact hexpose p inner heq

/-- What is told of the triggers in a list is told of each by itself. -/
theorem mem_modernTriggers_iff {items : List Value} (i : Nat) : n ∈ (modernTriggers place i items).2
    ↔ ∃ j t p inner, items[j]? = some t ∧ t.expose = .map p inner
      ∧ Entries.has inner "platform" = true
      ∧ n = oldKey "platform" "trigger" (place.item (i + j)) inner := by
  induction items generalizing i with
  | nil => simp [modernTriggers]
  | cons v items ih =>
    rw [mem_modernTriggers_cons_iff, ih]
    constructor
    · rintro (⟨p, inner, h⟩ | ⟨j, t, p, inner, ht, hexpose, hold, rfl⟩)
      · exact ⟨0, v, p, inner, rfl, h⟩
      · exact ⟨j + 1, t, p, inner, ht, hexpose, hold, by rw [Nat.add_right_comm, Nat.add_assoc]⟩
    · rintro ⟨j, t, p, inner, ht, hexpose, hold, rfl⟩
      cases j with
      | zero =>
        cases ht
        exact .inl ⟨p, inner, hexpose, hold, rfl⟩
      | succ j => exact .inr ⟨j, t, p, inner, ht, hexpose, hold, by
          rw [Nat.add_right_comm, Nat.add_assoc]⟩

/-- Each trigger has a place of its own, so no notice comes twice. -/
theorem nodup_modernTriggers (place : Place) (items : List Value) (i : Nat) :
    (modernTriggers place i items).2.Nodup := by
  induction items generalizing i with
  | nil => exact List.nodup_nil
  | cons v items ih =>
    rw [modernTriggers]
    dsimp only
    split
    · refine List.nodup_append.2 ⟨nodup_modernKey .., ih (i + 1), fun n hn m hm heq => ?_⟩
      subst heq
      obtain ⟨-, rfl⟩ := mem_modernKey_iff.1 hn
      obtain ⟨j, t, p, inner, -, -, -, heq⟩ := (mem_modernTriggers_iff (i + 1)).1 hm
      have := Place.item_inj.1 (oldKey_inj heq)
      omega
    · exact ih (i + 1)

/-- The triggers of a wait are those that its entries wait for. -/
theorem modernWait_notices (place : Place) (es : Entries) : (modernWait place es).2
    = (modernTriggers (place.field "wait_for_trigger") 0 (awaited es)).2 := by
  unfold modernWait awaited
  generalize (es.get "wait_for_trigger").expose = v
  cases v <;> rfl

/-- Other fields than those of the two names are left alone. -/
theorem get?_modernKey_of_ne {old new name : String} (hold : old ≠ name) (hnew : new ≠ name) :
    (modernKey old new place es).1.get? name = es.get? name := by
  unfold modernKey
  split
  · split
    · exact Entries.get?_erase_of_ne hold
    · exact Entries.get?_rename_of_ne hold hnew
  · rfl

/-- One field of a mapping, with present names if it holds further entries. -/
def modernField (place : Place) (e : Value × Value) : (Value × Value) × List Notice :=
  match e.1 with
  | .str key =>
    if nestedKeys.contains key then
      ((e.1, (modernNested (place.field key) e.2).1), (modernNested (place.field key) e.2).2)
    else (e, [])
  | _ => (e, [])

theorem modernField_key (place : Place) (e : Value × Value) :
    (modernField place e).1.1 = e.1 := by
  unfold modernField
  split
  · split <;> rfl
  · rfl

/-- Fields are read one by one. -/
theorem modernFields_eq_map (place : Place) (es : Entries) :
    modernFields place es = es.map (modernField place) := by
  induction es with
  | nil => rw [modernFields, List.map_nil]
  | cons e es ih =>
    obtain ⟨k, v⟩ := e
    unfold modernFields
    refine congrArg₂ List.cons ?_ ih
    cases k <;> rfl

/-- A field with inner entries is read further in. -/
theorem modernField_of_nested {key : String} (hkey : key ∈ nestedKeys) (v : Value) :
    modernField place (.str key, v)
      = ((.str key, (modernNested (place.field key) v).1), (modernNested (place.field key) v).2) := by
  rw [modernField]
  exact if_pos (List.contains_iff_mem.2 hkey)

/-- Other fields are left as they are. -/
theorem modernField_of_not_nested {k : Value} (h : ∀ key ∈ nestedKeys, k.isText key = false)
    (v : Value) : modernField place (k, v) = ((k, v), []) := by
  cases k with
  | str key =>
    rw [modernField]
    refine if_neg fun hkey => ?_
    have := h key (List.contains_iff_mem.1 hkey)
    rw [isText_str, beq_self_eq_true] at this
    cases this
  | _ => rfl

/-- What is told of an old key is told from the keys alone. -/
theorem modernKey_notices_congr {old new : String} {es es' : Entries}
    (hold : es.get? old = es'.get? old) (hnew : es.get? new = es'.get? new) :
    (modernKey old new place es).2 = (modernKey old new place es').2 := by
  unfold modernKey
  rw [Entries.has_eq_isSome_get?, Entries.has_eq_isSome_get?, Entries.has_eq_isSome_get?,
    Entries.has_eq_isSome_get?, hold, hnew]
  split
  · split <;> rfl
  · rfl

theorem awaited_congr {es es' : Entries}
    (h : es.get? "wait_for_trigger" = es'.get? "wait_for_trigger") : awaited es = awaited es' := by
  unfold awaited Entries.get
  rw [h]

/-- What is told of a mapping: its own old names, and what is told further in. -/
theorem joinFields_notices (hdistinct : es.Distinct) :
    (joinFields place (modernFields place es)).2
      = (modernAction place es).2
        ++ (modernTriggers (place.field "wait_for_trigger") 0 (awaited es)).2
        ++ nestedKeys.flatMap fun key =>
          ((es.get? key).map fun v => (modernNested (place.field key) v).2).getD [] := by
  have hplain (name : String) (h : name ∉ nestedKeys) :
      Entries.get? ((modernFields place es).map (·.1)) name = es.get? name :=
    get?_modernFields h
  -- reading the inner entries first changes neither the name of the action nor what it waits for
  have hrenamed : (modernAction place ((modernFields place es).map (·.1))).2
      = (modernAction place es).2 :=
    modernKey_notices_congr (hplain "service" (by decide)) (hplain "action" (by decide))
  have hwaits : awaited (modernAction place ((modernFields place es).map (·.1))).1 = awaited es :=
    awaited_congr ((get?_modernKey_of_ne (by decide) (by decide)).trans
      (hplain "wait_for_trigger" (by decide)))
  show (modernAction place _).2 ++ (modernWait place (modernAction place _).1).2 ++ _ = _
  rw [hrenamed, modernWait_notices, hwaits]
  congr 1
  refine List.flatMap_congr fun key hkey => ?_
  have hfilter : (modernFields place es).filter (·.1.1.isText key)
      = (es.filter (·.1.isText key)).map (modernField place) := by
    rw [modernFields_eq_map, List.filter_map]
    congr 2
    funext e
    rw [Function.comp_apply, modernField_key]
  rw [hfilter, Entries.filter_isText_of_distinct hdistinct]
  cases es.get? key with
  | none => rfl
  | some v =>
    show (modernField place (.str key, v)).2 ++ [] = _
    rw [modernField_of_nested hkey, List.append_nil]
    rfl

/-- What is told of a mapping by itself is what there is to tell of it. -/
theorem mem_modernOwn_iff {o : Origin} : n ∈ (modernAction place es).2
      ++ (modernTriggers (place.field "wait_for_trigger") 0 (awaited es)).2
    ↔ HasOldName (.map o es) place n := by
  rw [List.mem_append, modernAction, mem_modernKey_iff, mem_modernTriggers_iff, hasOldName_map_iff]
  simp only [Nat.zero_add]

/-- The notice about an action differs from those about the triggers that it waits for. -/
theorem nodup_modernOwn (place : Place) (es : Entries) : ((modernAction place es).2
    ++ (modernTriggers (place.field "wait_for_trigger") 0 (awaited es)).2).Nodup := by
  refine List.nodup_append.2 ⟨nodup_modernKey .., nodup_modernTriggers .., ?_⟩
  intro n hn m hm heq
  subst heq
  obtain ⟨-, rfl⟩ := mem_modernKey_iff.1 hn
  obtain ⟨j, t, p, inner, -, -, -, heq⟩ := (mem_modernTriggers_iff 0).1 hm
  have hwithin : Within (stepIn place (.field "wait_for_trigger"))
      ((place.field "wait_for_trigger").item (0 + j)) := within_stepIn _ (.index _)
  rw [← oldKey_inj heq] at hwithin
  exact not_within_stepIn place (.field "wait_for_trigger") hwithin

/-! ## The notices of all that is inside -/

theorem mem_notices_iff {key : String} {f : Value → List Notice} :
    n ∈ ((es.get? key).map f).getD [] ↔ ∃ u, es.get? key = some u ∧ n ∈ f u := by
  cases es.get? key with
  | none => simp
  | some u => simp

theorem modernNested_of_plain {v : Value} (hitems : v.items? = none) (hentries : v.entries? = none)
    (place : Place) : modernNested place v = (v, []) := by
  cases v <;> first
    | rfl
    | (cases hitems; done)
    | cases hentries

/-- The notices about a list are those about its items, each in its place. Induction on the
items. -/
theorem mem_modernItems_iff {items : List Value}
    (h : ∀ v ∈ items, ∀ place, n ∈ (modernNested place v).2 ↔ Outdated v place n) (i : Nat) :
    n ∈ (modernItems place i items).2
      ↔ ∃ j u, items[j]? = some u ∧ Outdated u (place.item (i + j)) n := by
  induction items generalizing i with
  | nil => simp [modernItems]
  | cons v items ih =>
    obtain ⟨hv, hitems⟩ := List.forall_mem_cons.1 h
    rw [modernItems]
    dsimp only
    rw [List.mem_append, hv, ih hitems]
    -- places are counted from the first item, and the rest begins one further on
    constructor
    · rintro (hold | ⟨j, u, hu, hold⟩)
      · exact ⟨0, v, rfl, hold⟩
      · exact ⟨j + 1, u, hu, by rwa [Nat.add_right_comm, Nat.add_assoc] at hold⟩
    · rintro ⟨j, u, hu, hold⟩
      cases j with
      | zero =>
        cases hu
        exact .inl hold
      | succ j => exact .inr ⟨j, u, hu, by rwa [Nat.add_right_comm, Nat.add_assoc]⟩

/-- A reader tells the old names of all that it comes to, and nothing else. -/
theorem mem_modernNested_iff {v : Value} (honce : v.keysOnce = true) :
    n ∈ (modernNested place v).2 ↔ Outdated v place n := by
  induction v using Value.walk generalizing place with
  | list o items ih =>
    rw [modernNested, outdated_list_iff]
    dsimp only
    rw [mem_modernItems_iff fun v hv place => ih v hv (keysOnce_of_mem honce hv)]
    simp only [Nat.zero_add]
  | map o es ih =>
    rw [modernNested, outdated_map_iff]
    dsimp only
    rw [joinFields_notices (distinct_of_keysOnce honce), List.mem_append]
    -- a notice is about the mapping itself, or about one of its inner entries
    refine or_congr mem_modernOwn_iff ?_
    rw [List.mem_flatMap]
    refine exists_congr fun key => and_congr_right fun hkey => mem_notices_iff.trans ?_
    refine exists_congr fun u => and_congr_right fun hu => ?_
    have hmem := Entries.mem_of_get?_eq_some hu
    exact ih _ hmem (keysOnce_of_mem_entries honce hmem)
  | plain v hitems hentries =>
    rw [modernNested_of_plain hitems hentries]
    exact iff_of_false List.not_mem_nil (not_outdated hitems hentries)

/-- No notice about a list comes twice, since its items have different places. -/
theorem nodup_modernItems {items : List Value} (honce : ∀ v ∈ items, v.keysOnce = true)
    (h : ∀ v ∈ items, ∀ place, (modernNested place v).2.Nodup) (i : Nat) :
    (modernItems place i items).2.Nodup := by
  induction items generalizing i with
  | nil => exact List.nodup_nil
  | cons v items ih =>
    obtain ⟨hv, hitems⟩ := List.forall_mem_cons.1 h
    obtain ⟨hvOnce, hitemsOnce⟩ := List.forall_mem_cons.1 honce
    rw [modernItems]
    refine List.nodup_append.2 ⟨hv _, ih hitemsOnce hitems (i + 1), fun n hn m hm heq => ?_⟩
    subst heq
    have hfirst := (mem_modernNested_iff hvOnce).1 hn
    obtain ⟨j, u, -, hrest⟩ := (mem_modernItems_iff
      (fun v hv place => mem_modernNested_iff (hitemsOnce v hv)) (i + 1)).1 hm
    have hstep : Step.index i = .index (i + 1 + j) := hfirst.step_unique hrest
    have := Step.index.inj hstep
    omega

/-- A reader tells nothing twice. -/
theorem nodup_modernNested (place : Place) {v : Value} (honce : v.keysOnce = true) :
    (modernNested place v).2.Nodup := by
  induction v using Value.walk generalizing place with
  | list o items ih =>
    rw [modernNested]
    exact nodup_modernItems (fun v => keysOnce_of_mem honce)
      (fun v hv place => ih v hv place (keysOnce_of_mem honce hv)) 0
  | map o es ih =>
    rw [modernNested]
    dsimp only
    rw [joinFields_notices (distinct_of_keysOnce honce)]
    -- what is told further in is told of a place under the key of its field
    have hnested {n : Notice} {key : String}
        (hn : n ∈ ((es.get? key).map fun v => (modernNested (place.field key) v).2).getD []) :
        ∃ u, Outdated u (place.field key) n := by
      obtain ⟨u, hu, hn⟩ := mem_notices_iff.1 hn
      have hmem := Entries.mem_of_get?_eq_some hu
      exact ⟨u, (mem_modernNested_iff (keysOnce_of_mem_entries honce hmem)).1 hn⟩
    refine List.nodup_append.2 ⟨nodup_modernOwn place es, List.nodup_flatMap.2 ⟨?fields, ?apart⟩,
      ?inside⟩
    case fields =>
      intro key hkey
      cases hget : es.get? key with
      | none => exact List.nodup_nil
      | some u =>
        have hmem := Entries.mem_of_get?_eq_some hget
        exact ih _ hmem _ (keysOnce_of_mem_entries honce hmem)
    case apart =>
      have hkeys : nestedKeys.Pairwise (· ≠ ·) := by decide
      refine hkeys.imp fun hne n hn hm => hne ?_
      obtain ⟨u, hu⟩ := hnested hn
      obtain ⟨w, hw⟩ := hnested hm
      exact Step.field.inj (hu.step_unique hw)
    case inside =>
      intro n hn m hm heq
      subst heq
      obtain ⟨key, hkey, hm⟩ := List.mem_flatMap.1 hm
      obtain ⟨u, hu⟩ := hnested hm
      exact ((mem_modernOwn_iff (o := o)).1 hn).not_outdated hkey hu
  | plain v hitems hentries =>
    rw [modernNested_of_plain hitems hentries]
    exact List.nodup_nil

end Notices

end Entry

end Automation
