import Automation.Proofs.Condition.Form
import Automation.Proofs.Entry.Once
import Automation.Proofs.Graph.Restorable
import Automation.Proofs.Value.Height

/-!
# Conditions that normalizing leaves as they are

What normalizing leaves as it is (`Condition.IsFixed`) has the canonical form, wherever it was
written (`Condition.Formed`). Such a condition is at least as high after it was read
(`Condition.height_expose_le`). So if it also counts as the same, then it stands in full
(`Condition.expose_eq_of_same`): no group that normalizing leaves as it is contains itself, and the
list that it is written as is read as the group (`Condition.IsNormal.payload_conditionsOf`).
-/

namespace Automation

namespace Value

/-- An entry of a mapping that is found in another has its counterpart there. -/
theorem exists_of_entriesIn {es others : Entries} {name : String} {v : Value}
    (h : entriesIn es others = true) (hothers : others.Distinct) (hv : es.get? name = some v) :
    ∃ w, others.get? name = some w ∧ v.agrees w = true := by
  induction es with
  | nil => cases hv
  | cons e es ih =>
    obtain ⟨k, u⟩ := e
    rw [entriesIn, Bool.and_eq_true] at h
    rw [Entries.get?_cons] at hv
    split at hv
    · rename_i hk
      cases hv
      obtain ⟨⟨l, w⟩, hmem, hkey⟩ := List.any_eq_true.1 h.1
      rw [Bool.and_eq_true] at hkey
      have hl : k.agrees l = true := hkey.1
      rw [isText_iff.1 hk, str_agrees, isText_iff] at hl
      subst hl
      exact ⟨w, Entries.get?_of_mem hothers hmem, hkey.2⟩
    · exact ih h.2 hv

/-- A field of a mapping has its counterpart in every mapping that is the same. -/
theorem exists_of_same_field {o : Origin} {es others : Entries} {name : String} {v : Value}
    (h : (ofEntries es).same (map o others) = true) (hothers : others.Distinct)
    (hv : es.get? name = some v) : ∃ w, others.get? name = some w ∧ v.agrees w = true := by
  obtain ⟨p, others', heq, -, hes⟩ := exists_of_same_map h
  cases heq
  exact exists_of_entriesIn hes hothers hv

theorem get?_fillEntries (o : Origin) (new : Value) (es : Entries) (name : String) :
    Entries.get? (fillEntries o new es) name = (es.get? name).map (fill o new) := by
  induction es with
  | nil => rfl
  | cons e es ih =>
    obtain ⟨k, v⟩ := e
    rw [fillEntries, Entries.get?_cons, Entries.get?_cons, ih]
    split <;> rfl

theorem fillItems_eq_map (o : Origin) (new : Value) (items : List Value) :
    fillItems o new items = items.map (fill o new) := by
  induction items with
  | nil => rfl
  | cons v items ih => rw [fillItems, ih, List.map_cons]

end Value

namespace Condition

open Entries Value

/-! ## Canonical form, wherever it was written -/

/-- A mapping in canonical form, whatever the origins of its parts are. -/
inductive Formed : Value → Prop where
  | single {o : Origin} {es : Entries} {kind : String}
    (hkind : es.get? "condition" = some (.str kind)) (hplain : hasTemplate kind.toList = false)
    (hsingle : groupKinds.contains kind = false) : Formed (.map o es)
  | group {o p : Origin} {es : Entries} {kind : String} {parts : List Value}
    (hkind : es.get? "condition" = some (.str kind)) (hgroup : groupKinds.contains kind = true)
    (hparts : es.get? "conditions" = some (.list p parts))
    (hformed : ∀ part ∈ parts, Formed part) : Formed (.map o es)

/-- What is the same as a mapping in canonical form has that form too. -/
theorem Form.formed_of_same {es : Entries} {depth size : Nat} (h : Form es depth size) :
    ∀ v : Value, (ofEntries es).same v = true → v.keysOnce = true → Formed v := by
  -- for the parts of a group the same is said of their list
  refine @Form.rec
    (fun es _ _ _ => ∀ v, (ofEntries es).same v = true → v.keysOnce = true → Formed v)
    (fun parts _ _ _ => ∀ vs, sameItems parts vs = true → (∀ v ∈ vs, v.keysOnce = true) →
      ∀ v ∈ vs, Formed v)
    ?single ?group ?nil ?cons es depth size h
  case single =>
    intro es kind hkind hplain hsingle v hsame honce
    obtain ⟨p, others, rfl, -, hes⟩ := exists_of_same_map hsame
    obtain ⟨w, hw, hagrees⟩ := exists_of_entriesIn hes (keysOnce_map_iff.1 honce).1 hkind
    rw [str_agrees, isText_iff] at hagrees
    subst hagrees
    exact .single hw hplain hsingle
  case group =>
    intro es kind parts depth size hkind hgroup hparts _ ih v hsame honce
    obtain ⟨p, others, rfl, -, hes⟩ := exists_of_same_map hsame
    obtain ⟨hdistinct, hall⟩ := keysOnce_map_iff.1 honce
    obtain ⟨w, hw, hagrees⟩ := exists_of_entriesIn hes hdistinct hkind
    rw [str_agrees, isText_iff] at hagrees
    subst hagrees
    obtain ⟨w, hw', hagrees⟩ := exists_of_entriesIn hes hdistinct hparts
    obtain ⟨q, vs, rfl, hitems⟩ := exists_of_same_list (o := {}) hagrees
    exact .group hw hgroup hw'
      (ih vs hitems (keysOnce_list_iff.1 (hall _ (mem_of_get?_eq_some hw'))))
  case nil =>
    intro vs hvs _
    rw [sameItems, List.isEmpty_iff] at hvs
    simp [hvs]
  case cons =>
    intro es rest _ _ _ _ _ _ ihFirst ihRest vs hvs honce
    cases vs with
    | nil => simp [sameItems] at hvs
    | cons v vs =>
      rw [sameItems, Bool.and_eq_true] at hvs
      obtain ⟨hv, hothers⟩ := List.forall_mem_cons.1 honce
      exact List.forall_mem_cons.2 ⟨ihFirst v hvs.1 hv, ihRest vs hvs.2 hothers⟩

theorem Formed.exists_eq_map {v : Value} (h : Formed v) : ∃ o es, v = .map o es := by
  cases h <;> exact ⟨_, _, rfl⟩

/-- The form does not depend on what a collection inside is replaced by. -/
theorem Formed.fillEntries {v : Value} (h : Formed v) (o : Origin) (new : Value) :
    ∀ p es, v = .map p es → Formed (.map p (fillEntries o new es)) := by
  induction h with
  | single hkind hplain hsingle =>
    rintro p es ⟨⟩
    refine .single ?_ hplain hsingle
    rw [get?_fillEntries, hkind]
    rfl
  | @group _ q es kind parts hkind hgroup hparts hformed ih =>
    rintro p es ⟨⟩
    have hkind' : Entries.get? (Value.fillEntries o new es) "condition" = some (.str kind) := by
      rw [get?_fillEntries, hkind]
      rfl
    have hparts' : Entries.get? (Value.fillEntries o new es) "conditions"
        = some (fill o new (.list q parts)) := by
      rw [get?_fillEntries, hparts]
      rfl
    -- either the list is replaced as a whole, or each of its conditions is gone through
    rw [fill] at hparts'
    split at hparts'
    · exact .group hkind' hgroup hparts' hformed
    · refine .group hkind' hgroup hparts' ?_
      rw [fillItems_eq_map, List.forall_mem_map]
      intro part hpart
      obtain ⟨r, inner, rfl⟩ := (hformed part hpart).exists_eq_map
      rw [fill]
      split
      · exact hformed _ hpart
      · exact ih _ hpart r inner rfl

theorem Formed.fill {v : Value} (h : Formed v) (o : Origin) (new : Value) :
    Formed (Value.fill o new v) := by
  obtain ⟨p, es, rfl⟩ := h.exists_eq_map
  rw [Value.fill]
  split
  · exact h
  · exact h.fillEntries o new p es rfl

/-- A condition in full has the form of the condition. -/
theorem Formed.expose {v : Value} (h : Formed v) : Formed v.expose := by
  obtain ⟨p, es, rfl⟩ := h.exists_eq_map
  show Formed (.map p (partEntries p (.map p es) es))
  unfold partEntries
  split
  · exact h.fillEntries p (.map p es) p es rfl
  · exact h

theorem formed_of_mem_partItems {o : Origin} {whole : Value} {parts : List Value}
    (h : ∀ part ∈ parts, Formed part) : ∀ part ∈ partItems o whole parts, Formed part := by
  unfold partItems
  split
  · rw [fillItems_eq_map, List.forall_mem_map]
    exact fun part hpart => (h part hpart).fill o whole
  · exact h

/-! ## Reading what has the form -/

/-- A reader makes a condition of a value, wherever its count stands. -/
def IsReadAs (limits : Limits) (levels : Nat) (v : Value) (c : Condition) : Prop :=
  ∃ before after, (read limits levels v).run before = .ok (c, after)

/-- What is read does not depend on the limits. -/
theorem IsReadAs.unique {limits limits' : Limits} {levels levels' : Nat} {v : Value}
    {c c' : Condition} (h : IsReadAs limits levels v c) (h' : IsReadAs limits' levels' v c') :
    c' = c := by
  obtain ⟨before, after, hread⟩ := h
  obtain ⟨before', after', hread'⟩ := h'
  obtain ⟨depth, size, -, hmeasured⟩ := exists_measured hread
  have hhinges := hmeasured.hinges limits' levels' before'
  rw [hhinges.accepts (hhinges.holds hread')] at hread'
  cases hread'
  rfl

/-- Nothing is read without a level. -/
theorem IsReadAs.exists_succ {limits : Limits} {levels : Nat} {v : Value} {c : Condition}
    (h : IsReadAs limits levels v c) : ∃ below, IsReadAs limits (below + 1) v c := by
  cases levels with
  | zero =>
    obtain ⟨before, after, h⟩ := h
    cases h
  | succ below => exact ⟨below, h⟩

theorem exists_of_normalize {limits : Limits} {v : Value} {es : Entries}
    (h : normalize limits v = .ok es) :
    ∃ c, IsReadAs limits (limits.maxConditionDepth + 1).toNat v c ∧ es = toEntries c := by
  rw [normalize_eq] at h
  obtain ⟨⟨c, after⟩, hread, h⟩ := Outcome.bind_eq_ok.1 h
  cases h
  exact ⟨c, ⟨0, after, hread⟩, rfl⟩

/-- What a reader makes of a value in canonical form, with some levels left for its parts. -/
inductive Reading (limits : Limits) (levels : Nat) (v : Value) : Condition → Prop where
  | single {o : Origin} {es : Entries} {kind : String} (hexpose : v.expose = .map o es)
    (hkind : es.get? "condition" = some (.str kind))
    (hsingle : groupKinds.contains kind = false) :
    Reading limits levels v (.mk kind (es.erase "condition") [])
  | group {o p : Origin} {es : Entries} {kind : String} {parts : List Value} {cs : List Condition}
    (hexpose : v.expose = .map o es) (hkind : es.get? "condition" = some (.str kind))
    (hgroup : groupKinds.contains kind = true)
    (hparts : es.get? "conditions" = some (.list p parts)) (hformed : ∀ part ∈ parts, Formed part)
    (hcs : List.Forall₂ (IsReadAs limits levels) (partItems p (.list p parts) parts) cs) :
    Reading limits levels v (.mk kind ((es.erase "condition").erase "conditions") cs)

/-- The kind of a mapping in canonical form is what it has as its kind. -/
theorem kindOf?_of_get? (v : Value) {es : Entries} {kind : String}
    (hkind : es.get? "condition" = some (.str kind)) (hplain : hasTemplate kind.toList = false) :
    kindOf? v es = .ok (kind, es.erase "condition") := by
  unfold kindOf?
  rw [Entries.get, hkind]
  dsimp only [Option.getD_some]
  rw [hplain]
  rfl

theorem hasTemplate_of_group {kind : String} (h : groupKinds.contains kind = true) :
    hasTemplate kind.toList = false := by
  have hall : ∀ group ∈ groupKinds, hasTemplate group.toList = false := by decide
  exact hall kind (List.contains_iff_mem.1 h)

theorem Formed.reading {limits : Limits} {levels : Nat} {v : Value} {c : Condition} (hv : Formed v)
    (h : IsReadAs limits (levels + 1) v c) : Reading limits levels v c := by
  obtain ⟨before, after, h⟩ := h
  replace h := of_counted_eq_ok (show (counted limits _).run before = _ by rwa [read] at h)
  obtain ⟨o, es, hexpose⟩ := hv.expose.exists_eq_map
  have hform := hv.expose
  rw [hexpose] at h hform
  dsimp only at h
  -- what is read depends on the kind: a group has parts that are read one level further down
  cases hform with
  | @single _ _ kind hkind hplain hsingle =>
    rw [kindOf?_of_get? v hkind hplain] at h
    dsimp only at h
    rw [hsingle] at h
    cases h
    exact .single hexpose hkind hsingle
  | @group _ p _ kind parts hkind hgroup hparts hformed =>
    have hpartsOf : partsOf (Entries.erase es "condition") = partItems p (.list p parts) parts := by
      unfold partsOf
      rw [get?_erase_of_ne (by decide), hparts]
      rfl
    rw [kindOf?_of_get? v hkind (hasTemplate_of_group hgroup)] at h
    dsimp only at h
    rw [if_pos hgroup, hpartsOf] at h
    obtain ⟨⟨cs, last⟩, hcs, h⟩ := run_bind_eq_ok.1 h
    cases h
    exact .group hexpose hkind hgroup hparts hformed (forall₂_of_mapM_run_eq_ok hcs)

/-! ## What was read is at least as high -/

/-- The canonical form of a condition has every entry of its options. -/
theorem mem_toEntries_of_mem {e : Value × Value} {kind : String} {options : Entries}
    (h : e ∈ options) (parts : List Condition) : e ∈ toEntries (mk kind options parts) := by
  rw [toEntries, List.cons_append]
  exact List.mem_cons_of_mem _ (List.mem_append_left _ h)

/-- The fields of a canonical form, those of the parts of a group apart. -/
theorem get?_toEntries {kind name : String} (options : Entries) (parts : List Condition)
    (h : groupKinds.contains kind = false ∨ name ≠ "conditions") :
    (toEntries (mk kind options parts)).get? name
      = if "condition" = name then some (.str kind) else options.get? name := by
  have hlast : Entries.get? (if groupKinds.contains kind then
      [(.str "conditions", .ofItems (toValues parts))] else []) name = none := by
    rcases h with h | h
    · rw [h]
      rfl
    · split
      · rw [get?_cons_str, if_neg (Ne.symm h), get?_nil]
      · rfl
  rw [toEntries, List.cons_append, get?_cons_str, get?_append, hlast, Option.or_none]

/-- A condition with the kind and the options of a mapping has the fields of the mapping, those of
the parts of a group apart. -/
theorem get?_toEntries_of_kind {kind name : String} {es options : Entries} (parts : List Condition)
    (hkind : es.get? "condition" = some (.str kind))
    (hoptions : "condition" ≠ name → options.get? name = es.get? name)
    (h : groupKinds.contains kind = false ∨ name ≠ "conditions") :
    (toEntries (mk kind options parts)).get? name = es.get? name := by
  rw [get?_toEntries _ _ h]
  split
  · rename_i hname
    rw [← hname, hkind]
  · rename_i hname
    exact hoptions hname

section Height

variable {limits : Limits} {levels : Nat}

/-- The parts of a group are at least as high when they were read as in full, if each of them is. -/
theorem height_expose_parts_le {p : Origin} {parts : List Value} {cs : List Condition}
    (hle : ∀ {v c}, Formed v → v.keysOnce = true → IsReadAs limits levels v c →
      v.expose.height ≤ (Value.ofEntries (toEntries c)).height)
    (hformed : ∀ part ∈ parts, Formed part) (honce : (Value.list p parts).keysOnce = true)
    (hcs : List.Forall₂ (IsReadAs limits levels) (partItems p (.list p parts) parts) cs) :
    (Value.list p parts).expose.height ≤ (Value.ofItems (toValues cs)).height := by
  have hformed' : ∀ part ∈ partItems p (.list p parts) parts, Formed part :=
    formed_of_mem_partItems hformed
  have honce' : ∀ part ∈ partItems p (.list p parts) parts, part.keysOnce = true :=
    keysOnce_partItems honce (keysOnce_list_iff.1 honce)
  refine Nat.succ_le_succ ?_
  -- part by part, what is read is no lower than what was there
  generalize partItems p (.list p parts) parts = items at hcs hformed' honce'
  induction hcs with
  | nil => exact Nat.le_refl _
  | @cons v c _ _ hread _ ih =>
    obtain ⟨hv, hformed'⟩ := List.forall_mem_cons.1 hformed'
    obtain ⟨hvOnce, honce'⟩ := List.forall_mem_cons.1 honce'
    rw [toValues, itemsHeight, itemsHeight]
    have hfirst := Nat.le_trans (height_le_expose v) (hle hv hvOnce hread)
    have hrest := ih hformed' honce'
    omega

/-- A condition in canonical form is at least as high when it was read as in full. -/
theorem height_expose_le {v : Value} {c : Condition} (hv : Formed v) (honce : v.keysOnce = true)
    (h : IsReadAs limits levels v c) :
    v.expose.height ≤ (Value.ofEntries (toEntries c)).height := by
  induction levels generalizing v c with
  | zero =>
    obtain ⟨before, after, h⟩ := h
    cases h
  | succ levels ih =>
    have honce' := keysOnce_expose honce
    cases hv.reading h with
    | @single o es kind hexpose hkind hsingle =>
      rw [hexpose] at honce' ⊢
      have hdistinct := distinct_of_keysOnce honce'
      refine Nat.succ_le_succ (entriesHeight_le_iff.2 fun e he => ?_)
      by_cases hcondition : e.1.isText "condition" = true
      · rw [← Option.some.inj (hkind.symm.trans (get?_of_mem_of_isText hdistinct he hcondition))]
        exact Nat.zero_le _
      · exact height_le_of_mem_entries
          (mem_toEntries_of_mem (List.mem_filter.2 ⟨he, by simpa using hcondition⟩) [])
    | @group o p es kind parts cs hexpose hkind hgroup hparts hformed hcs =>
      rw [hexpose] at honce' ⊢
      obtain ⟨hdistinct, hall⟩ := keysOnce_map_iff.1 honce'
      refine Nat.succ_le_succ (entriesHeight_le_iff.2 fun e he => ?_)
      by_cases hcondition : e.1.isText "condition" = true
      · rw [← Option.some.inj (hkind.symm.trans (get?_of_mem_of_isText hdistinct he hcondition))]
        exact Nat.zero_le _
      -- only the conditions of a group are written anew, and these are read with a level less
      by_cases hconditions : e.1.isText "conditions" = true
      · have honceParts := hall e he
        rw [← Option.some.inj
          (hparts.symm.trans (get?_of_mem_of_isText hdistinct he hconditions))] at honceParts ⊢
        calc (Value.list p parts).height
            ≤ (Value.list p parts).expose.height := height_le_expose _
          _ ≤ (Value.ofItems (toValues cs)).height :=
            height_expose_parts_le ih hformed honceParts hcs
          _ ≤ _ := height_le_of_mem_entries (mem_of_get?_eq_some
            (get?_toEntries_parts cs hgroup (has_erase ..)))
      · refine height_le_of_mem_entries (mem_toEntries_of_mem ?_ cs)
        exact List.mem_filter.2 ⟨List.mem_filter.2 ⟨he, by simpa using hcondition⟩,
          by simpa using hconditions⟩

/-- What counts as the same as what was read of it stands in full. -/
theorem expose_eq_of_same {v : Value} {c : Condition} (hv : Formed v) (honce : v.keysOnce = true)
    (h : IsReadAs limits levels v c) (hsame : (Value.ofEntries (toEntries c)).same v = true) :
    v.expose = v :=
  expose_eq_of_height_le (Nat.le_trans (height_expose_le hv honce h) (height_le_of_same _ _ hsame))

end Height

/-- The parts of a group that counts as the same as what was read of it stand in full, and count as
the same as what was read of them. -/
theorem sameItems_of_same {limits : Limits} {levels : Nat} {o p : Origin} {es options : Entries}
    {kind : String} {parts : List Value} {cs : List Condition}
    (hsame : (Value.ofEntries (toEntries (mk kind options cs))).same (.map o es) = true)
    (honce : (Value.map o es).keysOnce = true) (hgroup : groupKinds.contains kind = true)
    (hoptions : options.has "conditions" = false)
    (hparts : es.get? "conditions" = some (.list p parts)) (hformed : ∀ part ∈ parts, Formed part)
    (hcs : List.Forall₂ (IsReadAs limits levels) (partItems p (.list p parts) parts) cs) :
    (Value.list p parts).expose = .list p parts ∧ sameItems (toValues cs) parts = true := by
  obtain ⟨hdistinct, hall⟩ := keysOnce_map_iff.1 honce
  obtain ⟨w, hw, hagrees⟩ := exists_of_same_field hsame hdistinct
    (get?_toEntries_parts cs hgroup hoptions)
  cases hparts.symm.trans hw
  refine ⟨expose_eq_of_height_le ?_, hagrees⟩
  exact Nat.le_trans
    (height_expose_parts_le height_expose_le hformed (hall _ (mem_of_get?_eq_some hparts)) hcs)
    (height_le_of_same _ _ hagrees)

/-! ## What is left as it is -/

/-- A condition that normalizing leaves as it is, under some limits. -/
def IsFixed (v : Value) : Prop :=
  ∃ limits es, normalize limits v = .ok es ∧ (Value.ofEntries es).same v = true

theorem IsNormal.isFixed {limits : Limits} {data : Entries} (h : IsNormal limits data) :
    IsFixed (.ofEntries data) := by
  obtain ⟨es, hes, hsame⟩ := h
  exact ⟨limits, es, hes, hsame⟩

theorem IsFixed.formed {v : Value} (h : IsFixed v) (honce : v.keysOnce = true) : Formed v := by
  obtain ⟨limits, es, hes, hsame⟩ := h
  obtain ⟨depth, size, hform, -⟩ := hinges_normalize hes
  exact hform.formed_of_same v hsame honce

/-- Whatever reads a condition that is left as it is leaves it as it is. -/
theorem IsFixed.same_of_isReadAs {limits : Limits} {levels : Nat} {v : Value} {c : Condition}
    (h : IsFixed v) (hc : IsReadAs limits levels v c) :
    (Value.ofEntries (toEntries c)).same v = true := by
  obtain ⟨limits', es, hes, hsame⟩ := h
  obtain ⟨c', hc', rfl⟩ := exists_of_normalize hes
  rwa [hc'.unique hc]

/-- The parts of an `and` group that is left as it is stand in full. -/
theorem IsFixed.expose_conditions {data : Entries} (h : IsFixed (.ofEntries data))
    (honce : (Value.ofEntries data).keysOnce = true)
    (hand : (data.get "condition").isText "and" = true) :
    (data.get "conditions").expose = data.get "conditions" := by
  have hformed := h.formed honce
  obtain ⟨limits, es, hes, hsame⟩ := h
  obtain ⟨c, hread, rfl⟩ := exists_of_normalize hes
  obtain ⟨levels, hread⟩ := hread.exists_succ
  have hget {name : String} {v : Value} (hv : data.get? name = some v) : data.get name = v := by
    rw [Entries.get, hv]
    rfl
  -- a group that held itself would be lower than what is read from it
  cases hformed.reading hread with
  | single hexpose hkind hsingle =>
    cases hexpose
    rw [hget hkind, isText_iff] at hand
    cases hand
    cases hsingle
  | group hexpose hkind hgroup hlist hparts hcs =>
    cases hexpose
    rw [hget hlist]
    exact (sameItems_of_same hsame honce hgroup (has_erase ..) hlist hparts hcs).1

/-- The conditions of a node that normalizing leaves as it is are read as its payload. -/
theorem IsNormal.payload_conditionsOf {limits limits' : Limits} {n : Node}
    (h : IsNormal limits n.data) (honce : (Value.ofEntries n.data).keysOnce = true) :
    payload limits' (Block.conditionsOf n) = normalize limits' (.ofEntries n.data) :=
  Condition.payload_conditionsOf (h.isFixed.expose_conditions honce)

end Condition

end Automation
