import Automation.Proofs.Condition.Fixed
import Automation.Proofs.Dispatch.Pass

/-!
# Conditions and lists of conditions

A node holds one condition, and a block a list of them. A condition that normalizing leaves as it is
can be written as a list and read back from it, and the list holds when the condition does; a list
of such conditions can be read as one condition, which holds when the list does
(`Condition.lists_and_payloads_agree`). Such a condition stands in full, so guards find in it what
the reader found.
-/

namespace Automation

namespace Condition

open Entries Value

/-- The plain `and` group of some conditions. -/
def andGroup (conditions : List Value) : Value :=
  .ofEntries [(.str "condition", .str "and"), (.str "conditions", .ofItems conditions)]

end Condition

/-! ## Guards -/

namespace Guard

open Entries Value Condition

variable (ctx : Context)

/-- Whether a condition by itself holds is told by its fields, its parts apart. -/
theorem decide_eq_of_get? {es es' : Entries} (parts : Outcome (List (Outcome Bool)))
    (h : ∀ name, name ≠ "conditions" → es.get? name = es'.get? name) :
    decide ctx es parts = decide ctx es' parts := by
  have hfield {name : String} (hne : name ≠ "conditions") : es.get name = es'.get name :=
    congrArg (·.getD .null) (h name hne)
  -- each kind of condition looks at fields of its own, and none at the parts of a group
  have hwithin : entityWithin ctx es = entityWithin ctx es' := by
    funext entity
    unfold entityWithin withinBound
    rw [h "above" (by decide), h "below" (by decide)]
  have hstate : stateHolds ctx es = stateHolds ctx es' := by
    unfold stateHolds
    rw [@hfield "state" (by decide), @hfield "entity_id" (by decide)]
  have hnumeric : numericHolds ctx es = numericHolds ctx es' := by
    unfold numericHolds
    rw [hwithin, @hfield "entity_id" (by decide)]
  have htrigger : triggerHolds ctx es = triggerHolds ctx es' := by
    unfold triggerHolds
    rw [@hfield "id" (by decide)]
  unfold decide
  rw [@hfield "enabled" (by decide), @hfield "condition" (by decide), hstate, hnumeric, htrigger,
    h "value_template" (by decide)]

/-- Conditions that are read one after the other do what they did, if each of them does. -/
theorem evaluateEach_toValues {R : Value → Condition → Prop} {vs : List Value}
    {cs : List Condition} (hcs : List.Forall₂ R vs cs)
    (hsame : sameItems (toValues cs) vs = true)
    (hR : ∀ v ∈ vs, ∀ c, R v c → (Value.ofEntries (toEntries c)).same v = true →
      evaluate ctx (.ofEntries (toEntries c)) = evaluate ctx v) :
    evaluateEach ctx (toValues cs) = evaluateEach ctx vs := by
  induction hcs with
  | nil => rfl
  | cons hv _ ih =>
    rw [toValues, sameItems, Bool.and_eq_true] at hsame
    obtain ⟨hfirst, hrest⟩ := List.forall_mem_cons.1 hR
    rw [toValues, evaluateEach, evaluateEach, hfirst _ hv hsame.1, ih hsame.2 hrest]

/-- What counts as the same as what was read of it holds when that does. -/
theorem evaluate_of_same {limits : Limits} {levels : Nat} {v : Value} {c : Condition}
    (hv : Formed v) (honce : v.keysOnce = true) (h : IsReadAs limits levels v c)
    (hsame : (Value.ofEntries (toEntries c)).same v = true) :
    evaluate ctx (.ofEntries (toEntries c)) = evaluate ctx v := by
  induction levels generalizing v c with
  | zero =>
    obtain ⟨before, after, h⟩ := h
    cases h
  | succ levels ih =>
    have hfull := expose_eq_of_same hv honce h hsame
    cases hv.reading h with
    | @single o es kind hexpose hkind hsingle =>
      rw [hfull] at hexpose
      subst hexpose
      have hget (name : String) :
          (toEntries (mk kind (es.erase "condition") [])).get? name = es.get? name :=
        get?_toEntries_of_kind [] hkind get?_erase_of_ne (.inl hsingle)
      show decide ctx _ (evaluateParts ctx _) = decide ctx es (evaluateParts ctx es)
      rw [evaluateParts_eq_get?, evaluateParts_eq_get?, hget]
      exact decide_eq_of_get? ctx _ fun name _ => hget name
    | @group o p es kind parts cs hexpose hkind hgroup hparts hformed hcs =>
      rw [hfull] at hexpose
      subst hexpose
      have hnone : ((es.erase "condition").erase "conditions").has "conditions" = false :=
        has_erase ..
      obtain ⟨hlist, hitems⟩ := sameItems_of_same hsame honce hgroup hnone hparts hformed hcs
      have honceParts := keysOnce_list_iff.1
        ((keysOnce_map_iff.1 honce).2 _ (mem_of_get?_eq_some hparts))
      have hall : partItems p (.list p parts) parts = parts := congrArg Value.asItems hlist
      rw [hall] at hcs
      -- the parts hold one by one when those that were read of them do
      have heach : evaluateEach ctx (toValues cs) = evaluateEach ctx parts :=
        evaluateEach_toValues ctx hcs hitems fun w hw d hread hsame' =>
          ih (hformed w hw) (honceParts w hw) hread hsame'
      show decide ctx _ (evaluateParts ctx _) = decide ctx es (evaluateParts ctx es)
      rw [evaluateParts_eq_get?, evaluateParts_eq_get?, hparts,
        get?_toEntries_parts cs hgroup hnone]
      show decide ctx _ (.ok (evaluateEach ctx (toValues cs)))
        = decide ctx es (.ok (evaluateEach ctx parts))
      rw [heach]
      refine decide_eq_of_get? ctx _ fun name hname => ?_
      refine get?_toEntries_of_kind cs hkind (fun hcondition => ?_) (.inr hname)
      rw [get?_erase_of_ne (Ne.symm hname), get?_erase_of_ne hcondition]

/-- The `and` group of some conditions holds when all of them do. -/
theorem evaluate_andGroup (conditions : List Value) :
    evaluate ctx (andGroup conditions) = evaluateAll ctx (.ofItems conditions) := by
  show allHold (evaluateEach ctx conditions) = allHold (conditions.map (evaluate ctx))
  rw [evaluateEach_eq_map]

end Guard

namespace Condition

open Entries Value

/-! ## Lists and payloads -/

/-- A list of conditions that are left as they are is left as it is. -/
theorem sameItems_of_isFixed {limits : Limits} {levels : Nat} {vs : List Value}
    {cs : List Condition} (hcs : List.Forall₂ (IsReadAs limits levels) vs cs)
    (h : ∀ v ∈ vs, IsFixed v) : sameItems (toValues cs) vs = true := by
  induction hcs with
  | nil => rfl
  | cons hv _ ih =>
    obtain ⟨hfirst, hrest⟩ := List.forall_mem_cons.1 h
    rw [toValues, sameItems, Bool.and_eq_true]
    exact ⟨hfirst.same_of_isReadAs hv, ih hrest⟩

/-- What a reader makes of a condition that is left as it is holds when the condition does. -/
theorem IsFixed.evaluate_eq {limits : Limits} {v : Value} {es : Entries} (h : IsFixed v)
    (honce : v.keysOnce = true) (hes : normalize limits v = .ok es) (ctx : Context) :
    Guard.evaluate ctx (.ofEntries es) = Guard.evaluate ctx v := by
  obtain ⟨c, hread, rfl⟩ := exists_of_normalize hes
  exact Guard.evaluate_of_same ctx (h.formed honce) honce hread (h.same_of_isReadAs hread)

theorem keysOnce_andGroup {vs : List Value} (h : ∀ v ∈ vs, v.keysOnce = true) :
    (andGroup vs).keysOnce = true := by
  refine keysOnce_map_iff.2 ⟨?_, List.forall_mem_cons.2 ⟨rfl, List.forall_mem_singleton.2 ?_⟩⟩
  · exact List.pairwise_pair.2 rfl
  · exact keysOnce_list_iff.2 h

/-- The `and` group of conditions that are left as they are is left as it is, if it is read. -/
theorem isFixed_andGroup {limits : Limits} {vs : List Value} {es : Entries}
    (h : ∀ v ∈ vs, IsFixed v ∧ v.keysOnce = true) (hes : normalize limits (andGroup vs) = .ok es) :
    IsFixed (andGroup vs) := by
  have hformed : Formed (andGroup vs) :=
    @Formed.group _ _ _ "and" _ rfl rfl rfl fun v hv => (h v hv).1.formed (h v hv).2
  refine ⟨limits, es, hes, ?_⟩
  obtain ⟨c, hread, rfl⟩ := exists_of_normalize hes
  obtain ⟨levels, hread⟩ := hread.exists_succ
  -- the group is read as a group, and each part as what it was
  cases hformed.reading hread with
  | single hexpose hkind hsingle =>
    cases hexpose
    cases hkind
    cases hsingle
  | @group _ _ _ _ _ cs hexpose hkind hgroup hparts _ hcs =>
    cases hexpose
    cases hkind
    cases hparts
    have hitems : sameItems (toValues cs) vs = true :=
      sameItems_of_isFixed hcs fun v hv => (h v hv).1
    show same (.ofEntries [(.str "condition", .str "and"),
      (.str "conditions", .ofItems (toValues cs))]) (andGroup vs) = true
    simp [andGroup, Value.ofEntries, Value.ofItems, same, entriesIn, isText_str, hitems]

/-- Conditions that are read by themselves are read one after the other, when there is room. -/
theorem exists_mapM_run {vs : List Value} (h : ∀ v ∈ vs, ∃ c depth size, Measured v c depth size) :
    ∃ below total cs, ∀ (limits : Limits) (levels before : Nat), below ≤ levels →
      ((before + total : Nat) : Int) ≤ limits.maxConditionLeaves →
      (vs.mapM (read limits levels)).run before = .ok (cs, before + total) := by
  induction vs with
  | nil => exact ⟨0, 0, [], fun _ _ _ _ _ => rfl⟩
  | cons v vs ih =>
    obtain ⟨⟨c, depth, size, hmeasured⟩, hrest⟩ := List.forall_mem_cons.1 h
    obtain ⟨below, total, cs, hcs⟩ := ih hrest
    refine ⟨max (depth + 1) below, size + total, c :: cs, ?_⟩
    intro limits levels before hlevels hroom
    rw [List.mapM_cons]
    have hfirst := (hmeasured.hinges limits levels before).accepts ⟨by omega, by omega⟩
    have hothers := hcs limits levels (before + size) (by omega) (by omega)
    refine run_bind_eq_ok.2 ⟨_, hfirst, run_bind_eq_ok.2 ⟨_, hothers, ?_⟩⟩
    rw [← Nat.add_assoc]
    rfl

/-- Conditions that are left as they are are read as one, if limits are wide enough. -/
theorem exists_payload_eq_ok {vs : List Value} (h : ∀ v ∈ vs, IsFixed v) :
    ∃ limits es, payload limits (.ofItems vs) = .ok es := by
  -- limits that leave room for all the conditions at once
  have hgroup : ∃ limits es, normalize limits (andGroup vs) = .ok es := by
    have hmeasured : ∀ v ∈ vs, ∃ c depth size, Measured v c depth size := by
      intro v hv
      obtain ⟨limits, es, hes, -⟩ := h v hv
      obtain ⟨c, ⟨before, after, hread⟩, -⟩ := exists_of_normalize hes
      obtain ⟨depth, size, -, hmeasured⟩ := exists_measured hread
      exact ⟨c, depth, size, hmeasured⟩
    obtain ⟨below, total, cs, hcs⟩ := exists_mapM_run hmeasured
    refine ⟨{ maxConditionDepth := below, maxConditionLeaves := total + 1 },
      toEntries (mk "and" [] cs), ?_⟩
    rw [normalize_eq]
    refine Outcome.bind_eq_ok.2 ⟨(mk "and" [] cs, 1 + total), ?_, rfl⟩
    show (read _ (below + 1) (andGroup vs)).run 0 = _
    have hkind (v : Value) : kindOf? v [(.str "condition", .str "and"),
        (.str "conditions", .ofItems vs)] = .ok ("and", [(.str "conditions", .ofItems vs)]) := rfl
    rw [andGroup, run_read_ofEntries (by dsimp only; omega) (hkind _)]
    exact run_bind_eq_ok.2 ⟨_, hcs _ below 1 (Nat.le_refl _) (by dsimp only; omega), rfl⟩
  -- a single condition is its own payload, and any other number of them makes a group
  match vs with
  | [] => exact hgroup
  | [v] =>
    obtain ⟨limits, es, hes, -⟩ := h v List.mem_cons_self
    exact ⟨limits, es, hes⟩
  | _ :: _ :: _ => exact hgroup

/-- What conditions that are left as they are are read as holds when all of them do. -/
theorem evaluate_payload {limits : Limits} {vs : List Value} {es : Entries}
    (h : ∀ v ∈ vs, IsFixed v ∧ v.keysOnce = true) (hes : payload limits (.ofItems vs) = .ok es)
    (ctx : Context) : Guard.evaluate ctx (.ofEntries es) = Guard.evaluateAll ctx (.ofItems vs) := by
  have hgroup (hes : normalize limits (andGroup vs) = .ok es) :
      Guard.evaluate ctx (.ofEntries es) = Guard.evaluateAll ctx (.ofItems vs) := calc
    Guard.evaluate ctx (.ofEntries es) = Guard.evaluate ctx (andGroup vs) :=
      (isFixed_andGroup h hes).evaluate_eq (keysOnce_andGroup fun v hv => (h v hv).2) hes ctx
    _ = Guard.evaluateAll ctx (.ofItems vs) := Guard.evaluate_andGroup ctx vs
  match vs with
  | [] => exact hgroup hes
  | [v] =>
    obtain ⟨hfixed, honce⟩ := h v List.mem_cons_self
    exact (hfixed.evaluate_eq honce hes ctx).trans (Guard.evaluateAll_single ctx v).symm
  | _ :: _ :: _ => exact hgroup hes

/-- The list that a condition which normalizing leaves as it is is written as is read as that
condition, and holds when it does. Conditions that normalizing leaves as they are are read as one,
which holds when all of them do, under all limits that allow for its depth and its size, and are
refused as too large under all others. -/
theorem lists_and_payloads_agree :
    (∀ (limits : Limits) (data : Entries), IsNormal limits data →
      (Value.ofEntries data).keysOnce = true →
      (∃ es, payload limits (.ofItems (spread data)) = .ok es
        ∧ (Value.ofEntries es).same (.ofEntries data) = true)
      ∧ ∀ ctx : Context, Guard.evaluateAll ctx (.ofItems (spread data))
        = Guard.evaluate ctx (.ofEntries data))
    ∧ ∀ vs : List Value, (∀ v ∈ vs, IsFixed v ∧ v.keysOnce = true) →
      ∃ es depth size, Form es depth size
        ∧ (∀ limits, (payload limits (.ofItems vs)).HingesOn (Allowed limits depth size) es)
        ∧ ∀ ctx : Context, Guard.evaluate ctx (.ofEntries es)
          = Guard.evaluateAll ctx (.ofItems vs) := by
  refine ⟨fun limits data hnormal honce => ⟨?_, fun ctx => Guard.evaluateAll_spread ctx data⟩,
    fun vs hvs => ?_⟩
  · have hfull := hnormal.isFixed.expose_conditions honce
    obtain ⟨es, hes, hsame⟩ := hnormal
    exact ⟨es, (payload_spread hfull).trans hes, hsame⟩
  · obtain ⟨limits, es, hes⟩ := exists_payload_eq_ok fun v hv => (hvs v hv).1
    obtain ⟨depth, size, hform, hhinges⟩ := hinges_payload hes
    exact ⟨es, depth, size, hform, hhinges, evaluate_payload hvs hes⟩

/-- At night, unless the lamp is on: an `and` group with a group in it that has a name, a list of
one condition and a condition that is switched off. -/
def nightly : Entries := [
  (.str "condition", .str "and"),
  (.str "conditions", .ofItems [
    .ofEntries [(.str "condition", .str "trigger"), (.str "id", .str "night")],
    .ofEntries [
      (.str "condition", .str "and"), (.str "alias", .str "dark"),
      (.str "conditions", .ofItems [
        .ofEntries [(.str "condition", .str "not"), (.str "conditions", .ofItems [
          .ofEntries [(.str "condition", .str "state"), (.str "entity_id", .str "light.lamp"),
            (.str "state", .str "on")]])],
        .ofEntries [(.str "condition", .str "sun"), (.str "enabled", .bool false)]])]])]

/-- The nightly condition as two conditions and back, and two more conditions in front of it. -/
theorem lists_and_payloads_agree_nightly :
    (∃ es, payload {} (.ofItems (spread nightly)) = .ok es
      ∧ (Value.ofEntries es).same (.ofEntries nightly) = true)
    ∧ (spread nightly).length = 2
    ∧ ∃ es, payload {} (.ofItems (spread nightly ++ [.ofEntries nightly])) = .ok es
      ∧ ∀ ctx : Context, Guard.evaluate ctx (.ofEntries es)
        = Guard.evaluateAll ctx (.ofItems (spread nightly ++ [.ofEntries nightly])) := by
  have hnormal : IsNormal {} nightly := ⟨_, rfl, by decide⟩
  have hfixed : ∀ v ∈ spread nightly ++ [.ofEntries nightly],
      IsFixed v ∧ v.keysOnce = true := by
    refine List.forall_mem_cons.2 ⟨⟨⟨{}, _, rfl, by decide⟩, by decide⟩, ?_⟩
    refine List.forall_mem_cons.2 ⟨⟨⟨{}, _, rfl, by decide⟩, by decide⟩, ?_⟩
    exact List.forall_mem_singleton.2 ⟨hnormal.isFixed, by decide⟩
  obtain ⟨hback, hforth⟩ := lists_and_payloads_agree
  obtain ⟨es, depth, size, -, hhinges, hevaluate⟩ := hforth _ hfixed
  obtain ⟨es', hes'⟩ : ∃ es',
    payload {} (.ofItems (spread nightly ++ [.ofEntries nightly])) = .ok es' := ⟨_, rfl⟩
  have hes := (hhinges {}).accepts ((hhinges {}).holds hes')
  exact ⟨(hback {} nightly hnormal (by decide)).1, rfl, es, hes, hevaluate⟩

end Condition

end Automation
