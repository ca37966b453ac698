import Automation.Condition
import Automation.Graph.Fields
import Automation.Proofs.Outcome
import Automation.Proofs.Value.Entries
import Automation.Program.Entries

/-!
# Conditions read back

The conditions of a node are written as a list and read back as one condition
(`Condition.payload_conditionsOf`). What a reader makes of a condition has each key once
(`Condition.Canonical`), so whatever asks for its kind or its parts finds those
(`Condition.Canonical.exists_issues`).
-/

namespace Automation

namespace Condition

open Entries

/-! ## The conditions of a node -/

/-- A plain `and` group has two entries. -/
theorem eq_of_isPlainGroup {data : Entries} {o : Origin} {parts : List Value}
    (hlength : data.length = 2) (hkind : (data.get "condition").isText "and" = true)
    (hparts : data.get "conditions" = .list o parts) :
    data = [(.str "condition", .str "and"), (.str "conditions", .list o parts)]
      ∨ data = [(.str "conditions", .list o parts), (.str "condition", .str "and")] := by
  obtain ⟨a, b, rfl⟩ : ∃ a b, data = [a, b] := by
    match data, hlength with
    | [a, b], _ => exact ⟨a, b, rfl⟩
  obtain ⟨k, v⟩ := a
  obtain ⟨l, w⟩ := b
  simp only [Entries.get, get?_cons, get?_nil] at hkind hparts
  -- one of the two keys is that of the kind, so the other one is that of the conditions
  by_cases hk : k.isText "condition" = true
  · have hother : k.isText "conditions" = false := Value.isText_of_ne hk (by decide)
    rw [if_pos hk, Option.getD_some] at hkind
    rw [hother] at hparts
    by_cases hl : l.isText "conditions" = true
    · rw [if_pos hl] at hparts
      have hw : w = .list o parts := hparts
      rw [Value.isText_iff.1 hk, Value.isText_iff.1 hl, Value.isText_iff.1 hkind, hw]
      exact .inl rfl
    · rw [if_neg hl] at hparts
      cases hparts
  · rw [if_neg hk] at hkind
    by_cases hl : l.isText "condition" = true
    · have hother : l.isText "conditions" = false := Value.isText_of_ne hl (by decide)
      rw [if_pos hl, Option.getD_some] at hkind
      rw [hother] at hparts
      by_cases hk' : k.isText "conditions" = true
      · rw [if_pos hk'] at hparts
        have hv : v = .list o parts := hparts
        rw [Value.isText_iff.1 hk', Value.isText_iff.1 hl, Value.isText_iff.1 hkind, hv]
        exact .inr rfl
      · rw [if_neg hk'] at hparts
        cases hparts
    · rw [if_neg hl] at hkind
      cases hkind

/-- A plain `and` group reads the same however it is written. -/
theorem normalize_plainGroup (limits : Limits) {data : Entries} {o : Origin} {parts : List Value}
    (hfull : (Value.list o parts).expose = .list o parts)
    (h : data = [(.str "condition", .str "and"), (.str "conditions", .list o parts)]
      ∨ data = [(.str "conditions", .list o parts), (.str "condition", .str "and")]) :
    normalize limits (.ofEntries data) = normalize limits
      (.ofEntries [(.str "condition", .str "and"), (.str "conditions", .ofItems parts)]) := by
  have hkindOf (v : Value) : kindOf? v data = .ok ("and", [(.str "conditions", .list o parts)]) := by
    rcases h with rfl | rfl <;> rfl
  have hparts : partsOf [(.str "conditions", .list o parts)] = parts := by
    show (Value.list o parts).expose.asItems = parts
    rw [hfull]
    rfl
  -- the first step of a reading already sees the same kind and the same conditions
  have hread (levels count : Nat) : (read limits levels (.ofEntries data)).run count
      = (read limits levels (.ofEntries [(.str "condition", .str "and"),
        (.str "conditions", .ofItems parts)])).run count := by
    cases levels with
    | zero => rfl
    | succ levels =>
      have hexpose (es : Entries) : (Value.ofEntries es).expose = .map {} es := rfl
      have hwritten (v : Value) : kindOf? v [(.str "condition", .str "and"),
          (.str "conditions", .ofItems parts)]
          = .ok ("and", [(.str "conditions", .ofItems parts)]) := rfl
      have hparts' : partsOf [(.str "conditions", .ofItems parts)] = parts := rfl
      have herase (v : Value) : erase [(.str "conditions", v)] "conditions" = [] := rfl
      have hand : groupKinds.contains "and" = true := rfl
      simp only [read, hexpose, hkindOf, hwritten, hparts, hparts', herase, hand, if_true]
  unfold normalize ofValue
  rw [hread]

/-- The conditions that a payload stands for are read as the payload. -/
theorem payload_spread {limits : Limits} {data : Entries}
    (h : (data.get "condition").isText "and" = true →
      (data.get "conditions").expose = data.get "conditions") :
    payload limits (.ofItems (spread data)) = normalize limits (.ofEntries data) := by
  unfold spread
  split
  · rename_i o parts hparts
    split
    · rename_i hgroup
      simp only [Bool.and_eq_true, decide_eq_true_eq, bne_iff_ne] at hgroup
      obtain ⟨⟨hlength, hkind⟩, hone⟩ := hgroup
      have hfull := h hkind
      rw [hparts] at hfull
      rw [normalize_plainGroup limits hfull (eq_of_isPlainGroup hlength hkind hparts)]
      -- one part alone would be a payload of its own, so such a group is not spread
      rcases parts with _ | ⟨a, _ | ⟨b, rest⟩⟩
      · rfl
      · exact absurd rfl hone
      · rfl
    · rfl
  · rfl

/-- The conditions of a node stand for the condition in its payload. -/
theorem payload_conditionsOf {limits : Limits} {n : Node}
    (h : (n.data.get "condition").isText "and" = true →
      (n.data.get "conditions").expose = n.data.get "conditions") :
    payload limits (Block.conditionsOf n) = normalize limits (.ofEntries n.data) :=
  payload_spread h

/-! ## What a reader makes of a condition -/

/-- A condition whose options repeat nothing that its canonical form has of its own. -/
inductive Canonical : Condition → Prop where
  | mk {kind : String} {options : Entries} {parts : List Condition}
    (hkind : options.has "condition" = false)
    (hgroup : groupKinds.contains kind = true → options.has "conditions" = false)
    (hparts : ∀ part ∈ parts, Canonical part) : Canonical (.mk kind options parts)

theorem has_erase_of_not_has {es : Entries} {a b : String} (h : es.has b = false) :
    (es.erase a).has b = false := by
  simp only [has, List.any_eq_false, erase, List.mem_filter] at h ⊢
  exact fun e he => h e he.1

theorem has_set_of_not_has {es : Entries} {a b : String} {v : Value} (hne : a ≠ b)
    (h : es.has b = false) : (es.set a v).has b = false := by
  rw [← get?_eq_none_iff] at h ⊢
  rwa [get?_set_of_ne hne]

/-- The options of a condition that is written as a mapping do not have its kind. -/
theorem has_condition_of_kindOf? {v : Value} {es : Entries} {kind : String} {options : Entries}
    (h : kindOf? v es = .ok (kind, options)) : options.has "condition" = false := by
  have herased := has_erase es "condition"
  unfold kindOf? at h
  dsimp only at h
  split at h
  · split at h
    · cases h
      exact has_set_of_not_has (by decide) (has_erase_of_not_has herased)
    · cases h
  · split at h
    · cases h
      exact has_set_of_not_has (by decide) herased
    · cases h
      exact herased
  · cases h

/-- A count goes on from the one that the first part leaves. -/
theorem run_bind_eq_ok {α β : Type} {r : StateT Nat Outcome α} {f : α → StateT Nat Outcome β}
    {count : Nat} {b : β × Nat} :
    (r >>= f).run count = .ok b ↔ ∃ a, r.run count = .ok a ∧ (f a.1).run a.2 = .ok b := by
  rw [StateT.run_bind]
  exact Outcome.bind_eq_ok

/-- Conditions that are read one after the other are each read. -/
theorem forall₂_of_mapM_run_eq_ok {r : Value → StateT Nat Outcome Condition} {vs : List Value}
    {count : Nat} {cs : List Condition × Nat} (h : (vs.mapM r).run count = .ok cs) :
    List.Forall₂ (fun v c => ∃ before after, (r v).run before = .ok (c, after)) vs cs.1 := by
  induction vs generalizing count cs with
  | nil =>
    cases h
    exact .nil
  | cons v vs ih =>
    rw [List.mapM_cons] at h
    obtain ⟨⟨c, after⟩, hc, h⟩ := run_bind_eq_ok.1 h
    obtain ⟨⟨rest, last⟩, hrest, h⟩ := run_bind_eq_ok.1 h
    cases h
    exact .cons ⟨count, after, hc⟩ (ih hrest)

theorem exists_of_mapM_run_eq_ok {r : Value → StateT Nat Outcome Condition} {vs : List Value}
    {count : Nat} {cs : List Condition × Nat} (h : (vs.mapM r).run count = .ok cs) :
    ∀ c ∈ cs.1, ∃ v ∈ vs, ∃ before after, (r v).run before = .ok (c, after) := by
  have hall := forall₂_of_mapM_run_eq_ok h
  generalize cs.1 = conditions at hall
  clear h
  induction hall with
  | nil => exact nofun
  | @cons v c _ _ hv _ ih =>
    intro d hd
    rcases List.mem_cons.1 hd with rfl | hd
    · exact ⟨v, List.mem_cons_self, hv⟩
    · obtain ⟨w, hw, hread⟩ := ih d hd
      exact ⟨w, List.mem_cons_of_mem _ hw, hread⟩

/-- What a reader makes of a condition is canonical. -/
theorem canonical_of_read {limits : Limits} {levels : Nat} {v : Value} {count after : Nat}
    {c : Condition} (h : (read limits levels v).run count = .ok (c, after)) : Canonical c := by
  -- the induction is over the levels that are left, as the conditions of a group are read with one
  -- less
  induction levels generalizing v count c after with
  | zero => cases h
  | succ levels ih =>
    rw [read] at h
    obtain ⟨⟨n, m⟩, hget, h⟩ := run_bind_eq_ok.1 h
    dsimp only at h
    split at h
    · obtain ⟨_, htoo, -⟩ := run_bind_eq_ok.1 h
      cases htoo
    · obtain ⟨_, -, h⟩ := run_bind_eq_ok.1 h
      split at h
      · cases h
        exact .mk rfl (fun hgroup => absurd hgroup (by decide)) (by simp)
      · split at h
        · cases h
        · rename_i kind options hkind
          have hcondition := has_condition_of_kindOf? hkind
          split at h
          · obtain ⟨⟨parts, last⟩, hparts, h⟩ := run_bind_eq_ok.1 h
            cases h
            refine .mk (has_erase_of_not_has hcondition) (fun _ => has_erase ..) fun part hpart => ?_
            obtain ⟨w, -, before, behind, hread⟩ := exists_of_mapM_run_eq_ok hparts part hpart
            exact ih hread
          · rename_i hgroup
            cases h
            exact .mk hcondition (fun h => absurd h hgroup) (by simp)
      · cases h

/-- A normalized condition is the canonical form of a condition. -/
theorem exists_of_normalize_eq_ok {limits : Limits} {v : Value} {es : Entries}
    (h : normalize limits v = .ok es) : ∃ c, Canonical c ∧ es = toEntries c := by
  unfold normalize ofValue at h
  cases hread : (read limits (limits.maxConditionDepth + 1).toNat v).run 0 with
  | error failure =>
    rw [hread] at h
    cases h
  | ok result =>
    rw [hread] at h
    cases h
    exact ⟨result.1, canonical_of_read (c := result.1) hread, rfl⟩

/-! ## Canonical forms read again -/

/-- No kind is a template: one in its place is the value of a template condition. -/
theorem hasTemplate_of_kindOf? {v : Value} {es : Entries} {kind : String} {options : Entries}
    (h : kindOf? v es = .ok (kind, options)) : hasTemplate kind.toList = false := by
  unfold kindOf? at h
  dsimp only at h
  split at h
  · split at h
    · rename_i group hfilter
      cases h
      -- a short form names its group by a key, which is plain text
      have hmem : kind ∈ groupKinds.filter (Entries.has (es.erase "condition")) := by
        rw [hfilter]
        exact List.mem_singleton.2 rfl
      have hall : ∀ group ∈ groupKinds, hasTemplate group.toList = false := by decide
      exact hall kind (List.mem_filter.1 hmem).1
    · cases h
  · split at h
    · cases h
      decide
    · rename_i htemplate
      cases h
      simpa using htemplate
  · cases h

/-- The kind and the options of a canonical form are those that it was written for. -/
theorem kindOf?_canonical (v : Value) {kind : String} {options : Entries}
    (htemplate : hasTemplate kind.toList = false) (hoptions : options.has "condition" = false) :
    kindOf? v ((.str "condition", .str kind) :: options) = .ok (kind, options) := by
  have hget : Entries.get ((.str "condition", .str kind) :: options) "condition" = .str kind := rfl
  have herase : Entries.erase ((.str "condition", .str kind) :: options) "condition" = options :=
    erase_of_not_has hoptions
  unfold kindOf?
  rw [herase, hget]
  dsimp only
  rw [htemplate]
  rfl

/-- A mapping is read by its kind, behind the condition that it counts for. -/
theorem run_read_ofEntries {limits : Limits} {levels count : Nat} {es : Entries} {kind : String}
    {options : Entries} (hroom : ¬ limits.maxConditionLeaves ≤ count)
    (hkind : kindOf? (.ofEntries es) es = .ok (kind, options)) :
    (read limits (levels + 1) (.ofEntries es)).run count
      = (if groupKinds.contains kind then do
          let parts ← (partsOf options).mapM (read limits levels)
          return mk kind (options.erase "conditions") parts
        else return mk kind options [] : StateT Nat Outcome Condition).run (count + 1) := by
  have hexpose : (Value.ofEntries es).expose = .map {} es := rfl
  rw [read]
  show ((if limits.maxConditionLeaves ≤ count then _ else _ : StateT Nat Outcome Condition).run
    count) = _
  rw [if_neg hroom, hexpose]
  dsimp only
  rw [hkind]
  rfl

/-- Canonical forms of conditions that were read one after the other are read as they are. -/
theorem mapM_run_toValues {r : Value → StateT Nat Outcome Condition} {vs : List Value}
    {count : Nat} {cs : List Condition × Nat} (h : (vs.mapM r).run count = .ok cs)
    (hr : ∀ v before c after, (r v).run before = .ok (c, after) →
      (r (.ofEntries (toEntries c))).run before = .ok (c, after)) :
    ((toValues cs.1).mapM r).run count = .ok cs := by
  induction vs generalizing count cs with
  | nil =>
    cases h
    rfl
  | cons v vs ih =>
    rw [List.mapM_cons] at h
    obtain ⟨⟨c, after⟩, hc, h⟩ := run_bind_eq_ok.1 h
    obtain ⟨⟨rest, last⟩, hrest, h⟩ := run_bind_eq_ok.1 h
    cases h
    rw [toValues, List.mapM_cons]
    refine run_bind_eq_ok.2 ⟨(c, after), hr v count c after hc, ?_⟩
    exact run_bind_eq_ok.2 ⟨(rest, last), ih hrest, rfl⟩

/-! A group is written with its conditions behind all its other options. -/

theorem partsOf_group (options : Entries) (parts : List Condition) :
    partsOf (options.erase "conditions" ++ [(.str "conditions", .ofItems (toValues parts))])
      = toValues parts := by
  unfold partsOf
  rw [get?_append, get?_eq_none_iff.2 (has_erase ..)]
  rfl

theorem erase_group (options : Entries) (v : Value) :
    Entries.erase (options.erase "conditions" ++ [(.str "conditions", v)]) "conditions"
      = options.erase "conditions" := by
  have hlast : Entries.erase [(.str "conditions", v)] "conditions" = [] := rfl
  rw [Entries.erase, List.filter_append, ← Entries.erase, ← Entries.erase, hlast, List.append_nil,
    erase_of_not_has (has_erase ..)]

theorem not_has_group {options : Entries} (h : options.has "condition" = false) (v : Value) :
    Entries.has (options.erase "conditions" ++ [(.str "conditions", v)]) "condition" = false := by
  unfold Entries.has
  rw [List.any_append]
  exact Bool.or_eq_false_iff.2 ⟨has_erase_of_not_has h, rfl⟩

/-- The canonical form of a condition is read as the condition, and counts as much. -/
theorem read_toEntries {limits : Limits} {levels : Nat} {v : Value} {count after : Nat}
    {c : Condition} (h : (read limits levels v).run count = .ok (c, after)) :
    (read limits levels (.ofEntries (toEntries c))).run count = .ok (c, after) := by
  induction levels generalizing v count after c with
  | zero => cases h
  | succ levels ih =>
    rw [read] at h
    obtain ⟨⟨n, m⟩, hget, h⟩ := run_bind_eq_ok.1 h
    cases hget
    dsimp only at h
    split at h
    · obtain ⟨_, htoo, -⟩ := run_bind_eq_ok.1 h
      cases htoo
    rename_i hroom
    obtain ⟨_, hset, h⟩ := run_bind_eq_ok.1 h
    cases hset
    have htemplate : ¬ groupKinds.contains "template" = true := by decide
    -- a text is a template condition, and a mapping a group or a condition of another kind
    split at h
    · cases h
      rw [toEntries, if_neg htemplate, List.append_nil, run_read_ofEntries hroom
        (kindOf?_canonical _ (by decide) (by simp [Entries.has, Value.isText])), if_neg htemplate]
      rfl
    · split at h
      · cases h
      · rename_i kind options hkind
        have hcondition := has_condition_of_kindOf? hkind
        have hplain := hasTemplate_of_kindOf? hkind
        split at h
        · rename_i hgroup
          obtain ⟨⟨parts, last⟩, hparts, h⟩ := run_bind_eq_ok.1 h
          cases h
          rw [toEntries, if_pos hgroup, List.cons_append,
            run_read_ofEntries hroom (kindOf?_canonical _ hplain (not_has_group hcondition _)),
            if_pos hgroup, partsOf_group, erase_group]
          exact run_bind_eq_ok.2 ⟨(parts, last), mapM_run_toValues hparts fun v _ _ _ => ih, rfl⟩
        · rename_i hgroup
          cases h
          rw [toEntries, if_neg hgroup, List.append_nil,
            run_read_ofEntries hroom (kindOf?_canonical _ hplain hcondition), if_neg hgroup]
          rfl
    · cases h

/-- What a reader makes of a condition is read as it is. -/
theorem normalize_of_normalize {limits : Limits} {v : Value} {es : Entries}
    (h : normalize limits v = .ok es) : normalize limits (.ofEntries es) = .ok es := by
  unfold normalize ofValue at h ⊢
  cases hread : (read limits (limits.maxConditionDepth + 1).toNat v).run 0 with
  | error failure =>
    rw [hread] at h
    cases h
  | ok result =>
    rw [hread] at h
    cases h
    rw [show (read limits (limits.maxConditionDepth + 1).toNat (.ofEntries (toEntries result.1))).run 0
      = .ok result from read_toEntries hread]
    rfl

theorem exists_of_payload_eq_ok {limits : Limits} {v : Value} {es : Entries}
    (h : payload limits v = .ok es) : ∃ w, normalize limits w = .ok es := by
  unfold payload at h
  split at h <;> exact ⟨_, h⟩

/-- The conditions of an `and` group that was read are a list of their own. -/
theorem expose_conditions_of_normalize {limits : Limits} {v : Value} {es : Entries}
    (h : normalize limits v = .ok es) (hand : (es.get "condition").isText "and" = true) :
    (es.get "conditions").expose = es.get "conditions" := by
  obtain ⟨⟨kind, options, parts⟩, hcanonical, rfl⟩ := exists_of_normalize_eq_ok h
  cases hcanonical with
  | mk _ hgroup _ =>
    have hkind : kind = "and" := by
      rw [toEntries, List.cons_append, Entries.get, get?_cons_str, if_pos rfl] at hand
      simpa [Value.isText] using hand
    subst hkind
    have hnone := hgroup (by decide)
    rw [toEntries, if_pos (by decide), List.cons_append, Entries.get, get?_cons_str,
      if_neg (by decide), get?_append, get?_eq_none_iff.2 hnone]
    rfl

theorem has_condition_of_normalize {limits : Limits} {v : Value} {es : Entries}
    (h : normalize limits v = .ok es) : es.has "condition" = true := by
  obtain ⟨⟨kind, options, parts⟩, -, rfl⟩ := exists_of_normalize_eq_ok h
  rw [toEntries, List.cons_append]
  rfl

/-- The issues of a canonical condition can be told. -/
theorem Canonical.exists_issues {c : Condition} (h : Canonical c) (depth : Nat) :
    ∃ issues, Node.conditionIssues depth (toEntries c) = .ok issues := by
  induction depth generalizing c with
  | zero => exact ⟨_, rfl⟩
  | succ depth ih =>
    cases h with
    | @mk kind options parts hcondition hgroup hparts =>
      have hget : (toEntries (Condition.mk kind options parts)).get "condition" = .str kind := by
        rw [toEntries, List.cons_append, Entries.get, get?_cons_str, if_pos rfl]
        rfl
      -- the checks know the same kinds of groups as the reader
      have hisGroup : Node.isGroupKind (.str kind) = groupKinds.contains kind := by
        simp only [Node.isGroupKind, groupKinds, Value.isText_str, List.contains_cons,
          List.contains_nil, Bool.or_false, Bool.or_assoc]
      unfold Node.conditionIssues
      dsimp only
      rw [hget, hisGroup]
      split
      · exact ⟨_, rfl⟩
      · split
        · rename_i hcontains
          have hconditions : (toEntries (Condition.mk kind options parts)).get "conditions"
              = .ofItems (toValues parts) := by
            rw [toEntries, if_pos hcontains, List.cons_append, Entries.get, get?_cons_str,
              if_neg (by decide), get?_append, get?_eq_none_iff.2 (hgroup hcontains)]
            rfl
          rw [hconditions, toValues_eq_map]
          cases parts with
          | nil => exact ⟨_, rfl⟩
          | cons part parts =>
            refine Outcome.exists_foldlM_eq_ok [] fun issues sub hsub => ?_
            rw [← List.map_cons (f := fun c => Value.ofEntries (toEntries c))] at hsub
            obtain ⟨inner, hinner, rfl⟩ := List.mem_map.1 hsub
            obtain ⟨more, hmore⟩ := ih (hparts inner hinner)
            refine ⟨issues ++ more, ?_⟩
            show (do return issues ++ (← Node.conditionIssues depth (toEntries inner))) = _
            rw [hmore]
            rfl
        · exact ⟨_, rfl⟩

end Condition

end Automation
