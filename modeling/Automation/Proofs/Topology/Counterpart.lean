import Automation.Proofs.Graph.Counterpart
import Automation.Proofs.Topology.Retread

/-!
# Reports on graphs that correspond

The joins of a graph without cycles are the nearest places that every run passes, and what runs pass
does not depend on names or on the order of nodes and edges (`Graph.Counterpart.passes`). So graphs
that correspond have the joins of each other (`Graph.Counterpart.join?_eq`), the walk that looks for
nodes met twice goes the same way in both (`Graph.Counterpart.retread_eq`), and the reports on them
agree (`Graph.Counterpart.exists_analyze`). This takes graphs in which no node has the name of the
end of every run: the table of joins holds the end under that name.
-/

namespace Automation

variable {σ : Equiv.Perm String} {R : Node → Node → Prop} {g g' : Graph} {limits : Limits}

/-- Two reports that a writer treats alike, under other names. -/
structure TopologyReport.Counterpart (σ : Equiv.Perm String) (r r' : TopologyReport) : Prop where
  isNative : r'.isNative = r.isNative
  entry : r'.entry = r.entry.map σ
  join? : ∀ id, r'.join? (σ id) = (r.join? id).map σ

namespace Graph.Counterpart

/-! ## Joins -/

theorem passes (h : Counterpart σ R g g') {goal current : Option String}
    (hgoal : Passes g goal current) : Passes g' (goal.map σ) (current.map σ) := by
  induction hgoal with
  | here => exact .here
  | @step id kind hkind hcondition _ ih =>
    have hat : g.isConditionAt id = false := by
      rw [isConditionAt, hkind, Option.any_some, hcondition]
    rw [← h.successor?_eq hat] at ih
    exact .step ((h.kind?_eq id).trans hkind) hcondition ih
  | @branch id kind hkind hcondition _ _ htrue hfalse =>
    rw [whenTrue?, ← h.branch?_eq] at htrue
    rw [whenFalse?, ← h.branch?_eq] at hfalse
    exact .branch ((h.kind?_eq id).trans hkind) hcondition htrue hfalse

theorem passesBehind (h : Counterpart σ R g g') {goal : Option String} {id : String}
    (hgoal : PassesBehind g goal id) : PassesBehind g' (goal.map σ) (σ id) := by
  obtain ⟨kind, hkind, hstep, hbranch⟩ := hgoal
  refine ⟨kind, (h.kind?_eq id).trans hkind, fun hcondition => ?_, fun hcondition => ?_⟩
  · rw [h.successor?_eq (by rw [isConditionAt, hkind, Option.any_some, hcondition])]
    exact h.passes (hstep hcondition)
  · rw [whenTrue?, whenFalse?, h.branch?_eq, h.branch?_eq]
    exact ⟨h.passes (hbranch hcondition).1, h.passes (hbranch hcondition).2⟩

theorem meetsAt (h : Counterpart σ R g g') {id : String} {place : Option String}
    (hplace : MeetsAt g id place) : MeetsAt g' (σ id) (place.map σ) := by
  refine ⟨h.passesBehind hplace.passes, fun goal hgoal => ?_⟩
  have hback := h.symm.passesBehind hgoal
  rw [Equiv.symm_apply_apply] at hback
  have := h.passes (hplace.nearest _ hback)
  rwa [Option.map_map, Equiv.self_comp_symm, Option.map_id_fun, id_eq] at this

variable {t t' : JoinTable}

/-- A node without a row has no join. -/
theorem join?_eq_none {id : String} (h : id ∉ t.map (·.id)) : t.join? id = none := by
  refine Option.map_eq_none_iff.2 (List.find?_eq_none.2 fun row hrow hid => h ?_)
  rw [← beq_iff_eq.1 hid]
  exact List.mem_map_of_mem hrow

theorem place_apply (hσ : σ exitName = exitName) (name : String) :
    (place name).map σ = place (σ name) := by
  by_cases hname : name = exitName
  · rw [hname, hσ, place, if_pos rfl, Option.map_none]
  · have : σ name ≠ exitName := fun heq => hname (σ.injective (heq.trans hσ.symm))
    rw [place_of_ne hname, place_of_ne this, Option.map_some]

/-- Exact tables with rows for nodes in the places of each other have joins in the places of each
other. -/
theorem join?_eq (h : Counterpart σ R g g') (hσ : σ exitName = exitName) {rank : String → Nat}
    (hrank : g.Ranked rank) (ht : JoinTable.Exact g t) (ht' : JoinTable.Exact g' t')
    (hrows : ∀ id, σ id ∈ t'.map (·.id) ↔ id ∈ t.map (·.id)) (id : String) :
    t'.join? (σ id) = (t.join? id).map σ := by
  by_cases hid : id ∈ t.map (·.id)
  · obtain ⟨row, hrow, rfl⟩ := List.mem_map.1 hid
    obtain ⟨row', hrow', hid'⟩ := List.mem_map.1 ((hrows row.id).2 hid)
    have hjoin' := JoinTable.join?_of_mem ht'.nodup hrow'
    rw [hid'] at hjoin'
    have hplace := (h.ranked hrank).place_join ht' hjoin' (h.meetsAt (ht.meets row hrow))
    rw [place_apply hσ] at hplace
    rw [hjoin', JoinTable.join?_of_mem ht.nodup hrow, Option.map_some, place_inj hplace]
  · rw [join?_eq_none hid, join?_eq_none fun hmem => hid ((hrows id).1 hmem), Option.map_none]

/-- Runs go through the nodes in the places of each other. -/
theorem exists_body (h : Counterpart σ R g g') {id : String}
    (hid : ∃ n ∈ g.nodes, n.id = id ∧ n.kind.isTrigger = false ∧ g.Reaches id) :
    ∃ n ∈ g'.nodes, n.id = σ id ∧ n.kind.isTrigger = false ∧ g'.Reaches (σ id) := by
  obtain ⟨m, hm, rfl, htrigger, hreaches⟩ := hid
  obtain ⟨n, hn, hR⟩ := h.exists_node hm
  exact ⟨n, hn, (h.node hR).id, (h.node hR).kind ▸ htrigger, h.reaches hreaches⟩

/-- The tables of the joins of two graphs without cycles. -/
theorem exists_bodyJoins (h : Counterpart σ R g g') (hσ : σ exitName = exitName)
    {rank : String → Nat} (hrank : g.Ranked rank) (hexit : g.NoExit) :
    ∃ ids ids' t t', g.body = .ok ids ∧ g'.body = .ok ids' ∧ g.joins ids = .ok t
      ∧ g'.joins ids' = .ok t' ∧ ∀ id, t'.join? (σ id) = (t.join? id).map σ := by
  obtain ⟨ids, t, hbody, hjoins, ht, hrows⟩ := hrank.exists_bodyJoins h.left hexit
  obtain ⟨ids', t', hbody', hjoins', ht', hrows'⟩ :=
    (h.ranked hrank).exists_bodyJoins h.right (h.noExit hσ hexit)
  refine ⟨ids, ids', t, t', hbody, hbody', hjoins, hjoins', h.join?_eq hσ hrank ht ht' fun x => ?_⟩
  rw [hrows, hrows']
  refine ⟨fun hx => ?_, h.exists_body⟩
  have := h.symm.exists_body hx
  rwa [Equiv.symm_apply_apply] at this

/-! ## The walk that meets nodes twice -/

/-- The walk meets the same nodes twice under both names. -/
theorem retread_eq (h : Counterpart σ R g g') (hσ : σ exitName = exitName)
    (hjoin : ∀ id, t'.join? (σ id) = (t.join? id).map σ) (met again : List String)
    (walks : List (String × String)) :
    g'.retread t' (met.map σ) (again.map σ) (walks.map (Prod.map σ σ))
      = (g.retread t met again walks).map (List.map σ) := by
  have hcontains (x : String) (xs : List String) : (xs.map σ).contains (σ x) = xs.contains x := by
    simp [σ.injective.eq_iff]
  -- the end keeps its name, so a walk stops at the counterparts of the places where it stopped
  have htest (id stop : String) : (decide (σ id = σ stop) || decide (σ id = exitName))
      = (decide (id = stop) || decide (id = exitName)) := by
    conv_lhs => rw [← hσ]
    simp only [σ.injective.eq_iff]
  -- the walks that start where a look-up leads
  have hwalk (target : Option String) (stop : String) :
      (((target.map σ).map fun x => (x, σ stop)).toList : List (String × String))
        = ((target.map fun x => (x, stop)).toList).map (Prod.map σ σ) := by
    cases target <;> rfl
  -- by induction on the walk in the first graph: each step is answered by the same step
  induction met, again, walks using retread.induct g t with
  | case1 met again =>
    rw [List.map_nil, retread, retread]
    rfl
  | case2 met again id stop rest hstop ih =>
    rw [List.map_cons, Prod.map_apply, retread, if_pos ((htest id stop).trans hstop), ih, retread,
      if_pos hstop]
  | case3 met again id stop rest hstop hmet ih =>
    rw [List.map_cons, Prod.map_apply, retread, if_neg (by rwa [htest]),
      dif_pos ((hcontains id met).trans hmet), retread, if_neg hstop, dif_pos hmet, hcontains]
    have hagain : (if again.contains id = true then again.map σ else σ id :: again.map σ)
        = (if again.contains id = true then again else id :: again).map σ := by
      split <;> rfl
    rw [hagain]
    exact ih
  | case4 met again id stop rest hstop hmet hnone =>
    rw [List.map_cons, Prod.map_apply,
      retread_of_kind?_eq_none (by rwa [htest]) (by rwa [hcontains]) ((h.kind?_eq id).trans hnone),
      retread_of_kind?_eq_none hstop hmet hnone]
    rfl
  | case5 met again id stop rest hstop hmet kind hkind hcondition hnone =>
    rw [List.map_cons, Prod.map_apply,
      retread_of_join?_eq_none (by rwa [htest]) (by rwa [hcontains]) ((h.kind?_eq id).trans hkind)
        hcondition (by rw [hjoin, hnone, Option.map_none]),
      retread_of_join?_eq_none hstop hmet hkind hcondition hnone]
    rfl
  | case6 met again id stop rest hstop hmet kind hkind hcondition join hfound branches ih =>
    rw [List.map_cons, Prod.map_apply,
      retread_branch (by rwa [htest]) (by rwa [hcontains]) ((h.kind?_eq id).trans hkind) hcondition
        ((hjoin id).trans (by rw [hfound, Option.map_some])),
      retread_branch hstop hmet hkind hcondition hfound, whenTrue?, whenFalse?, h.branch?_eq,
      h.branch?_eq, hwalk, hwalk, ← List.map_append, ← List.map_append, ← List.map_cons]
    have hbranches : branches ++ rest
        = ((g.branch? id handleTrue).map fun target => (target, join)).toList
          ++ (((g.branch? id handleFalse).map fun target => (target, join)).toList ++ rest) :=
      branches_append g id join rest
    rw [List.cons_append, hbranches] at ih
    exact ih
  | case7 met again id stop rest hstop hmet kind hkind hcondition next ih =>
    have hstep : kind.isCondition = false := by simpa using hcondition
    rw [List.map_cons, Prod.map_apply,
      retread_step (by rwa [htest]) (by rwa [hcontains]) ((h.kind?_eq id).trans hkind) hstep,
      retread_step hstop hmet hkind hstep,
      h.successor?_eq (by rw [isConditionAt, hkind, Option.any_some, hstep]), hwalk,
      ← List.map_append, ← List.map_cons]
    exact ih

/-! ## Reports -/

theorem check_eq (h : Counterpart σ R g g') : g'.check limits = g.check limits := by
  unfold check
  rw [h.length_nodes, h.left, h.right]

theorem firstNodes_eq (h : Counterpart σ R g g') :
    g'.firstNodes = g.firstNodes.map (Option.map σ) := by
  have hall : ∀ ts ts', List.Forall₂ R ts ts' → (∀ t ∈ ts, t ∈ g.triggers) →
      (ts'.map fun t => g'.successor? t.id)
        = (ts.map fun t => g.successor? t.id).map (Option.map σ) := by
    intro ts ts' hts
    induction hts with
    | nil => exact fun _ => rfl
    | @cons t t' ts ts' hR _ ih =>
      intro hmem
      obtain ⟨ht, hmem⟩ := List.forall_mem_cons.1 hmem
      rw [List.map_cons, List.map_cons, List.map_cons, ih hmem, (h.node hR).id,
        h.successor?_eq (h.left.isConditionAt_of_mem_triggers ht)]
  exact hall _ _ h.triggers fun _ ht => ht

theorem triggersAgree_eq (h : Counterpart σ R g g') : g'.triggersAgree = g.triggersAgree := by
  unfold triggersAgree
  rw [h.firstNodes_eq]
  cases g.firstNodes with
  | nil => rfl
  | cons first rest =>
    rw [List.map_cons]
    dsimp only
    rw [List.all_map]
    refine congrArg rest.all (funext fun x => ?_)
    simp [(Option.map_injective σ.injective).eq_iff]

/-- The triggers of both graphs lead to the same place, if they agree. -/
theorem entry_eq (h : Counterpart σ R g g') :
    (if g'.triggersAgree then (g'.firstNodes.head?).join else none)
      = (if g.triggersAgree then (g.firstNodes.head?).join else none).map σ := by
  rw [h.triggersAgree_eq, h.firstNodes_eq, List.head?_map]
  split
  · cases g.firstNodes.head? <;> rfl
  · rfl

theorem isEmpty_divergent (h : Counterpart σ R g g') :
    (if g'.triggersAgree then [] else g'.triggers.map (·.id)).isEmpty
      = (if g.triggersAgree then [] else g.triggers.map (·.id)).isEmpty := by
  rw [h.triggersAgree_eq]
  split
  · rfl
  · rw [List.isEmpty_map, List.isEmpty_map, Bool.eq_iff_iff, List.isEmpty_iff_length_eq_zero,
      List.isEmpty_iff_length_eq_zero, h.triggers.length_eq]

/-- The reports on two graphs without cycles that meet the same nodes again. -/
theorem report_of_joins (h : Counterpart σ R g g') (hσ : σ exitName = exitName)
    (hjoin : ∀ id, t'.join? (σ id) = (t.join? id).map σ) (entry : Option String)
    (again : List String) :
    TopologyReport.Counterpart σ
      { reachable := g.reachable,
        unreachable := (g.nodes.map (·.id)).filter fun id => !g.reachable.contains id,
        reconvergent := again.reverse,
        divergent := if g.triggersAgree then [] else g.triggers.map (·.id),
        entry, joins := t }
      { reachable := g'.reachable,
        unreachable := (g'.nodes.map (·.id)).filter fun id => !g'.reachable.contains id,
        reconvergent := (again.map σ).reverse,
        divergent := if g'.triggersAgree then [] else g'.triggers.map (·.id),
        entry := entry.map σ, joins := t' } := by
  refine ⟨?_, rfl, fun id => ?_⟩
  · unfold TopologyReport.isNative
    dsimp only
    rw [h.isEmpty_divergent, List.isEmpty_reverse, List.isEmpty_reverse, List.isEmpty_map]
  · unfold TopologyReport.join?
    dsimp only
    rw [hjoin]
    cases t.join? id with
    | none => rfl
    | some join => exact (place_apply hσ join).symm

/-- Two graphs are analyzed alike when they have the joins of each other. -/
theorem matches_analyze_of_joins (h : Counterpart σ R g g') (hσ : σ exitName = exitName)
    (hjoins : g.backEdges = [] → Outcome.Matches (fun t t' : JoinTable =>
      ∀ id, t'.join? (σ id) = (t.join? id).map σ) (g.body >>= g.joins) (g'.body >>= g'.joins)) :
    Outcome.Matches (TopologyReport.Counterpart σ) (g.analyze limits) (g'.analyze limits) := by
  unfold analyze
  rw [h.check_eq]
  cases hcheck : g.check limits with
  | error failure => exact .error failure
  | ok =>
    rw [Outcome.ok_bind, Outcome.ok_bind]
    dsimp only
    rw [h.entry_eq]
    generalize (if g.triggersAgree then (g.firstNodes.head?).join else none) = entry
    by_cases hback : g.backEdges = []
    · rw [h.backEdges_eq_nil_iff.2 hback, hback]
      simp only [List.isEmpty_nil, if_true]
      rw [← bind_assoc, ← bind_assoc]
      refine (hjoins hback).bind fun t t' hjoin => ?_
      cases entry with
      | none => exact .ok (h.report_of_joins hσ hjoin none [])
      | some id =>
        have hretread := h.retread_eq hσ hjoin [] [] [(id, exitName)]
        rw [List.map_singleton, Prod.map_apply, hσ] at hretread
        dsimp only [Option.map_some]
        rw [show g'.retread t' [] [] [(σ id, exitName)] = _ from hretread]
        exact (Outcome.Matches.of_map _ _).bind fun again _ heq =>
          heq ▸ .ok (h.report_of_joins hσ hjoin (some id) again)
    · -- a cycle shows in both reports, which have no joins then
      have hcycle : g.backEdges.isEmpty = false := List.isEmpty_eq_false_iff.2 hback
      have hcycle' : g'.backEdges.isEmpty = false :=
        List.isEmpty_eq_false_iff.2 fun hnil => hback (h.backEdges_eq_nil_iff.1 hnil)
      rw [hcycle, hcycle']
      simp only [Bool.false_eq_true, if_false, Outcome.ok_bind]
      have hnative {r : TopologyReport} (hr : r.backEdges.isEmpty = false) : r.isNative = false := by
        unfold TopologyReport.isNative
        rw [hr]
        rfl
      cases entry with
      | none => exact .ok ⟨(hnative hcycle').trans (hnative hcycle).symm, rfl, fun _ => rfl⟩
      | some id => exact .ok ⟨(hnative hcycle').trans (hnative hcycle).symm, rfl, fun _ => rfl⟩

/-- Two graphs without a node that has the name of the end are analyzed alike. -/
theorem matches_analyze (h : Counterpart σ R g g') (hσ : σ exitName = exitName)
    (hexit : g.NoExit) :
    Outcome.Matches (TopologyReport.Counterpart σ) (g.analyze limits) (g'.analyze limits) := by
  refine h.matches_analyze_of_joins hσ fun hback => ?_
  obtain ⟨rank, hrank⟩ := h.left.exists_ranked hback
  obtain ⟨ids, ids', t, t', hbody, hbody', hjoins, hjoins', hjoin⟩ :=
    h.exists_bodyJoins hσ hrank hexit
  rw [hbody, hbody', Outcome.ok_bind, Outcome.ok_bind, hjoins, hjoins']
  exact .ok hjoin

/-- Two graphs are written by one strategy. -/
theorem classify_eq (h : Counterpart σ R g g') (hσ : σ exitName = exitName) (hexit : g.NoExit) :
    g'.classify limits = g.classify limits := by
  unfold classify
  refine (h.matches_analyze hσ hexit).bind_eq fun r r' hr => ?_
  rw [TopologyReport.strategy, hr.isNative, TopologyReport.strategy]

end Graph.Counterpart

end Automation
