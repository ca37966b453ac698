import Automation.Proofs.Topology.Finishing
import Automation.Proofs.Topology.Retread
import Automation.Proofs.Topology.Ways

/-!
# Regions of graphs without cycles

In a graph without cycles every walk has a region (`Graph.Ranked.exists_region`), and only one
(`Graph.Region.eq`). A region up to a place that every run into it passes stays one from node to
node, because joins are the nearest such places (`Graph.Delimited.branch`). The walk of a report
meets a node twice exactly if its region lists a node twice (`Graph.exists_delimited`).
-/

namespace Automation

namespace Graph

open JoinTable (Exact)

variable {g : Graph} {t : JoinTable}

/-! ## Delimited regions -/

/-- A region up to a place that every run into it passes. -/
structure Delimited (g : Graph) (t : JoinTable) (current stop : Option String) (ids : List String) :
    Prop where
  region : Region g t current stop ids
  passes : Passes g stop current

namespace Delimited

variable {stop : Option String} {ids : List String}

/-- Without a node to start at, the region is empty and the walk stops at the end. -/
theorem of_none (h : Delimited g t none stop ids) : ids = [] ∧ stop = none :=
  ⟨h.region.eq_nil (.inl rfl), h.passes.eq_none⟩

theorem of_eq {current : Option String} (h : Delimited g t current current ids) : ids = [] :=
  h.region.eq_nil (.inr rfl)

/-- The region behind a step. -/
theorem step {id : String} {kind : NodeKind} (h : Delimited g t (some id) stop ids)
    (hne : stop ≠ some id) (hkind : g.kind? id = some kind) (hcondition : kind.isCondition = false) :
    ∃ rest, ids = id :: rest ∧ Delimited g t (g.successor? id) stop rest := by
  obtain ⟨kind', hkind', hstep, -⟩ := h.region.enter hne
  cases hkind.symm.trans hkind'
  obtain ⟨rest, rfl, hrest⟩ := hstep hcondition
  exact ⟨rest, rfl, hrest, h.passes.of_step hne hkind hcondition⟩

/-- The regions behind a condition, and of its branches up to its join. -/
theorem branch (ht : Exact g t) {id : String} {kind : NodeKind} (h : Delimited g t (some id) stop ids)
    (hne : stop ≠ some id) (hkind : g.kind? id = some kind) (hcondition : kind.isCondition = true) :
    ∃ join behind whenTrue whenFalse, ids = id :: (behind ++ (whenTrue ++ whenFalse))
      ∧ t.join? id = some join ∧ Delimited g t (place join) stop behind
      ∧ Delimited g t (g.whenTrue? id) (place join) whenTrue
      ∧ Delimited g t (g.whenFalse? id) (place join) whenFalse := by
  obtain ⟨kind', hkind', -, hbranch⟩ := h.region.enter hne
  cases hkind.symm.trans hkind'
  obtain ⟨join, behind, whenTrue, whenFalse, hjoin, rfl, hbehind, htrue, hfalse⟩ := hbranch hcondition
  obtain ⟨row, hrow, rfl, rfl⟩ := JoinTable.join?_eq_some hjoin
  obtain ⟨⟨kind', hkind', -, hboth⟩, hnearest⟩ := ht.meets row hrow
  cases hkind.symm.trans hkind'
  obtain ⟨hpassesTrue, hpassesFalse⟩ := hboth hcondition
  exact ⟨row.join, behind, whenTrue, whenFalse, rfl, hjoin,
    ⟨hbehind, hnearest stop (.of_passes hkind h.passes hne)⟩, ⟨htrue, hpassesTrue⟩,
    ⟨hfalse, hpassesFalse⟩⟩

end Delimited

/-! ## There is one region -/

/-- A walk has one region. -/
theorem Region.eq {current stop : Option String} {ids ids' : List String}
    (h : Region g t current stop ids) (h' : Region g t current stop ids') : ids = ids' := by
  induction h generalizing ids' with
  | ended => exact (h'.eq_nil (.inl rfl)).symm
  | stop => exact (h'.eq_nil (.inr rfl)).symm
  | step hne hkind hcondition _ ih =>
    obtain ⟨kind', hkind', hstep, -⟩ := h'.enter hne
    cases hkind.symm.trans hkind'
    obtain ⟨rest, rfl, hrest⟩ := hstep hcondition
    rw [ih hrest]
  | branch hne hkind hcondition hjoin _ _ _ ihbehind ihtrue ihfalse =>
    obtain ⟨kind', hkind', -, hbranch⟩ := h'.enter hne
    cases hkind.symm.trans hkind'
    obtain ⟨join, behind, whenTrue, whenFalse, hjoin', rfl, hbehind, htrue, hfalse⟩ :=
      hbranch hcondition
    cases hjoin.symm.trans hjoin'
    rw [ihbehind hbehind, ihtrue htrue, ihfalse hfalse]

variable {rank : String → Nat} {bound : Nat}

/-- The join of a node is the end or a node of higher rank. -/
theorem Ranked.lt_of_join? (hg : g.Ranked rank) (ht : Exact g t) {id join : String}
    (hjoin : t.join? id = some join) : ∀ s ∈ place join, s ∈ t.map (·.id) ∧ rank id < rank s := by
  obtain ⟨row, hrow, rfl, rfl⟩ := JoinTable.join?_eq_some hjoin
  intro s hs
  refine ⟨ht.mem_of_place hrow s hs, hg.lt_of_passesBehind ?_⟩
  rw [← Option.mem_def.1 hs]
  exact (ht.meets row hrow).passes

/-- A walk has a region, from wherever it starts. -/
theorem Ranked.exists_region (hg : g.Ranked rank) (hbound : ∀ id, rank id ≤ bound) (ht : Exact g t)
    (hkinds : ∀ id ∈ t.map (·.id), ∃ kind, g.kind? id = some kind)
    (hclosed : ∀ e ∈ g.edges, e.source ∈ t.map (·.id) → e.target ∈ t.map (·.id))
    {current : Option String} (stop : Option String) (hcurrent : ∀ s ∈ current, s ∈ t.map (·.id)) :
    ∃ ids, Region g t current stop ids := by
  -- by induction on how far the rank of the node is below the highest one
  suffices hall : ∀ k, ∀ {current stop : Option String},
      (∀ s ∈ current, s ∈ t.map (·.id) ∧ bound < rank s + k) → ∃ ids, Region g t current stop ids from
    hall (bound + 1) fun s hs => ⟨hcurrent s hs, by omega⟩
  intro k
  induction k with
  | zero =>
    intro current stop hcurrent
    cases current with
    | none => exact ⟨[], .ended _⟩
    | some id =>
      have := hbound id
      have := (hcurrent id rfl).2
      omega
  | succ k ih =>
    intro current stop hcurrent
    cases current with
    | none => exact ⟨[], .ended _⟩
    | some id =>
      obtain ⟨hid, hlow⟩ := hcurrent id rfl
      by_cases hne : stop = some id
      · rw [hne]
        exact ⟨[], .stop _⟩
      have hlater {s : String} (hlt : rank id < rank s) : bound < rank s + k := by omega
      obtain ⟨kind, hkind⟩ := hkinds id hid
      cases hcondition : kind.isCondition with
      | false =>
        obtain ⟨ids, hrest⟩ : ∃ ids, Region g t (g.successor? id) stop ids := ih fun s hs => by
          obtain ⟨e, he, hsource, rfl⟩ := exists_edge_of_successor? hs
          exact ⟨hclosed e he (hsource ▸ hid), hlater (hg.lt_of_successor? hs)⟩
        exact ⟨_, .step hne hkind hcondition hrest⟩
      | true =>
        obtain ⟨row, hrow, rfl⟩ := List.mem_map.1 hid
        have hjoin := JoinTable.join?_of_mem ht.nodup hrow
        have hbranch (handle : String) : ∃ ids, Region g t (g.branch? row.id handle)
            (place row.join) ids := ih fun s hs => by
          obtain ⟨e, he, hsource, rfl, -⟩ := exists_edge_of_branch? hs
          exact ⟨hclosed e he (hsource ▸ hid), hlater (hg.lt_of_branch? hs)⟩
        obtain ⟨behind, hbehind⟩ : ∃ ids, Region g t (place row.join) stop ids := ih fun s hs =>
          (hg.lt_of_join? ht hjoin s hs).imp_right hlater
        obtain ⟨whenTrue, htrue⟩ := hbranch handleTrue
        obtain ⟨whenFalse, hfalse⟩ := hbranch handleFalse
        exact ⟨_, .branch hne hkind hcondition hjoin hbehind htrue hfalse⟩

/-! ## The region of a report -/

section Report

variable {limits : Limits} {r : TopologyReport}

/-- What is reported on a graph without cycles whose triggers agree. -/
theorem of_analyze_eq_ok_of_agree (hback : g.backEdges = []) (hagree : g.triggersAgree = true)
    (h : g.analyze limits = .ok r) :
    ∃ body, g.body = .ok body ∧ g.joins body = .ok r.joins ∧ r.entry = (g.firstNodes.head?).join
      ∧ (r.entry = none → r.reconvergent = [])
      ∧ ∀ id ∈ r.entry, g.retread r.joins [] [] [(id, exitName)] = .ok r.reconvergent.reverse := by
  have hempty : g.backEdges.isEmpty = true := List.isEmpty_iff.2 hback
  unfold analyze at h
  obtain ⟨_, -, h⟩ := Outcome.bind_eq_ok.1 h
  dsimp only at h
  rw [if_pos hempty, if_pos hagree] at h
  obtain ⟨body, hbody, h⟩ := Outcome.bind_eq_ok.1 h
  obtain ⟨table, hjoins, h⟩ := Outcome.bind_eq_ok.1 h
  refine ⟨body, hbody, ?_⟩
  -- the walk starts only if the triggers lead somewhere
  split at h
  · rename_i id hentry
    rw [if_pos hempty] at h
    obtain ⟨again, hagain, h⟩ := Outcome.bind_eq_ok.1 h
    cases h
    refine ⟨hjoins, rfl, fun hnone => ?_, fun id' hid => ?_⟩
    · cases hentry.symm.trans hnone
    · cases hentry.symm.trans hid
      rwa [List.reverse_reverse]
  · rename_i hentry
    cases h
    exact ⟨hjoins, rfl, fun _ => rfl, fun id' hid => by cases hentry.symm.trans hid⟩

/-- The back edges that are reported, and the triggers that lead to different places. -/
theorem backEdges_of_analyze (h : g.analyze limits = .ok r) : r.backEdges = g.backEdges
    ∧ r.divergent = if g.triggersAgree then [] else g.triggers.map (·.id) := by
  unfold analyze at h
  obtain ⟨_, -, h⟩ := Outcome.bind_eq_ok.1 h
  dsimp only at h
  split at h
  · obtain ⟨_, -, h⟩ := Outcome.bind_eq_ok.1 h
    obtain ⟨_, -, h⟩ := Outcome.bind_eq_ok.1 h
    split at h
    · obtain ⟨_, -, h⟩ := Outcome.bind_eq_ok.1 h
      cases h
      exact ⟨rfl, rfl⟩
    · cases h
      exact ⟨rfl, rfl⟩
  · split at h
    · cases h
      exact ⟨rfl, rfl⟩
    · cases h
      exact ⟨rfl, rfl⟩

/-- A native graph has no cycle, its triggers agree, and nothing in it is met again. -/
theorem of_isNative (hwf : g.WellFormed) (h : g.analyze limits = .ok r) (hnative : r.isNative = true) :
    (∀ id, ¬Relation.TransGen g.Leads id id) ∧ g.triggersAgree = true ∧ r.reconvergent = [] := by
  simp only [TopologyReport.isNative, Bool.and_eq_true, List.isEmpty_iff] at hnative
  obtain ⟨⟨hback, hreconvergent⟩, hdivergent⟩ := hnative
  obtain ⟨hbackEdges, htriggers⟩ := backEdges_of_analyze h
  obtain ⟨rank, hg⟩ := hwf.exists_ranked (hbackEdges.symm.trans hback)
  refine ⟨fun id hid => Nat.lt_irrefl _ (hg.lt_of_transGen hid), ?_, hreconvergent⟩
  by_contra hdisagree
  obtain ⟨n, hn, htrigger⟩ := hwf.exists_trigger
  rw [htriggers, if_neg hdisagree, List.map_eq_nil_iff] at hdivergent
  have hmem : n ∈ g.triggers := List.mem_filter.2 ⟨hn, htrigger⟩
  rw [hdivergent] at hmem
  cases hmem

/-- The place that all triggers lead to is the end, or an edge out of a trigger leads there. -/
theorem entered_of_first (hwf : g.WellFormed) {current : Option String}
    (hfirst : ∀ n ∈ g.triggers, g.successor? n.id = current) : ∀ s ∈ current, g.Entered s := by
  obtain ⟨t, ht, htrigger⟩ := hwf.exists_trigger
  have ht : t ∈ g.triggers := List.mem_filter.2 ⟨ht, htrigger⟩
  intro s hs
  rw [← hfirst t ht] at hs
  obtain ⟨e, he, hsource, htarget⟩ := exists_edge_of_successor? hs
  exact ⟨e, he, hsource ▸ .trigger ht, htarget⟩

/-- The region of the walk that starts where all triggers lead holds the nodes that paths lead to,
without the triggers. -/
theorem Region.mem_iff (hwf : g.WellFormed) {current : Option String} {ids : List String}
    (hfirst : ∀ n ∈ g.triggers, g.successor? n.id = current)
    (ht : ∀ row ∈ t, ∀ s ∈ place row.join, g.Entered s) (h : Region g t current none ids)
    {id : String} :
    id ∈ ids ↔ ∃ n ∈ g.nodes, n.id = id ∧ n.kind.isTrigger = false ∧ g.Reaches id := by
  constructor
  · intro hmem
    obtain ⟨e, he, hsource, rfl⟩ := h.entered ht (entered_of_first hwf hfirst) id hmem
    obtain ⟨-, -, -, m, hm, -, hid, htrigger⟩ := hwf.edge he
    exact ⟨m, hm, hid.symm, htrigger, .edge he hsource⟩
  · rintro ⟨n, hn, rfl, htrigger, hreaches⟩
    -- from the triggers on, edges lead into the region and stay there
    have hclosed : ∀ id, g.Reaches id → id ∈ ids ∨ ∃ n ∈ g.triggers, n.id = id := by
      intro id hreaches
      induction hreaches with
      | @trigger n hn => exact .inr ⟨n, hn, rfl⟩
      | @edge e he _ ih =>
        rcases ih with hmem | ⟨n, hn, hid⟩
        · exact (h.mem_or_eq_of_edge hwf he hmem).imp_right fun h =>
            absurd h.symm (Option.some_ne_none _)
        · have hat : g.isConditionAt e.source = false := by
            rw [← hid, hwf.isConditionAt_of_mem_triggers hn]
          have hentry := hfirst n hn
          rw [hid, hwf.successor?_of_mem he hat] at hentry
          rw [← hentry] at h
          exact h.eq_or_mem.elim (fun h => absurd h.symm (Option.some_ne_none _)) .inl
    rcases hclosed n.id hreaches with hmem | ⟨m, hm, hmid⟩
    · exact hmem
    · rw [← hwf.eq_of_id_eq (List.mem_filter.1 hm).1 hn hmid, (List.mem_filter.1 hm).2] at htrigger
      cases htrigger

/-- The walk meets a node again exactly if a node comes twice in its region. -/
theorem Region.nodup_iff_of_retread (hwf : g.WellFormed) (hexit : g.NoExit) {id : String}
    {ids again : List String} (h : Region g t (some id) none ids) (hid : id ≠ exitName)
    (hretread : g.retread t [] [] [(id, exitName)] = .ok again) : ids.Nodup ↔ again = [] := by
  have hstart : place id = some id := place_of_ne hid
  have hend : place exitName = none := if_pos rfl
  constructor
  · intro hnodup
    have hregions : Regions g t [(id, exitName)] (ids ++ []) :=
      .cons (by rwa [hstart, hend]) .nil
    rw [List.append_nil] at hregions
    rw [retread_of_regions hwf hexit hregions hnodup (by simp)] at hretread
    exact (Except.ok.inj hretread).symm
  · rintro rfl
    obtain ⟨-, ids', hregions, hnodup, -⟩ := regions_of_retread hwf hexit hretread
    obtain _ | ⟨h', hrest⟩ := hregions
    cases hrest
    -- a walk has one region only, so it is the given one that has no node twice
    rw [hstart, hend] at h'
    rwa [List.append_nil, h'.eq h] at hnodup

/-- The walk over a graph without cycles whose triggers agree starts where all triggers lead, and
its region holds the nodes that paths lead to, without the triggers. It holds no node twice exactly
if the report names none that is met again. -/
theorem exists_delimited (hwf : g.WellFormed) (hexit : g.NoExit) (hg : g.Ranked rank)
    (hbound : ∀ id, rank id ≤ bound) (hagree : g.triggersAgree = true)
    (h : g.analyze limits = .ok r) :
    Exact g r.joins ∧ (∀ n ∈ g.triggers, g.successor? n.id = r.entry)
      ∧ ∃ ids, Delimited g r.joins r.entry none ids
        ∧ (∀ id, id ∈ ids ↔ ∃ n ∈ g.nodes, n.id = id ∧ n.kind.isTrigger = false ∧ g.Reaches id)
        ∧ (ids.Nodup ↔ r.reconvergent = []) := by
  obtain ⟨body, hbody, hjoins, hentry, hnone, hretread⟩ :=
    of_analyze_eq_ok_of_agree hg.backEdges_eq_nil hagree h
  -- a graph without cycles has a table of joins, and the report holds that table
  obtain ⟨hexact, hrows⟩ : Exact g r.joins ∧ ∀ id, id ∈ r.joins.map (·.id) ↔
      ∃ n ∈ g.nodes, n.id = id ∧ n.kind.isTrigger = false ∧ g.Reaches id := by
    obtain ⟨body', t, hbody', ht, hexact, hrows⟩ := hg.exists_bodyJoins hwf hexit
    cases hbody.symm.trans hbody'
    cases hjoins.symm.trans ht
    exact ⟨hexact, hrows⟩
  have hfirst : ∀ n ∈ g.triggers, g.successor? n.id = r.entry := fun n hn => by
    rw [hentry, successor?_of_triggersAgree hagree hn]
  have hrow {s : String} (hs : g.Entered s) : s ∈ r.joins.map (·.id) := by
    obtain ⟨e, he, hsource, rfl⟩ := hs
    obtain ⟨-, -, -, m, hm, -, hid, htrigger⟩ := hwf.edge he
    exact (hrows _).2 ⟨m, hm, hid.symm, htrigger, .edge he hsource⟩
  obtain ⟨ids, hregion⟩ := hg.exists_region hbound hexact
    (fun id hid => by
      obtain ⟨n, hn, rfl, -⟩ := (hrows id).1 hid
      exact ⟨n.kind, hwf.kind?_of_mem hn⟩)
    (fun e he hsource => by
      obtain ⟨-, -, -, -, hreaches⟩ := (hrows e.source).1 hsource
      exact hrow ⟨e, he, hreaches, rfl⟩)
    none (fun s hs => hrow (entered_of_first hwf hfirst s hs))
  refine ⟨hexact, hfirst, ids, ⟨hregion, hregion.passes_none .here⟩,
    fun id => hregion.mem_iff hwf hfirst (entered_of_joins hbody hjoins), ?_⟩
  cases hcase : r.entry with
  | none =>
    rw [hcase] at hregion
    rw [hregion.eq_nil (.inl rfl)]
    exact iff_of_true List.nodup_nil (hnone hcase)
  | some id =>
    rw [hcase] at hregion
    obtain ⟨e, he, -, rfl⟩ := entered_of_first hwf hfirst id hcase
    rw [hregion.nodup_iff_of_retread hwf hexit (hexit.ne_target hwf he).1 (hretread _ hcase),
      List.reverse_eq_nil_iff]

end Report

end Graph

end Automation
