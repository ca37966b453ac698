import Automation.Proofs.Program.Native

/-!
# Which programs are native

The report on the graph of a program that was read: it has no cycle, all triggers lead to where the
blocks start, and it is native unless something is run behind a choice in which a gate stands
(`Program.Parsed.exists_report`). The graph of a native one is written with as many levels as the
program has (`Program.Parsed.exists_program`).
-/

namespace Automation

namespace Program

/-- The gates in front of the body of a program are no choices. -/
theorem uninterrupted_blocks {p : Program} :
    Block.Uninterrupted p.blocks none ↔ Block.Uninterrupted p.body none := by
  refine ⟨fun h b rest place hwithin => h b rest place (p.within_body.trans hwithin), fun h => ?_⟩
  have hsteps : ∀ gates : List Node,
      Block.Uninterrupted (gates.map .step ++ p.body) none := by
    intro gates
    induction gates with
    | nil => exact h
    | cons gate gates ih => exact ih.cons_step
  exact hsteps p.gates

end Program

namespace Program.Parsed

open Block

variable {limits : Limits} {p : Program} {g : Graph} (h : Parsed p g)

include h

theorem mem_nodes {n : Node} (hn : n ∈ listNodes p.blocks) : n ∈ g.nodes := by
  rw [h.nodes, nodes_eq]
  exact List.mem_append_right _ hn

theorem nodup : ((listNodes p.blocks).map (·.id)).Nodup := by
  have hall := h.wellFormed.nodup
  rw [h.nodes, nodes_eq, List.map_append] at hall
  exact (List.nodup_append'.1 hall).2.1

/-- The blocks can be written back when nothing is run behind a choice in which a gate stands. -/
theorem laid {t : JoinTable} (ht : ∀ id, id ∈ t.map (·.id) ↔ id ∈ (listNodes p.blocks).map (·.id))
    (hexact : JoinTable.Exact g t) (hsmooth : Uninterrupted p.blocks none) :
    Laid g t p.rank p.blocks none := by
  refine ⟨h.standing, .here, fun n hn => ⟨h.wellFormed.lastNode?_of_mem (h.mem_nodes hn), ?_⟩,
    listEntered h.edges (h.nodes ▸ h.wellFormed.nodup) h.gates, hsmooth⟩
  obtain ⟨row, hrow, hid⟩ := List.mem_map.1 ((ht n.id).2 (List.mem_map_of_mem hn))
  exact ⟨row.join, hid ▸ JoinTable.join?_of_mem hexact.nodup hrow⟩

/-- The walk over the blocks, which meets no node twice when they can be written back. -/
theorem exists_fits {t : JoinTable}
    (ht : ∀ id, id ∈ t.map (·.id) ↔ id ∈ (listNodes p.blocks).map (·.id))
    (hexact : JoinTable.Exact g t) (hsmooth : Uninterrupted p.blocks none) {levels : Nat}
    (hlevels : listDepth p.blocks ≤ levels) :
    ∃ ids, Graph.Fits g t false levels (listFirst none p.blocks) none ids ∧ ids.Nodup
      ∧ ids.length ≤ g.nodes.length := by
  obtain ⟨ids, hids, hperm⟩ := (h.laid ht hexact hsmooth).exists_fits h.ranked hexact hlevels id
    (fun _ => rfl) (by simp) (.ended _ _)
  rw [List.append_nil] at hperm
  refine ⟨ids, hids, hperm.nodup_iff.2 h.nodup, ?_⟩
  rw [hperm.length_eq, List.length_map, h.nodes, nodes_eq, List.length_append]
  omega

/-- All triggers lead to where the blocks start. -/
theorem firstNodes : ∃ rest, g.firstNodes = listFirst none p.blocks :: rest
    ∧ ∀ first ∈ rest, first = listFirst none p.blocks := by
  obtain ⟨t, ht, htrigger⟩ := h.wellFormed.exists_trigger
  have hall : ∀ first ∈ g.firstNodes, first = listFirst none p.blocks := by
    intro first hfirst
    obtain ⟨t, ht, rfl⟩ := List.mem_map.1 hfirst
    exact h.successor? (h.triggers ▸ ht)
  have hmem : g.successor? t.id ∈ g.firstNodes :=
    List.mem_map_of_mem (List.mem_filter.2 ⟨ht, htrigger⟩)
  cases hcase : g.firstNodes with
  | nil =>
    rw [hcase] at hmem
    cases hmem
  | cons first rest =>
    rw [hcase] at hall
    obtain ⟨rfl, hrest⟩ := List.forall_mem_cons.1 hall
    exact ⟨rest, rfl, hrest⟩

theorem triggersAgree : g.triggersAgree = true := by
  obtain ⟨rest, hfirst, hrest⟩ := h.firstNodes
  rw [Graph.triggersAgree, hfirst]
  exact List.all_eq_true.2 fun first hmem => beq_iff_eq.2 (hrest first hmem)

/-- A walk over regions without a common node enters nothing behind a choice in which a gate
stands. -/
theorem uninterrupted_of_region {t : JoinTable} (hexact : JoinTable.Exact g t) {ids : List String}
    (hregion : Graph.Region g t (listFirst none p.blocks) none ids) (hnodup : ids.Nodup) :
    Uninterrupted p.blocks none := by
  -- the region has the first node, and with a node all that is behind it
  have hall : ∀ n ∈ listNodes p.blocks, n.id ∈ ids := by
    refine (h.standing.closed (S := (· ∈ ids)) (fun e he hsource => ?_) fun x hx => ?_).1
    · exact (hregion.mem_or_eq_of_edge h.wellFormed he hsource).resolve_right (by simp)
    · rw [Option.mem_def.1 hx] at hregion
      exact hregion.eq_or_mem.resolve_left (by simp)
  intro b rest place hwithin hchooses hgated
  match b with
  | .step n => cases hchooses
  | .choice [] otherwise => cases hchooses
  | .choice ((n, body) :: options) otherwise =>
    -- something behind a gated choice would be met on two ways, and so stand twice in the region
    cases hbehind : listFirst place rest with
    | none => rfl
    | some k =>
      obtain ⟨hstanding, hend⟩ := hwithin.standing h.standing .here
      have hpasses := hstanding.tail.passes (fun _ => rfl) hend
      have hhead := hstanding.head
      rw [hbehind] at hpasses hhead
      have hn : n ∈ listNodes p.blocks := hwithin.subset <| by
        rw [listNodes_option]
        exact List.mem_cons_self
      exact absurd hnodup (hhead.conflict h.wellFormed h.ranked hexact hpasses hgated hregion
        (hall n hn))

/-- The walk over the graph meets no node twice, unless something is run behind a choice in which a
gate stands. -/
theorem exists_retread {t : JoinTable}
    (ht : ∀ id, id ∈ t.map (·.id) ↔ id ∈ (listNodes p.blocks).map (·.id))
    (hexact : JoinTable.Exact g t) {first : String}
    (hfirst : listFirst none p.blocks = some first) :
    ∃ again, g.retread t [] [] [(first, exitName)] = .ok again
      ∧ (again = [] ↔ Uninterrupted p.blocks none) := by
  obtain ⟨n, hn, rfl⟩ := (mem_listFirst hfirst).resolve_left (by simp)
  have hplace : Graph.place n.id = some n.id := Graph.place_of_ne (h.noExit n (h.mem_nodes hn))
  have hend : Graph.place exitName = none := by rw [Graph.place, if_pos rfl]
  -- all nodes have joins, so the regions are walked to the end
  obtain ⟨again, hagain⟩ : ∃ again, g.retread t [] [] [(n.id, exitName)] = .ok again := by
    have hkinds : ∀ id ∈ t.map (·.id), ∃ kind, g.kind? id = some kind := fun id hid => by
      obtain ⟨n, hn, rfl⟩ := List.mem_map.1 ((ht id).1 hid)
      exact ⟨n.kind, h.standing.kinds n hn⟩
    refine Graph.exists_retread hkinds (fun e he _ => ?_) (fun id hid => ?_)
      (List.forall_mem_singleton.2 fun s hs => ?_)
    · obtain ⟨m, hm, hid⟩ := h.exists_target he
      exact (ht _).2 (hid ▸ List.mem_map_of_mem hm)
    · obtain ⟨row, hrow, rfl⟩ := List.mem_map.1 hid
      exact ⟨row.join, JoinTable.join?_of_mem hexact.nodup hrow, hexact.mem_of_place hrow⟩
    · rw [hplace] at hs
      cases hs
      exact (ht n.id).2 (List.mem_map_of_mem hn)
  refine ⟨again, hagain, fun hnil => ?_, fun hsmooth => ?_⟩
  -- without a retread the walk is one region, which meets no node twice
  · rw [hnil] at hagain
    obtain ⟨-, ids, hregions, hnodup, -⟩ := Graph.regions_of_retread h.wellFormed h.noExit hagain
    obtain _ | ⟨hregion, hrest⟩ := hregions
    cases hrest
    rw [List.append_nil] at hnodup
    rw [hplace, hend, ← hfirst] at hregion
    exact h.uninterrupted_of_region hexact hregion hnodup
  · obtain ⟨ids, hids, hnodup, -⟩ := h.exists_fits ht hexact hsmooth (Nat.le_refl _)
    have hregion := hids.region
    rw [hfirst, ← hplace, ← hend] at hregion
    have hnone : g.retread t [] [] [(n.id, exitName)] = .ok [] :=
      Graph.retread_of_regions h.wellFormed h.noExit (.cons hregion .nil)
        (by rwa [List.append_nil]) (by simp)
    rw [hagain] at hnone
    exact Except.ok.inj hnone

/-- The report on the graph is a walk from the first node of its blocks, once the joins are known. -/
theorem analyze_eq (hsize : g.nodes.length ≤ limits.maxGraphNodes) {ids : List String}
    {t : JoinTable} (hbody : g.body = .ok ids) (hjoins : g.joins ids = .ok t) :
    g.analyze limits = (do
      let again ← (listFirst none p.blocks).elim (.ok []) fun id =>
        g.retread t [] [] [(id, exitName)]
      return { reachable := g.reachable, reconvergent := again.reverse,
               entry := listFirst none p.blocks, joins := t }) := by
  have hcheck : g.check limits = .ok () := Graph.check_eq_ok_iff.2 ⟨hsize, h.wellFormed⟩
  have hentry : (g.firstNodes.head?).join = listFirst none p.blocks := by
    obtain ⟨rest, hfirst, -⟩ := h.firstNodes
    rw [hfirst]
    rfl
  -- every node of a program is reached from each trigger
  have hunreachable : ((g.nodes.map (·.id)).filter fun id => !g.reachable.contains id) = [] := by
    refine List.filter_eq_nil_iff.2 fun id hid => ?_
    obtain ⟨n, hn, rfl⟩ := List.mem_map.1 hid
    have := Graph.mem_reachable_iff.2 (h.reaches hn)
    simp [this]
  unfold Graph.analyze
  rw [hcheck, Outcome.ok_bind, h.ranked.backEdges_eq_nil, h.triggersAgree, hbody]
  cases hfirst : listFirst none p.blocks with
  | none =>
    rw [hfirst] at hentry
    simp only [List.isEmpty_nil, if_true, Outcome.ok_bind, hjoins, hentry, hunreachable,
      Option.elim_none]
  | some start =>
    rw [hfirst] at hentry
    simp only [List.isEmpty_nil, if_true, Outcome.ok_bind, hjoins, hentry, hunreachable,
      Option.elim_some]

/-- The report on the graph: it has no cycle, the triggers agree, every node of the blocks has its
join, and the graph is native unless something is run behind a choice in which a gate stands. -/
theorem exists_report (hsize : g.nodes.length ≤ limits.maxGraphNodes) :
    ∃ r, g.analyze limits = .ok r ∧ r.backEdges = [] ∧ r.divergent = []
      ∧ r.entry = listFirst none p.blocks ∧ r.unreachable = [] ∧ JoinTable.Exact g r.joins
      ∧ (∀ id, id ∈ r.joins.map (·.id) ↔ id ∈ (listNodes p.blocks).map (·.id))
      ∧ (r.isNative = true ↔ Uninterrupted p.blocks none) := by
  obtain ⟨ids, t, hbody, hjoins, hexact, ht⟩ := h.exists_joins
  have hanalyze := h.analyze_eq hsize hbody hjoins
  cases hfirst : listFirst none p.blocks with
  | none =>
    rw [hfirst] at hanalyze
    refine ⟨_, hanalyze, rfl, rfl, rfl, rfl, hexact, ht, fun _ => ?_, fun _ => rfl⟩
    -- without a node there is no choice
    have hnone : listNodes p.blocks = [] := (listFirst_eq_none.1 hfirst).1
    intro b rest place hwithin hchooses
    cases b with
    | step n => cases hchooses
    | choice options otherwise =>
      cases options with
      | nil => cases hchooses
      | cons o options => cases hnone ▸ hwithin.subset List.mem_cons_self
  | some first =>
    obtain ⟨again, hagain, hiff⟩ := h.exists_retread ht hexact hfirst
    rw [hfirst, Option.elim_some, hagain, Outcome.ok_bind] at hanalyze
    refine ⟨_, hanalyze, rfl, rfl, rfl, rfl, hexact, ht, ?_⟩
    rw [← hiff]
    simp [TopologyReport.isNative]

/-- The program that the graph is written as, when it is native and has no more levels than may be
written. -/
theorem exists_program {r : TopologyReport} (hentry : r.entry = listFirst none p.blocks)
    (hexact : JoinTable.Exact g r.joins)
    (hjoins : ∀ id, id ∈ r.joins.map (·.id) ↔ id ∈ (listNodes p.blocks).map (·.id))
    (hsmooth : Uninterrupted p.blocks none) (hlimit : 0 ≤ limits.maxNesting)
    (hlevels : listDepth p.blocks ≤ limits.maxNesting.toNat) :
    ∃ q, g.program limits r = .ok q := by
  obtain ⟨ids, hids, -, hlength⟩ := h.exists_fits hjoins hexact hsmooth hlevels
  rw [← hentry] at hids
  obtain ⟨q, hq, -⟩ := Graph.exists_program hlimit hids (Nat.le_succ_of_le hlength)
  exact ⟨q, hq⟩

end Program.Parsed

end Automation
