import Automation.Proofs.Topology.Finishing
import Automation.Proofs.Topology.Retread

/-!
# Every well-formed graph has joins

A node may have the name that stands for the end of the run (`exitName`), and then the rows of a
table of joins do not tell where runs come together. They still lead upwards, from level to level
(`JoinTable.Levelled`), which is all that a search for a join needs: the table of a graph without
its back edges is never left unfinished (`Graph.Ranked.exists_levelled`), and neither is the report
on the graph (`Graph.WellFormed.exists_analyze`) nor the list of what its blocks are skipped to
(`Graph.WellFormed.exists_blockJoins`).
-/

namespace Automation

open Automation.Graph

namespace JoinTable

variable {t : JoinTable}

/-- A table whose rows lead upwards. A row on the first level leads to the end of the run, and any
other to a row on the level above it. -/
structure Levelled (t : JoinTable) : Prop where
  nodup : (t.map (·.id)).Nodup
  upward : ∀ row ∈ t, (row.join = exitName ∧ row.depth = 1)
    ∨ ∃ above ∈ t, above.id = row.join ∧ row.depth = above.depth + 1
  bounded : ∀ row ∈ t, row.depth ≤ t.length

namespace Levelled

theorem nil : Levelled [] := ⟨List.nodup_nil, by simp, by simp⟩

variable (h : Levelled t)

include h

theorem depth_le {a : String} {level : Nat} (ha : t.depth? a = some level) : level ≤ t.length := by
  rcases eq_or_mem_of_depth? ha with ⟨-, rfl⟩ | ⟨row, hrow, -, rfl⟩
  · exact Nat.zero_le _
  · exact h.bounded row hrow

theorem depth_pos {row : JoinRow} (hrow : row ∈ t) : 0 < row.depth := by
  rcases h.upward row hrow with ⟨-, hdepth⟩ | ⟨above, -, -, hdepth⟩ <;> omega

/-- Only the end of the run is on no level, and only when no node has its name. -/
theorem eq_exitName_of_depth? {a : String} (ha : t.depth? a = some 0) :
    a = exitName ∧ exitName ∉ t.map (·.id) := by
  rcases eq_or_mem_of_depth? ha with ⟨rfl, -⟩ | ⟨row, hrow, -, hdepth⟩
  · refine ⟨rfl, fun hmem => ?_⟩
    obtain ⟨row, hrow, hid⟩ := List.mem_map.1 hmem
    rw [← hid, depth?_of_mem h.nodup hrow] at ha
    exact absurd (Option.some.inj ha) (Nat.ne_of_gt (h.depth_pos hrow))
  · exact absurd hdepth (Nat.ne_of_gt (h.depth_pos hrow))

theorem exists_depth? {a : String} (ha : a = exitName ∨ a ∈ t.map (·.id)) :
    ∃ level, t.depth? a = some level := by
  by_cases hmem : a ∈ t.map (·.id)
  · obtain ⟨row, hrow, rfl⟩ := List.mem_map.1 hmem
    exact ⟨row.depth, depth?_of_mem h.nodup hrow⟩
  · refine ⟨0, ?_⟩
    rw [depth?, List.find?_eq_none.2, if_pos (ha.resolve_right hmem)]
    exact fun row hrow hid => hmem (beq_iff_eq.1 hid ▸ List.mem_map_of_mem hrow)

/-- Above a node lies its join: the end of the run, or a node one level less deep. -/
theorem exists_join {a : String} {level : Nat} (ha : t.depth? a = some (level + 1)) :
    ∃ join, t.join? a = some join
      ∧ ((join = exitName ∧ level = 0) ∨ (t.depth? join = some level ∧ level ≠ 0)) := by
  rcases eq_or_mem_of_depth? ha with ⟨-, hzero⟩ | ⟨row, hrow, rfl, hdepth⟩
  · cases hzero
  · refine ⟨row.join, join?_of_mem h.nodup hrow, ?_⟩
    rcases h.upward row hrow with ⟨hjoin, hone⟩ | ⟨above, habove, hid, hlevel⟩
    · exact .inl ⟨hjoin, by omega⟩
    · have hpos := h.depth_pos habove
      refine .inr ⟨?_, by omega⟩
      rw [← hid, depth?_of_mem h.nodup habove]
      exact congrArg some (by omega)

/-- A climb ends at the level that it is to reach. That is level zero only where no node has the
name of the end of the run. -/
theorem exists_climb? {limit : Nat} (hlimit : limit = 0 → exitName ∉ t.map (·.id)) {fuel : Nat}
    {a : String} {level : Nat} (ha : t.depth? a = some level) (hfuel : level < fuel) :
    ∃ r, t.climb? limit fuel a = some r ∧ t.depth? r = some (min level limit) := by
  induction fuel generalizing a level with
  | zero => omega
  | succ fuel ih =>
    by_cases hdeep : limit < level
    · obtain ⟨above, rfl⟩ := Nat.exists_eq_add_one_of_ne_zero (by omega : level ≠ 0)
      obtain ⟨join, hjoin, hup⟩ := h.exists_join ha
      -- the join is one level up, or it is the end, which has its level as well
      have hdepth : t.depth? join = some above := by
        rcases hup with ⟨rfl, rfl⟩ | ⟨hdepth, -⟩
        · obtain ⟨level, hlevel⟩ := h.exists_depth? (.inl rfl : exitName = exitName ∨ _)
          rcases eq_or_mem_of_depth? hlevel with ⟨-, rfl⟩ | ⟨row, hrow, hid, -⟩
          · exact hlevel
          · exact absurd (hid ▸ List.mem_map_of_mem hrow) (hlimit (by omega))
        · exact hdepth
      obtain ⟨r, hr, hlevel⟩ := ih hdepth (by omega)
      refine ⟨r, by simp [climb?, ha, hdeep, hjoin, hr], ?_⟩
      rw [hlevel]
      exact congrArg some (by omega)
    · refine ⟨a, by simp [climb?, ha, hdeep], ?_⟩
      rw [ha]
      exact congrArg some (by omega)

/-- The paths upwards from two nodes meet. -/
theorem exists_meet? {fuel : Nat} {a b : String} {i j : Nat} (ha : t.depth? a = some i)
    (hb : t.depth? b = some j) (hfuel : min i j < fuel) :
    ∃ r level, t.meet? fuel a b = some r ∧ t.depth? r = some level := by
  induction fuel generalizing a b i j with
  | zero => omega
  | succ fuel ih =>
    by_cases heq : a = b
    · exact ⟨a, i, by simp [meet?, heq], ha⟩
    · have hend {level : Nat} {x : String} (hx : t.depth? x = some level) :
          level = 0 → exitName ∉ t.map (·.id) := fun hzero =>
        (h.eq_exitName_of_depth? (hzero ▸ hx)).2
      -- both climb to the higher of their two levels, and if they differ there to the joins above
      obtain ⟨a', hclimbA, ha'⟩ := h.exists_climb? (hend hb) ha
        (Nat.lt_of_le_of_lt (h.depth_le ha) (by omega : t.length < t.length + 2))
      obtain ⟨b', hclimbB, hb'⟩ := h.exists_climb? (hend ha') hb
        (Nat.lt_of_le_of_lt (h.depth_le hb) (by omega : t.length < t.length + 2))
      have hlevel : min j (min i j) = min i j := by omega
      rw [hlevel] at hb'
      by_cases hmeet : a' = b'
      · subst hmeet
        exact ⟨a', min i j, by simp [meet?, heq, hb, hclimbA, ha', hclimbB], ha'⟩
      · cases hmin : min i j with
        | zero =>
          rw [hmin] at ha' hb'
          exact absurd ((h.eq_exitName_of_depth? ha').1.trans (h.eq_exitName_of_depth? hb').1.symm)
            hmeet
        | succ above =>
          rw [hmin] at ha' hb'
          obtain ⟨joinA, hjoinA, hupA⟩ := h.exists_join ha'
          obtain ⟨joinB, hjoinB, hupB⟩ := h.exists_join hb'
          have hstep : t.meet? (fuel + 1) a b = t.meet? fuel joinA joinB := by
            simp [meet?, heq, hb, hclimbA, ha', hmin ▸ hclimbB, hmeet, hjoinA, hjoinB]
          rw [hstep]
          rcases hupA with ⟨rfl, hzero⟩ | ⟨hdepthA, hne⟩
          · -- from the first level both paths lead to the end
            obtain ⟨rfl, -⟩ := hupB.resolve_right fun hup => hup.2 hzero
            obtain ⟨level, hlevel⟩ := h.exists_depth? (.inl rfl : exitName = exitName ∨ _)
            obtain ⟨rest, rfl⟩ := Nat.exists_eq_add_one_of_ne_zero (by omega : fuel ≠ 0)
            exact ⟨exitName, level, by simp [meet?], hlevel⟩
          · obtain ⟨hdepthB, -⟩ := hupB.resolve_left fun hup => hne hup.2
            exact ih hdepthA hdepthB (by omega)

/-- The paths upwards from several nodes meet. -/
theorem exists_meetAll? {a : String} {others : List String} (ha : ∃ level, t.depth? a = some level)
    (hothers : ∀ b ∈ others, ∃ level, t.depth? b = some level) :
    ∃ r level, t.meetAll? a others = some r ∧ t.depth? r = some level := by
  induction others generalizing a with
  | nil =>
    obtain ⟨level, ha⟩ := ha
    exact ⟨a, level, rfl, ha⟩
  | cons b rest ih =>
    obtain ⟨i, ha⟩ := ha
    obtain ⟨⟨j, hb⟩, hrest⟩ := List.forall_mem_cons.1 hothers
    have := h.depth_le ha
    obtain ⟨meet, level, hmeet, hlevel⟩ := h.exists_meet? ha hb (by omega : min i j < t.length + 2)
    obtain ⟨r, level', hr, hdepth⟩ := ih ⟨level, hlevel⟩ hrest
    exact ⟨r, level', by rw [meetAll?, hmeet]; exact hr, hdepth⟩

/-- A node whose exits are known gets a row. -/
theorem exists_addJoin? {g : Graph} {id : String} {kind : NodeKind} (hkind : g.kind? id = some kind)
    (hnew : id ∉ t.map (·.id)) (hexits : ∀ e ∈ g.edges, e.source = id → e.target ∈ t.map (·.id)) :
    ∃ row, g.addJoin? t id = some (row :: t) ∧ row.id = id ∧ Levelled (row :: t) := by
  obtain ⟨⟨first, others⟩, hfound⟩ := exists_exits? hkind
  -- all ways out have been given a level, so there is a place where they meet
  have hknown : ∀ name ∈ first :: others, ∃ level, t.depth? name = some level := by
    intro name hname
    rcases eq_exitName_or_edge_of_exits? hfound name hname with hexit | ⟨e, he, hsource, rfl⟩
    · exact h.exists_depth? (.inl hexit)
    · exact h.exists_depth? (.inr (hexits e he hsource))
  obtain ⟨hfirst, hothers⟩ := List.forall_mem_cons.1 hknown
  obtain ⟨join, level, hjoin, hlevel⟩ := h.exists_meetAll? hfirst hothers
  refine ⟨⟨id, join, level + 1⟩, by simp [addJoin?, hfound, hjoin, hlevel], rfl, ?_, ?_, ?_⟩
  · exact List.nodup_cons.2 ⟨hnew, h.nodup⟩
  · refine List.forall_mem_cons.2 ⟨?_, fun row hrow => (h.upward row hrow).imp_right ?_⟩
    · rcases eq_or_mem_of_depth? hlevel with ⟨hexit, rfl⟩ | ⟨row, hrow, hid, hdepth⟩
      · exact .inl ⟨hexit, rfl⟩
      · exact .inr ⟨row, List.mem_cons_of_mem _ hrow, hid, by rw [hdepth]⟩
    · rintro ⟨above, habove, hup⟩
      exact ⟨above, List.mem_cons_of_mem _ habove, hup⟩
  · have := h.depth_le hlevel
    refine List.forall_mem_cons.2 ⟨?_, fun row hrow => Nat.le_succ_of_le (h.bounded row hrow)⟩
    rw [List.length_cons]
    dsimp only
    omega

end Levelled

end JoinTable

namespace Graph

variable {g : Graph} {rank : String → Nat} {limits : Limits}

/-- The table of a set of nodes of a graph without cycles from which no edge leads out. -/
theorem Ranked.exists_levelled (hg : g.Ranked rank) {ids : List String} (hids : ids.Nodup)
    (hkinds : ∀ id ∈ ids, ∃ kind, g.kind? id = some kind)
    (hclosed : ∀ e ∈ g.edges, e.source ∈ ids → e.target ∈ ids) :
    ∃ t, g.joins ids = .ok t ∧ t.Levelled ∧ (t.map (·.id)).Perm ids :=
  (hg.on ids).exists_joins_of .nil
    (fun _ ht _ _ hkind hnew hexits => ht.exists_addJoin? hkind hnew hexits) hids hkinds hclosed

/-! ## Reports -/

/-- An edge leads to a node. -/
theorem WellFormed.target_mem (hwf : g.WellFormed) {e : Edge} (he : e ∈ g.edges) :
    e.target ∈ g.nodes.map (·.id) := by
  obtain ⟨-, -, -, n, hn, -, htarget, -⟩ := hwf.edge he
  exact List.mem_map.2 ⟨n, hn, htarget.symm⟩

theorem WellFormed.mem_of_branch? (hwf : g.WellFormed) {id handle target : String}
    (h : g.branch? id handle = some target) : target ∈ g.nodes.map (·.id) := by
  obtain ⟨e, he, -, rfl, -⟩ := exists_edge_of_branch? h
  exact hwf.target_mem he

theorem WellFormed.mem_of_successor? (hwf : g.WellFormed) {id target : String}
    (h : g.successor? id = some target) : target ∈ g.nodes.map (·.id) := by
  obtain ⟨e, he, -, rfl⟩ := exists_edge_of_successor? h
  exact hwf.target_mem he

/-- The nodes that a run goes through have a table, in a graph without cycles that has the same
nodes and no edges but those of the graph. -/
theorem WellFormed.exists_bodyJoins (hwf : g.WellFormed) {g' : Graph} (hg : g'.Ranked rank)
    (hnodes : g'.nodes = g.nodes) (hedges : ∀ e ∈ g'.edges, e ∈ g.edges) :
    ∃ ids t, g.body = .ok ids ∧ g'.joins ids = .ok t ∧ t.Levelled ∧ ∀ id, id ∈ t.map (·.id) ↔
      ∃ n ∈ g.nodes, n.id = id ∧ n.kind.isTrigger = false ∧ g.Reaches id := by
  obtain ⟨ids, hbody, hnodup, hids⟩ := hwf.exists_body
  have hkind (id : String) : g'.kind? id = g.kind? id := by rw [kind?, kind?, lastNode?, hnodes]; rfl
  obtain ⟨t, ht, hlevelled, hperm⟩ := hg.exists_levelled hnodup
    (fun id hid => by
      obtain ⟨n, hn, rfl, -⟩ := (hids id).1 hid
      exact ⟨n.kind, (hkind n.id).trans (hwf.kind?_of_mem hn)⟩)
    (fun e he hsource => by
      obtain ⟨-, -, -, -, hreaches⟩ := (hids e.source).1 hsource
      obtain ⟨-, -, -, n, hn, -, htarget, htrigger⟩ := hwf.edge (hedges e he)
      exact (hids e.target).2 ⟨n, hn, htarget.symm, htrigger, .edge (hedges e he) hreaches⟩)
  exact ⟨ids, t, hbody, ht, hlevelled, fun id => hperm.mem_iff.trans (hids id)⟩

/-- So have they in the graph without the edges that are left out as back edges. -/
theorem WellFormed.exists_forwardJoins (hwf : g.WellFormed) :
    ∃ ids t, g.body = .ok ids ∧ g.forward.joins ids = .ok t ∧ t.Levelled ∧ ∀ id,
      id ∈ t.map (·.id) ↔ ∃ n ∈ g.nodes, n.id = id ∧ n.kind.isTrigger = false ∧ g.Reaches id := by
  obtain ⟨rank, hrank⟩ := hwf.exists_rank
  have hforward : g.forward.Ranked rank := by
    intro e he
    obtain ⟨he, hback⟩ := List.mem_filter.1 he
    refine hrank e he fun hmem => ?_
    rw [List.contains_iff_mem.2 (List.mem_map_of_mem hmem)] at hback
    cases hback
  exact hwf.exists_bodyJoins hforward rfl fun e he => (List.mem_filter.1 he).1

/-- Where a run goes on when a block is skipped is known in every well-formed graph. -/
theorem WellFormed.exists_blockJoins (hwf : g.WellFormed) : ∃ joins, g.blockJoins = .ok joins := by
  obtain ⟨ids, t, hbody, ht, -⟩ := hwf.exists_forwardJoins
  unfold blockJoins
  rw [hbody, Outcome.ok_bind, ht, Outcome.ok_bind]
  exact ⟨_, rfl⟩

end Graph

/-- A report that leads to nothing but nodes of the graph. -/
structure TopologyReport.Within (g : Graph) (r : TopologyReport) : Prop where
  entry : ∀ id ∈ r.entry, id ∈ g.nodes.map (·.id)
  join : ∀ id, ∀ join ∈ r.join? id, join ∈ g.nodes.map (·.id)

namespace Graph

variable {g : Graph} {limits : Limits}

/-- The edge of a trigger leads to the node that all triggers lead to. -/
theorem exists_edge_of_entry {id : String}
    (h : (if g.triggersAgree then (g.firstNodes.head?).join else none) = some id) :
    ∃ e ∈ g.edges, g.Reaches e.source ∧ e.target = id := by
  split at h
  · have hmem : some id ∈ g.firstNodes := by
      revert h
      cases g.firstNodes with
      | nil => exact fun h => by cases h
      | cons first rest =>
        exact fun h => List.mem_cons.2 (.inl (Option.some.inj (Option.join_eq_some_iff.1 h)).symm)
    obtain ⟨n, hn, hnext⟩ := List.mem_map.1 hmem
    obtain ⟨e, he, hsource, htarget⟩ := exists_edge_of_successor? hnext
    exact ⟨e, he, hsource ▸ .trigger hn, htarget⟩
  · cases h

/-- Every graph that keeps the invariants is reported on. -/
theorem exists_analyze (hcheck : g.check limits = .ok ()) :
    ∃ r, g.analyze limits = .ok r ∧ r.Within g := by
  have hwf := (check_eq_ok_iff.1 hcheck).2
  unfold analyze
  rw [hcheck, Outcome.ok_bind]
  dsimp only
  -- all that the rest of the analysis needs of the entry is that it is a node
  generalize hentry : (if g.triggersAgree then (g.firstNodes.head?).join else none) = entry
  have hmem : ∀ id ∈ entry, id ∈ g.nodes.map (·.id) := by
    intro id hid
    obtain ⟨e, he, -, rfl⟩ := exists_edge_of_entry (hentry.trans hid)
    exact hwf.target_mem he
  split
  · -- without back edges the graph has ranks, so there are joins and the walk over it succeeds
    rename_i hback
    obtain ⟨rank, hg⟩ := hwf.exists_ranked (List.isEmpty_iff.1 hback)
    obtain ⟨ids, t, hbody, ht, hlevelled, hrows⟩ := hwf.exists_bodyJoins hg rfl fun _ he => he
    have hclosed : ∀ e ∈ g.edges, e.source ∈ t.map (·.id) → e.target ∈ t.map (·.id) := by
      intro e he hsource
      obtain ⟨-, -, -, -, hreaches⟩ := (hrows e.source).1 hsource
      obtain ⟨-, -, -, n, hn, -, htarget, htrigger⟩ := hwf.edge he
      exact (hrows e.target).2 ⟨n, hn, htarget.symm, htrigger, .edge he hreaches⟩
    -- a join is the end of the run or has a row itself
    have hjoin {id join : String} (hid : t.join? id = some join) :
        ∀ s ∈ place join, s ∈ t.map (·.id) := by
      intro s hs
      obtain ⟨row, hrow, -, rfl⟩ := JoinTable.join?_eq_some hid
      rcases hlevelled.upward row hrow with ⟨hexit, -⟩ | ⟨above, habove, hid, -⟩
      · rw [hexit, place, if_pos rfl] at hs
        cases hs
      · exact eq_of_mem_place hs ▸ hid ▸ List.mem_map_of_mem habove
    have hwithin : ∀ r : TopologyReport, r.entry = entry → r.joins = t → r.Within g := by
      intro r hentry hjoins
      refine ⟨hentry ▸ hmem, fun id join hid => ?_⟩
      unfold TopologyReport.join? at hid
      rw [hjoins] at hid
      split at hid
      · rename_i hfound
        obtain ⟨n, hn, hname, -⟩ := (hrows join).1 (hjoin hfound join hid)
        exact List.mem_map.2 ⟨n, hn, hname⟩
      · cases hid
    rw [hbody, Outcome.ok_bind, ht, Outcome.ok_bind]
    cases hfirst : entry with
    | none => exact ⟨_, rfl, hwithin _ hfirst.symm rfl⟩
    | some first =>
      obtain ⟨again, hagain⟩ : ∃ again, g.retread t [] [] [(first, exitName)] = .ok again := by
        refine exists_retread (fun id hid => ?_) hclosed (fun id hid => ?_)
          (List.forall_mem_singleton.2 fun s hs => ?_)
        · obtain ⟨n, hn, rfl, -⟩ := (hrows id).1 hid
          exact ⟨n.kind, hwf.kind?_of_mem hn⟩
        · obtain ⟨row, hrow, rfl⟩ := List.mem_map.1 hid
          exact ⟨row.join, JoinTable.join?_of_mem hlevelled.nodup hrow,
            hjoin (JoinTable.join?_of_mem hlevelled.nodup hrow)⟩
        · obtain ⟨e, he, hsource, htarget⟩ := exists_edge_of_entry (hentry.trans hfirst)
          obtain ⟨-, -, -, n, hn, -, hid, htrigger⟩ := hwf.edge he
          rw [eq_of_mem_place hs, ← htarget]
          exact (hrows e.target).2 ⟨n, hn, hid.symm, htrigger, .edge he hsource⟩
      dsimp only
      rw [hagain, Outcome.ok_bind]
      exact ⟨_, rfl, hwithin _ hfirst.symm rfl⟩
  · -- a graph with a cycle is reported on without joins
    have hwithin : ∀ r : TopologyReport, r.entry = entry → r.joins = [] → r.Within g := by
      intro r hentry hjoins
      refine ⟨hentry ▸ hmem, fun id join hid => ?_⟩
      unfold TopologyReport.join? at hid
      rw [hjoins] at hid
      cases hid
    cases hfirst : entry with
    | none => exact ⟨_, rfl, hwithin _ hfirst.symm rfl⟩
    | some first => exact ⟨_, rfl, hwithin _ hfirst.symm rfl⟩

end Graph

end Automation
