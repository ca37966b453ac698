import Automation.Proofs.Topology.Reaching
import Automation.Proofs.Topology.Ways

/-!
# Where a run goes on behind a skipped block

When no edge is taken for a back edge by its id, the joins behind skipped blocks are the nearest
places on all ways of the graph without exactly its back edges
(`Graph.BackApart.blockJoins_nearest`). So they depend on the ends and the handles of edges alone.
-/

namespace Automation

namespace Graph

variable {g : Graph}

/-! ## The graph without its back edges -/

/-- The graph without the edges that a depth-first search finds to close a cycle. Edges of a
well-formed graph are told apart by their ends. -/
def withoutBackEdges (g : Graph) : Graph :=
  { g with edges := g.edges.filter fun e => !(g.backEdges.map Edge.ends).contains e.ends }

/-- An edge leads back just if an edge with its ends does: a well-formed graph has no two edges with
the same ends. -/
theorem WellFormed.mem_ends_iff (hwf : g.WellFormed) {e : Edge} (he : e ∈ g.edges) :
    (g.backEdges.map Edge.ends).contains e.ends = true ↔ e ∈ g.backEdges := by
  rw [List.contains_iff_mem]
  refine ⟨fun hmem => ?_, List.mem_map_of_mem⟩
  obtain ⟨b, hb, hends⟩ := List.mem_map.1 hmem
  exact List.inj_on_of_nodup_map hwf.nodup_ends (mem_edges_of_mem_backEdges hb) he hends ▸ hb

/-- Just the back edges are left out. -/
theorem WellFormed.mem_withoutBackEdges (hwf : g.WellFormed) {e : Edge} :
    e ∈ g.withoutBackEdges.edges ↔ e ∈ g.edges ∧ e ∉ g.backEdges := by
  unfold withoutBackEdges
  rw [List.mem_filter, Bool.not_eq_true', ← Bool.not_eq_true]
  exact and_congr_right fun he => not_congr (hwf.mem_ends_iff he)

/-- A well-formed graph stays so without its back edges. -/
theorem WellFormed.withoutBackEdges (hwf : g.WellFormed) : g.withoutBackEdges.WellFormed := by
  refine hwf.of_part hwf.nodup (fun n hn => ⟨n, hn, rfl, rfl⟩) hwf.exists_trigger
    (List.filter_sublist.map _).subperm fun e he => ?_
  obtain ⟨-, m, hm, n, hn, hsource, htarget, -⟩ := hwf.edge (List.mem_filter.1 he).1
  rw [hsource, htarget]
  exact ⟨List.mem_map_of_mem hm, List.mem_map_of_mem hn⟩

/-- Without its back edges a graph has no cycle. -/
theorem WellFormed.not_transGen_withoutBackEdges (hwf : g.WellFormed) (id : String) :
    ¬Relation.TransGen g.withoutBackEdges.Leads id id := by
  obtain ⟨rank, hrank⟩ := hwf.exists_rank
  have hranked : g.withoutBackEdges.Ranked rank := fun e he =>
    hrank e (hwf.mem_withoutBackEdges.1 he).1 (hwf.mem_withoutBackEdges.1 he).2
  exact fun h => Nat.lt_irrefl _ (hranked.lt_of_transGen h)

/-- The joins of the nodes that triggers lead to are those of the graph without its back edges. -/
theorem BackApart.joins_forward (hapart : g.BackApart) (hwf : g.WellFormed) {ids : List String}
    (hids : ∀ id ∈ ids, g.Reaches id) : g.forward.joins ids = g.withoutBackEdges.joins ids := by
  -- as no other edge has the id of a back edge, being one is told by the ends
  have hback (e : Edge) (he : e ∈ g.edges) (hsource : e.source ∈ ids) :
      g.isBack e = (g.backEdges.map Edge.ends).contains e.ends := by
    rw [Bool.eq_iff_iff, hwf.mem_ends_iff he, isBack, List.contains_iff_mem]
    refine ⟨fun hmem => ?_, List.mem_map_of_mem⟩
    obtain ⟨b, hb, hid⟩ := List.mem_map.1 hmem
    exact hapart e he (hids _ hsource) b hb hid
  refine joins_congr (fun _ _ => rfl) (fun id hid => ?_) (.of_eq ?_)
  · have hout : g.withoutBackEdges.outEdges id = (g.outEdges id).filter fun e =>
        !(g.backEdges.map Edge.ends).contains e.ends := by
      unfold outEdges outgoing Graph.withoutBackEdges
      simp only [List.filter_append, List.filter_filter, Bool.and_comm, Bool.and_left_comm,
        Bool.and_assoc]
    rw [outEdges_forward, hout]
    refine congrArg (List.map Edge.ends) (List.filter_congr fun e he => ?_)
    obtain ⟨hmem, hsource⟩ := mem_outEdges.1 he
    rw [hback e hmem (hsource ▸ hid)]
  · rw [forward_edges, Graph.withoutBackEdges, List.filter_filter, List.filter_filter]
    refine congrArg (List.map Edge.ends) (List.filter_congr fun e he => ?_)
    by_cases hsource : e.source ∈ ids
    · rw [hback e he hsource]
    · simp [hsource]

/-! ## The joins behind skipped blocks -/

/-- A join is listed for each condition that triggers lead to, and for no other node: the nearest
place on all ways from there, back edges left out. -/
theorem BackApart.blockJoins_nearest (hapart : g.BackApart) (hwf : g.WellFormed) (hexit : g.NoExit) :
    ∃ joins, g.blockJoins = .ok joins ∧ (joins.map (·.1)).Nodup ∧ ∀ id place, (id, place) ∈ joins
      ↔ (∃ n ∈ g.nodes, n.id = id ∧ n.kind.isCondition = true ∧ g.Reaches id)
        ∧ g.withoutBackEdges.NearestOnWays id place := by
  obtain ⟨ids, hbody, hnodup, hids⟩ := hwf.exists_body
  have hreaches : ∀ id ∈ ids, g.Reaches id := fun id hid => by
    obtain ⟨-, -, -, -, hreach⟩ := (hids id).1 hid
    exact hreach
  -- the joins are those of the graph without its back edges, which has no cycle
  obtain ⟨t, ht, hperm, hrows⟩ := exists_joins_rows hwf.withoutBackEdges hexit hnodup
    (fun id hid => by
      obtain ⟨n, hn, rfl, -⟩ := (hids id).1 hid
      exact ⟨n, hn, rfl⟩)
    (fun e he hsource => by
      have he := (List.mem_filter.1 he).1
      obtain ⟨-, -, -, n, hn, -, htarget, htrigger⟩ := hwf.edge he
      exact (hids e.target).2 ⟨n, hn, htarget.symm, htrigger, .edge he (hreaches _ hsource)⟩)
    fun id _ => hwf.not_transGen_withoutBackEdges id
  -- the rows of conditions are listed, the first node of the body first
  refine ⟨(t.reverse.filter fun row => g.isConditionAt row.id).map fun row => (row.id, place row.join),
    ?_, ?_, fun id place => ⟨fun hmem => ?_, ?_⟩⟩
  · unfold blockJoins
    rw [hbody, Outcome.ok_bind, hapart.joins_forward hwf hreaches, ht]
    rfl
  · rw [List.map_map]
    refine (List.filter_sublist.map JoinRow.id).nodup ?_
    rw [List.map_reverse, List.nodup_reverse]
    exact hperm.nodup_iff.2 hnodup
  · obtain ⟨row, hrow, heq⟩ := List.mem_map.1 hmem
    obtain ⟨rfl, rfl⟩ := Prod.mk.inj heq
    obtain ⟨hrow, hcondition⟩ := List.mem_filter.1 hrow
    have hrow := List.mem_reverse.1 hrow
    obtain ⟨n, hn, hid, -, hreach⟩ := (hids row.id).1 (hperm.mem_iff.1 (List.mem_map_of_mem hrow))
    rw [← hid, hwf.isConditionAt_of_mem hn] at hcondition
    exact ⟨⟨n, hn, hid, hcondition, hreach⟩, (hrows row hrow).2⟩
  · rintro ⟨⟨n, hn, rfl, hcondition, hreach⟩, hnearest⟩
    have htrigger := NodeKind.isTrigger_of_isCondition hcondition
    -- the node has a row, and only one place can be nearest
    obtain ⟨row, hrow, hid⟩ := List.mem_map.1
      (hperm.mem_iff.2 ((hids n.id).2 ⟨n, hn, rfl, htrigger, hreach⟩))
    obtain ⟨hway, hjoin⟩ := hrows row hrow
    rw [hid] at hway hjoin
    refine List.mem_map.2 ⟨row, List.mem_filter.2 ⟨List.mem_reverse.2 hrow, ?_⟩, ?_⟩
    · rw [hid, hwf.isConditionAt_of_mem hn, hcondition]
    · rw [hid, hjoin.eq hnearest hway]

end Graph

end Automation
