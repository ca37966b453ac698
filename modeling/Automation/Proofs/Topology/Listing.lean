import Automation.Proofs.Topology.Counterpart
import Automation.Proofs.Topology.Reaching

/-!
# Graphs listed in another order

A well-formed graph whose nodes and edges are listed in another order, the triggers apart, is the
same graph to every walk (`Graph.Reordered.redrawn`): a node has at most one edge for each outcome,
so the edges out of it come in one order only. The depth-first search alone depends on the order of
nodes, by the roots that it starts from behind the triggers. Triggers lead to the same part of both
graphs, so the joins behind skipped blocks are the same when edges are told apart by their ids
(`Graph.Reordered.blockJoins_eq`).
-/

namespace Automation

namespace Graph

/-- A graph with its nodes and edges listed in another order, and its triggers in the same. -/
structure Reordered (g g' : Graph) : Prop where
  nodes : g.nodes.Perm g'.nodes
  triggers : g'.triggers = g.triggers
  edges : g.edges.Perm g'.edges
  rest : g' = { g with nodes := g'.nodes, edges := g'.edges }

variable {g g' : Graph} {limits : Limits}

/-- At most one edge for an outcome leads out of a node. -/
theorem WellFormed.length_outcome_le_one (hwf : g.WellFormed) (id : String) (failed : Bool) :
    ((g.outgoing id).filter fun e => e.isFalse == failed).length ≤ 1 := by
  cases hout : (g.outgoing id).filter fun e => e.isFalse == failed with
  | nil => simp
  | cons e rest =>
    have hmem : e ∈ (g.outgoing id).filter fun e => e.isFalse == failed := by
      rw [hout]
      exact List.mem_cons_self
    obtain ⟨hgoing, hfailed⟩ := List.mem_filter.1 hmem
    obtain ⟨he, rfl⟩ := mem_outgoing.1 hgoing
    rw [← hout, outgoing, List.filter_filter, ← List.countP_eq_length_filter]
    refine Nat.le_trans (List.countP_mono_left fun f hf hboth => ?_) (hwf.countP_le_one he)
    simp only [Bool.and_eq_true, beq_iff_eq] at hboth hfailed ⊢
    refine ⟨?_, hboth.2⟩
    by_cases hcondition : g.isConditionAt e.source = true
    · -- the outcome decides on the handle
      have hhandle (d : Edge) (hd : d ∈ g.edges) (hsource : d.source = e.source) :
          d.handle = some (if d.isFalse then handleFalse else handleTrue) := by
        rcases hwf.handle hd (hsource ▸ hcondition) with heq | heq <;> rw [Edge.isFalse, heq] <;> rfl
      rw [hhandle f hf hboth.2, hhandle e he rfl, hboth.1, hfailed]
      simp
    · simp [hcondition]

/-- At most one thing is in no other order. -/
theorem eq_of_perm_of_length_le_one {α : Type} {xs ys : List α} (h : xs.Perm ys)
    (hlength : xs.length ≤ 1) : xs = ys := by
  match xs, hlength with
  | [], _ => exact (List.nil_perm.1 h).symm
  | [x], _ => exact List.singleton_perm.1 h

/-- The edges out of a node come in one order, whatever the order of all edges. -/
theorem WellFormed.outEdges_eq_of_perm (hwf : g.WellFormed) (h : g.edges.Perm g'.edges)
    (id : String) : g'.outEdges id = g.outEdges id := by
  have houtcome (failed : Bool) : ((g'.outgoing id).filter fun e => e.isFalse == failed)
      = (g.outgoing id).filter fun e => e.isFalse == failed :=
    (eq_of_perm_of_length_le_one ((h.filter _).filter _)
      (hwf.length_outcome_le_one id failed)).symm
  have hfalse := houtcome false
  have htrue := houtcome true
  simp only [beq_false, beq_true] at hfalse htrue
  unfold outEdges
  dsimp only
  rw [hfalse, htrue]

namespace Reordered

variable (h : Reordered g g')

include h

/-- What was reordered can be ordered back. -/
theorem symm : Reordered g' g where
  nodes := h.nodes.symm
  triggers := h.triggers.symm
  edges := h.edges.symm
  rest := by rw [h.rest]

/-- The ids are the same, in another order. -/
theorem ids : (g.nodes.map (·.id)).Perm (g'.nodes.map (·.id)) := h.nodes.map _

/-- Well-formedness does not depend on order. -/
theorem wellFormed (hwf : g.WellFormed) : g'.WellFormed := by
  refine hwf.of_part (h.ids.nodup_iff.1 hwf.nodup) (fun m hm => ?_) ?_
    (h.edges.symm.map Edge.ends).subperm fun e he => ?_
  · exact ⟨m, h.nodes.mem_iff.2 hm, rfl, rfl⟩
  · obtain ⟨n, hn, htrigger⟩ := hwf.exists_trigger
    exact ⟨n, h.nodes.mem_iff.1 hn, htrigger⟩
  · obtain ⟨-, m, hm, n, hn, hsource, htarget, -⟩ := hwf.edge (h.edges.mem_iff.2 he)
    rw [hsource, htarget]
    exact ⟨List.mem_map_of_mem (h.nodes.mem_iff.1 hm), List.mem_map_of_mem (h.nodes.mem_iff.1 hn)⟩

/-- The edges out of a node come in the same order. -/
theorem outEdges_eq (hwf : g.WellFormed) (id : String) : g'.outEdges id = g.outEdges id :=
  hwf.outEdges_eq_of_perm h.edges id

/-- Nodes of a well-formed graph are found in any order. -/
theorem kind?_eq (hwf : g.WellFormed) (id : String) : g'.kind? id = g.kind? id := by
  have hlast {a b : Graph} (hab : Reordered a b) (ha : a.WellFormed) {kind : NodeKind}
      (hkind : a.kind? id = some kind) : b.kind? id = some kind := by
    obtain ⟨n, hn, rfl⟩ := Option.map_eq_some_iff.1 hkind
    obtain ⟨hmem, rfl⟩ := mem_of_lastNode?_eq_some hn
    exact (hab.wellFormed ha).kind?_of_mem (hab.nodes.mem_iff.1 hmem)
  cases hkind : g.kind? id with
  | some kind => exact hlast h hwf hkind
  | none =>
    cases hkind' : g'.kind? id with
    | none => rfl
    | some kind => rw [hlast h.symm (h.wellFormed hwf) hkind'] at hkind; cases hkind

/-- A graph in another order has the edges of each node in the same order. -/
theorem redrawn (hwf : g.WellFormed) : Redrawn (fun e => e) g g' where
  kept := .refl
  kind? := h.kind?_eq hwf
  triggers := by rw [h.triggers]
  outEdges id := by rw [List.map_id', h.outEdges_eq hwf]
  edges := by rw [List.map_id']; exact h.edges

end Reordered

/-! ## What does not depend on the order -/

namespace Reordered

variable (h : Reordered g g')

include h

/-- A graph in another order is a counterpart, under the same ids. -/
theorem counterpart (hwf : g.WellFormed) :
    Counterpart (Equiv.refl String) (fun m n => m = n) g g' where
  left := hwf
  right := h.wellFormed hwf
  node := by
    rintro m _ rfl
    exact ⟨rfl, rfl, rfl, rfl⟩
  nodes := ⟨g.nodes, List.forall₂_eq_eq_eq ▸ rfl, h.nodes⟩
  triggers := by rw [h.triggers, List.forall₂_eq_eq_eq]
  edges := h.edges.map Edge.ends

/-- Both graphs are analyzed alike. -/
theorem matches_analyze (hwf : g.WellFormed) :
    Outcome.Matches (TopologyReport.Counterpart (Equiv.refl String)) (g.analyze limits)
      (g'.analyze limits) := by
  refine (h.counterpart hwf).matches_analyze_of_joins rfl fun _ => ?_
  have hjoins : g'.joins = g.joins := funext (h.redrawn hwf).joins_eq
  rw [(h.redrawn hwf).body_eq, hjoins]
  exact .refl (fun t id => Option.map_id'.symm) _

/-- The strategy does not depend on the order of nodes. -/
theorem classify_eq (hwf : g.WellFormed) : g'.classify limits = g.classify limits := by
  unfold classify
  refine (h.matches_analyze hwf).bind_eq fun r r' hr => ?_
  rw [TopologyReport.strategy, hr.isNative, TopologyReport.strategy]

/-- Triggers lead to the same part of both graphs. -/
theorem sameReach (hwf : g.WellFormed) : SameReach g g' where
  kind? id _ := h.kind?_eq hwf id
  triggers := by rw [h.triggers]
  outEdges id _ := by rw [h.outEdges_eq hwf]

/-- A run goes on at the same places behind skipped blocks. -/
theorem blockJoins_eq (hwf : g.WellFormed) (hids : (g.edges.map (·.id)).Nodup) :
    g'.blockJoins = g.blockJoins :=
  (h.sameReach hwf).blockJoins_eq hwf (h.wellFormed hwf) (backApart_of_nodup hids)
    (backApart_of_nodup ((h.edges.map _).nodup_iff.1 hids))

end Reordered

end Graph

end Automation
