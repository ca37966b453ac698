import Automation.Proofs.Graph.Walk
import Automation.Proofs.Topology.Finishing
import Mathlib.Data.List.Perm.Basic
import Mathlib.Logic.Equiv.Basic

/-!
# Graphs that correspond

Two graphs correspond when the nodes of the one, under other names and perhaps in another order, are
the nodes of the other (`Graph.Counterpart`): triggers come in the same order, edges join the nodes
of the same names, and nodes in the places of each other are related. What a walk asks of a graph is
answered alike by both: look-ups (`kind?_eq`, `successor?_eq`, `branch?_eq`), paths (`reaches`), and
whether there is a cycle (`backEdges_eq_nil_iff`).
-/

namespace Automation

variable {σ : Equiv.Perm String} {R : Node → Node → Prop} {g g' : Graph}

/-- Two nodes that a walk treats alike, the second under the name that the first gets: they are of
one kind, and both have a label and flags or neither has. -/
structure Node.Counterpart (σ : Equiv.Perm String) (m n : Node) : Prop where
  id : n.id = σ m.id
  kind : n.kind = m.kind
  label : n.label.truthy = m.label.truthy
  flags : n.flags.isEmpty = m.flags.isEmpty

/-- Nodes are counterparts in both directions. -/
theorem Node.Counterpart.symm {m n : Node} (h : m.Counterpart σ n) : n.Counterpart σ.symm m :=
  ⟨by rw [h.id, Equiv.symm_apply_apply], h.kind.symm, h.label.symm, h.flags.symm⟩

namespace Graph

/-- Two well-formed graphs with the same nodes under other names, in related pairs. -/
structure Counterpart (σ : Equiv.Perm String) (R : Node → Node → Prop) (g g' : Graph) : Prop where
  left : g.WellFormed
  right : g'.WellFormed
  node : ∀ {m n : Node}, R m n → m.Counterpart σ n
  nodes : ∃ ns, List.Forall₂ R g.nodes ns ∧ ns.Perm g'.nodes
  triggers : List.Forall₂ R g.triggers g'.triggers
  edges : (g.edges.map fun e => (σ e.source, σ e.target, e.handle)).Perm (g'.edges.map Edge.ends)

namespace Counterpart

/-- Graphs are counterparts in both directions, with the renaming turned round. -/
theorem symm (h : Counterpart σ R g g') : Counterpart σ.symm (flip R) g' g where
  left := h.right
  right := h.left
  node hR := (h.node hR).symm
  nodes := by
    obtain ⟨ns, hns, hperm⟩ := h.nodes
    exact List.perm_comp_forall₂ hperm.symm hns.flip
  triggers := h.triggers.flip
  edges := by
    have hback := (h.edges.map fun x : String × String × Option String =>
      (σ.symm x.1, σ.symm x.2.1, x.2.2)).symm
    simp only [List.map_map, Function.comp_def, Edge.ends, Equiv.symm_apply_apply] at hback
    exact hback

/-! ## Look-ups -/

/-- Each node has a counterpart. -/
theorem exists_node (h : Counterpart σ R g g') {m : Node} (hm : m ∈ g.nodes) :
    ∃ n ∈ g'.nodes, R m n := by
  obtain ⟨ns, hns, hperm⟩ := h.nodes
  obtain ⟨n, hn, hR⟩ := exists_match_of_mem hns hm
  exact ⟨n, hperm.subset hn, hR⟩

/-- Related nodes in the places of each other have the ids of each other. -/
theorem map_id (h : Counterpart σ R g g') {ms ns : List Node} (hns : List.Forall₂ R ms ns) :
    ns.map (·.id) = (ms.map (·.id)).map σ := by
  induction hns with
  | nil => rfl
  | cons hR _ ih => rw [List.map_cons, List.map_cons, List.map_cons, ih, (h.node hR).id]

/-- There are as many nodes on both sides. -/
theorem length_nodes (h : Counterpart σ R g g') : g'.nodes.length = g.nodes.length := by
  obtain ⟨ns, hns, hperm⟩ := h.nodes
  rw [← hperm.length_eq, hns.length_eq]

/-- A node is found under its new id where its counterpart was found. -/
theorem lastNode?_eq (h : Counterpart σ R g g') {id : String} {m : Node}
    (hm : g.lastNode? id = some m) : ∃ n, g'.lastNode? (σ id) = some n ∧ R m n := by
  obtain ⟨hmem, rfl⟩ := mem_of_lastNode?_eq_some hm
  obtain ⟨n, hn, hR⟩ := h.exists_node hmem
  rw [← (h.node hR).id]
  exact ⟨n, h.right.lastNode?_of_mem hn, hR⟩

/-- Nothing is found under a new id where nothing was found under the old one. -/
theorem lastNode?_eq_none (h : Counterpart σ R g g') {id : String} (hnone : g.lastNode? id = none) :
    g'.lastNode? (σ id) = none := by
  cases hlast : g'.lastNode? (σ id) with
  | none => rfl
  | some n =>
    obtain ⟨m, hm, -⟩ := h.symm.lastNode?_eq hlast
    rw [Equiv.symm_apply_apply, hnone] at hm
    cases hm

/-- A node is of the kind of its counterpart. -/
theorem kind?_eq (h : Counterpart σ R g g') (id : String) : g'.kind? (σ id) = g.kind? id := by
  unfold kind?
  cases hlast : g.lastNode? id with
  | none => rw [h.lastNode?_eq_none hlast, Option.map_none]
  | some m =>
    obtain ⟨n, hn, hR⟩ := h.lastNode?_eq hlast
    rw [hn, Option.map_some, Option.map_some, (h.node hR).kind]

theorem isConditionAt_eq (h : Counterpart σ R g g') (id : String) :
    g'.isConditionAt (σ id) = g.isConditionAt id := by
  rw [isConditionAt, h.kind?_eq, isConditionAt]

/-- Each edge has a counterpart between the new ids. -/
theorem exists_edge (h : Counterpart σ R g g') {e : Edge} (he : e ∈ g.edges) :
    ∃ e' ∈ g'.edges, e'.source = σ e.source ∧ e'.target = σ e.target ∧ e'.handle = e.handle := by
  obtain ⟨e', he', hends⟩ := List.mem_map.1 (h.edges.subset (List.mem_map_of_mem he))
  simp only [Edge.ends, Prod.mk.injEq] at hends
  exact ⟨e', he', hends⟩

/-- What one of two look-ups finds the other finds, so they agree. -/
theorem eq_map_of_forall {a b : Option String} (hab : ∀ x, a = some x → b = some (σ x))
    (hba : ∀ y, b = some y → a = some (σ.symm y)) : b = a.map σ := by
  cases a with
  | some x => rw [hab x rfl, Option.map_some]
  | none =>
    cases b with
    | none => rfl
    | some y => cases hba y rfl

/-- Runs go on from a branch at the new id of where they went on. -/
theorem branch?_eq (h : Counterpart σ R g g') (id handle : String) :
    g'.branch? (σ id) handle = (g.branch? id handle).map σ := by
  have hfound {τ : Equiv.Perm String} {Q : Node → Node → Prop} {a b : Graph}
      (hab : Counterpart τ Q a b) {x target : String} (hbranch : a.branch? x handle = some target) :
      b.branch? (τ x) handle = some (τ target) := by
    obtain ⟨e, he, rfl, rfl, hhandle⟩ := exists_edge_of_branch? hbranch
    obtain ⟨e', he', hsource, htarget, hsame⟩ := hab.exists_edge he
    rw [← hsource, ← htarget]
    exact hab.right.branch?_of_mem he' (hsame.trans hhandle)
  refine eq_map_of_forall (fun _ => hfound h) fun y hy => ?_
  have := hfound h.symm hy
  rwa [Equiv.symm_apply_apply] at this

/-- Runs go on from a step at the new id of where they went on. A condition may have two edges,
whose order is not kept. -/
theorem successor?_eq (h : Counterpart σ R g g') {id : String}
    (hcondition : g.isConditionAt id = false) :
    g'.successor? (σ id) = (g.successor? id).map σ := by
  have hfound {τ : Equiv.Perm String} {Q : Node → Node → Prop} {a b : Graph}
      (hab : Counterpart τ Q a b) {x target : String} (hx : a.isConditionAt x = false)
      (hsuccessor : a.successor? x = some target) : b.successor? (τ x) = some (τ target) := by
    obtain ⟨e, he, rfl, rfl⟩ := exists_edge_of_successor? hsuccessor
    obtain ⟨e', he', hsource, htarget, -⟩ := hab.exists_edge he
    rw [← hsource, ← htarget]
    exact hab.right.successor?_of_mem he' (by rw [hsource, hab.isConditionAt_eq, hx])
  refine eq_map_of_forall (fun _ => hfound h hcondition) fun y hy => ?_
  have := hfound h.symm (by rw [h.isConditionAt_eq, hcondition]) hy
  rwa [Equiv.symm_apply_apply] at this

/-- As many edges lead to a node as lead to its counterpart. -/
theorem length_incoming (h : Counterpart σ R g g') (id : String) :
    (g'.incoming (σ id)).length = (g.incoming id).length := by
  have hcount := (h.edges.countP_eq fun x => x.2.1 == σ id).symm
  rw [List.countP_map, List.countP_map] at hcount
  unfold incoming
  rw [← List.countP_eq_length_filter, ← List.countP_eq_length_filter]
  refine Eq.trans hcount (List.countP_congr fun e _ => ?_)
  simp

/-! ## Paths -/

/-- A path is one between the new ids. Induction on the path. -/
theorem reaches (h : Counterpart σ R g g') {id : String} (hid : g.Reaches id) :
    g'.Reaches (σ id) := by
  induction hid with
  | trigger mem =>
    obtain ⟨n, hn, hR⟩ := exists_match_of_mem h.triggers mem
    rw [← (h.node hR).id]
    exact .trigger hn
  | edge mem _ ih =>
    obtain ⟨e', he', hsource, htarget, -⟩ := h.exists_edge mem
    rw [← htarget]
    exact .edge he' (hsource ▸ ih)

/-- Ranks of the nodes are ranks of their counterparts. -/
theorem ranked (h : Counterpart σ R g g') {rank : String → Nat} (hrank : g.Ranked rank) :
    g'.Ranked (rank ∘ σ.symm) := by
  intro e' he'
  obtain ⟨e, he, hsource, htarget, -⟩ := h.symm.exists_edge he'
  rw [Function.comp_apply, Function.comp_apply, ← hsource, ← htarget]
  exact hrank e he

/-- A cycle shows in both graphs or in neither. -/
theorem backEdges_eq_nil_iff (h : Counterpart σ R g g') : g'.backEdges = [] ↔ g.backEdges = [] := by
  constructor
  · intro hnil
    obtain ⟨rank, hrank⟩ := h.right.exists_ranked hnil
    exact (h.symm.ranked hrank).backEdges_eq_nil
  · intro hnil
    obtain ⟨rank, hrank⟩ := h.left.exists_ranked hnil
    exact (h.ranked hrank).backEdges_eq_nil

theorem noExit (h : Counterpart σ R g g') (hσ : σ exitName = exitName) (hexit : g.NoExit) :
    g'.NoExit := by
  intro n hn heq
  obtain ⟨m, hm, hR⟩ := h.symm.exists_node hn
  refine hexit m hm (σ.injective ?_)
  rw [← (h.node hR).id, heq, hσ]

end Counterpart

end Graph

end Automation
