import Automation.Graph.Fields
import Automation.Graph.Sharing
import Automation.Proofs.Topology.Counterpart
import Mathlib.Algebra.Group.End
import Mathlib.Data.Fintype.Sum

/-!
# Renamed nodes

A graph with its nodes under other ids (`Graph.renamed`): the same nodes and edges in the same
order. When the renamed graph is well formed no two nodes get one id, so the renaming is part of a
permutation of all names (`Graph.WellFormed.exists_perm`), and the two graphs correspond
(`Graph.WellFormed.counterpart_renamed`). The permutation can leave the name of the end of every run
alone when no node has that name before or after.
-/

namespace Automation

/-- A notice with the node that it is about renamed. -/
def Notice.renamed (f : String → String) : Notice → Notice
  | .node id issue => .node (f id) issue
  | notice => notice

/-- A node under the id that it gets. -/
def Node.renamed (f : String → String) (n : Node) : Node := { n with id := f n.id }

namespace Graph

/-- The graph with its nodes renamed. Edges keep their ids. -/
def renamed (f : String → String) (g : Graph) : Graph :=
  { g with
    nodes := g.nodes.map (·.renamed f)
    edges := g.edges.map fun e => { e with source := f e.source, target := f e.target } }

variable {g : Graph} {f : String → String}

/-- Renaming and marking the payloads apart can be done in either order. -/
theorem renamed_apart (f : String → String) (g : Graph) :
    (g.renamed f).apart = g.apart.renamed f := by
  unfold renamed apart
  dsimp only
  rw [List.zipIdx_map, List.map_map, List.map_map]
  rfl

/-- What there is to say about the nodes is said of the renamed nodes. -/
theorem notices_renamed (limits : Limits) (f : String → String) (g : Graph) :
    (g.renamed f).notices limits = (g.notices limits).map (List.map (Notice.renamed f)) := by
  let tell (acc : List Notice) (n : Node) : Outcome (List Notice) := do
    return acc ++ (← n.issues limits).map (.node n.id)
  have hfold (nodes : List Node) (acc : List Notice) :
      (nodes.map (·.renamed f)).foldlM tell (acc.map (Notice.renamed f))
        = (nodes.foldlM tell acc).map (List.map (Notice.renamed f)) := by
    induction nodes generalizing acc with
    | nil => rfl
    | cons n nodes ih =>
      rw [List.map_cons, List.foldlM_cons, List.foldlM_cons]
      have htell : tell (acc.map (Notice.renamed f)) (n.renamed f)
          = (tell acc n).map (List.map (Notice.renamed f)) := by
        -- what there is to say about a node does not depend on its id
        have hissues : (n.renamed f).issues limits = n.issues limits := rfl
        unfold tell
        rw [hissues]
        cases n.issues limits with
        | error failure => rfl
        | ok issues =>
          refine congrArg Except.ok ?_
          rw [List.map_append, List.map_map]
          rfl
      rw [htell]
      cases tell acc n with
      | error failure => rfl
      | ok told => exact ih told
  exact hfold g.nodes []

/-- The ids of a well-formed graph are told apart by a renaming that keeps it well formed. -/
theorem WellFormed.renamed_inj (h : (g.renamed f).WellFormed) {m n : Node} (hm : m ∈ g.nodes)
    (hn : n ∈ g.nodes) (heq : f m.id = f n.id) : m = n := by
  have hnodup := h.nodup
  rw [renamed, List.map_map] at hnodup
  exact List.inj_on_of_nodup_map hnodup hm hn heq

/-- The permutation of names that a renaming is part of. -/
theorem WellFormed.exists_perm (h : (g.renamed f).WellFormed) (hexit : g.NoExit)
    (hexit' : (g.renamed f).NoExit) :
    ∃ σ : Equiv.Perm String, (∀ n ∈ g.nodes, σ n.id = f n.id) ∧ σ exitName = exitName := by
  classical
  have hexit' {n : Node} (hn : n ∈ g.nodes) : f n.id ≠ exitName :=
    hexit' (n.renamed f) (List.mem_map_of_mem hn)
  -- the end of every run is one more name that is told apart
  let ids : Finset String := insert exitName (g.nodes.map (·.id)).toFinset
  let name (id : String) : String := if id = exitName then exitName else f id
  have hname {n : Node} (hn : n ∈ g.nodes) : name n.id = f n.id := if_neg (hexit n hn)
  have hids {id : String} : id ∈ ids ↔ id = exitName ∨ ∃ n ∈ g.nodes, n.id = id := by
    simp [ids]
  have hinj : Set.InjOn name ids := by
    intro a ha b hb heq
    rcases hids.1 ha with rfl | ⟨m, hm, rfl⟩ <;> rcases hids.1 hb with rfl | ⟨n, hn, rfl⟩
    · rfl
    · rw [hname hn] at heq
      exact absurd heq.symm (hexit' hn)
    · rw [hname hm] at heq
      exact absurd heq (hexit' hm)
    · rw [hname hm, hname hn] at heq
      rw [h.renamed_inj hm hn heq]
  -- an injective map on these ids extends to a permutation of the ids and their new names
  let all : Finset String := ids ∪ ids.image name
  obtain ⟨τ, hτ⟩ := Finset.exists_equiv_extend_of_card_eq (t := all) (by simp)
    (s := Finset.univ.filter fun x : all => x.1 ∈ ids) (f := fun x : all => name x.1)
    (by
      intro x hx
      obtain ⟨y, hy, rfl⟩ := Finset.mem_image.1 hx
      exact Finset.mem_union_right _ (Finset.mem_image_of_mem _ (Finset.mem_filter.1 hy).2))
    (by
      intro x hx y hy heq
      exact Subtype.ext (hinj (by simpa using hx) (by simpa using hy) heq))
  have happly {id : String} (hid : id ∈ ids) : Equiv.Perm.ofSubtype τ id = name id := by
    have hmem : id ∈ all := Finset.mem_union_left _ hid
    rw [Equiv.Perm.ofSubtype_apply_of_mem τ hmem]
    exact hτ ⟨id, hmem⟩ (by simpa using hid)
  refine ⟨Equiv.Perm.ofSubtype τ, fun n hn => ?_, ?_⟩
  · rw [happly (hids.2 (.inr ⟨n, hn, rfl⟩)), hname hn]
  · rw [happly (hids.2 (.inl rfl))]
    exact if_pos rfl

/-- Each of some nodes is in the place of its renamed node. -/
theorem forall₂_renamed {nodes : List Node} (h : ∀ n ∈ nodes, n ∈ g.nodes) :
    List.Forall₂ (fun m n => m ∈ g.nodes ∧ n = m.renamed f) nodes (nodes.map (·.renamed f)) :=
  List.forall₂_map_right_iff.2 (List.forall₂_same.2 fun n hn => ⟨h n hn, rfl⟩)

/-- A graph and the renamed graph correspond. -/
theorem WellFormed.counterpart_renamed {σ : Equiv.Perm String} (hwf : g.WellFormed)
    (hwf' : (g.renamed f).WellFormed) (hσ : ∀ n ∈ g.nodes, σ n.id = f n.id) :
    Counterpart σ (fun m n => m ∈ g.nodes ∧ n = m.renamed f) g (g.renamed f) where
  left := hwf
  right := hwf'
  node := by
    rintro m n ⟨hm, rfl⟩
    exact ⟨(hσ m hm).symm, rfl, rfl, rfl⟩
  nodes := ⟨_, forall₂_renamed fun _ hm => hm, .refl _⟩
  triggers := by
    have htriggers : (g.renamed f).triggers = g.triggers.map (·.renamed f) := List.filter_map ..
    rw [htriggers]
    exact forall₂_renamed fun _ hm => (List.mem_filter.1 hm).1
  edges := by
    rw [renamed, List.map_map]
    refine List.Perm.of_eq (List.map_congr_left fun e he => ?_)
    obtain ⟨-, m, hm, n, hn, hsource, htarget, -⟩ := hwf.edge he
    rw [hsource, htarget, hσ m hm, hσ n hn]
    show _ = (f e.source, f e.target, e.handle)
    rw [hsource, htarget]

end Graph

end Automation
