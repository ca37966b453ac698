import Automation.Graph.Walk
import Automation.Proofs.Graph.Structure

/-!
# Reachable nodes

The breadth-first walk meets exactly the ids that a path from a trigger leads to
(`mem_reachable_iff`), each of them once. Meeting them all is an invariant of the walk: what an edge
leads to from a node that was met was met too, or waits in the queue.
-/

namespace Automation

namespace Graph

/-- There is a path from a trigger to an id. -/
inductive Reaches (g : Graph) : String → Prop where
  | trigger {n : Node} (mem : n ∈ g.triggers) : Reaches g n.id
  | edge {e : Edge} (mem : e ∈ g.edges) (source : Reaches g e.source) : Reaches g e.target

variable {g : Graph}

/-- Nothing that was met or waits is lost. -/
theorem subset_reach (seen queue : List String) : ∀ id, id ∈ seen ∨ id ∈ queue →
    id ∈ g.reach seen queue := by
  induction seen, queue using reach.induct g with
  | case1 seen =>
    intro id h
    simpa [reach] using h
  | case2 seen next queue hnew ih =>
    intro id h
    -- what is taken from the queue is reached, and the targets behind it join the queue
    rw [reach, dif_pos hnew]
    refine ih id ?_
    rcases h with h | h
    · exact .inl (List.mem_cons_of_mem _ h)
    · rcases List.mem_cons.1 h with rfl | h
      · exact .inl List.mem_cons_self
      · exact .inr (List.mem_append_left _ h)
  | case3 seen next queue hold ih =>
    intro id h
    rw [reach, dif_neg hold]
    refine ih id ?_
    rcases h with h | h
    · exact .inl h
    · rcases List.mem_cons.1 h with rfl | h
      · exact .inl (by simpa using hold)
      · exact .inr h

/-- A walk whose edges lead only to what was met or waits ends with edges that lead only to what was
met. -/
theorem reach_closed (seen queue : List String)
    (h : ∀ e ∈ g.edges, e.source ∈ seen → e.target ∈ seen ∨ e.target ∈ queue) :
    ∀ e ∈ g.edges, e.source ∈ g.reach seen queue → e.target ∈ g.reach seen queue := by
  induction seen, queue using reach.induct g with
  | case1 seen => simpa [reach] using h
  | case2 seen next queue hnew ih =>
    rw [reach, dif_pos hnew]
    refine ih fun e he hsource => ?_
    -- an edge out of the next node leads to one that was met, or the node queues up
    by_cases htarget : e.target ∈ next :: seen
    · exact .inl htarget
    · refine .inr (List.mem_append.2 ?_)
      rcases List.mem_cons.1 hsource with hnext | hsource
      · refine .inr (List.mem_filter.2 ⟨?_, by simpa using htarget⟩)
        exact List.mem_map.2 ⟨e, mem_outEdges.2 ⟨he, hnext⟩, rfl⟩
      · rcases h e he hsource with hseen | hqueue
        · exact absurd (List.mem_cons_of_mem _ hseen) htarget
        · rcases List.mem_cons.1 hqueue with heq | hqueue
          · exact absurd (heq ▸ List.mem_cons_self) htarget
          · exact .inl hqueue
  | case3 seen next queue hold ih =>
    rw [reach, dif_neg hold]
    refine ih fun e he hsource => ?_
    rcases h e he hsource with hseen | hqueue
    · exact .inl hseen
    · rcases List.mem_cons.1 hqueue with heq | hqueue
      · exact .inl (by simpa [heq] using hold)
      · exact .inr hqueue

/-- A walk meets only what it has met, what waits, and what edges lead to from there. -/
theorem reach_induction {motive : String → Prop} (seen queue : List String)
    (hseen : ∀ id ∈ seen, motive id) (hqueue : ∀ id ∈ queue, motive id)
    (hedge : ∀ e ∈ g.edges, motive e.source → motive e.target) :
    ∀ id ∈ g.reach seen queue, motive id := by
  induction seen, queue using reach.induct g with
  | case1 seen => simpa [reach] using hseen
  | case2 seen next queue hnew ih =>
    rw [reach, dif_pos hnew]
    have hnext : motive next := hqueue next List.mem_cons_self
    refine ih ?_ ?_
    · intro id hid
      rcases List.mem_cons.1 hid with rfl | hid
      · exact hnext
      · exact hseen id hid
    · intro id hid
      rcases List.mem_append.1 hid with hid | hid
      · exact hqueue id (List.mem_cons_of_mem _ hid)
      · -- what joins the queue is the target of an edge from a node with the property
        obtain ⟨e, he, rfl⟩ := List.mem_map.1 (List.mem_filter.1 hid).1
        obtain ⟨he, hsource⟩ := mem_outEdges.1 he
        exact hedge e he (hsource ▸ hnext)
  | case3 seen next queue hold ih =>
    rw [reach, dif_neg hold]
    exact ih hseen fun id hid => hqueue id (List.mem_cons_of_mem _ hid)

/-- A walk meets nothing twice. -/
theorem nodup_reach (seen queue : List String) (h : seen.Nodup) : (g.reach seen queue).Nodup := by
  induction seen, queue using reach.induct g with
  | case1 seen => simpa [reach] using h
  | case2 seen next queue hnew ih =>
    rw [reach, dif_pos hnew]
    exact ih (List.nodup_cons.2 ⟨by simpa using hnew, h⟩)
  | case3 seen next queue hold ih =>
    rw [reach, dif_neg hold]
    exact ih h

/-- The walk from the triggers meets exactly the ids that paths lead to. -/
theorem mem_reachable_iff {id : String} : id ∈ g.reachable ↔ g.Reaches id := by
  unfold reachable
  rw [List.mem_reverse]
  constructor
  · refine reach_induction [] _ (by simp) ?_ (fun e he => Reaches.edge he) id
    intro id hid
    obtain ⟨n, hn, rfl⟩ := List.mem_map.1 hid
    exact .trigger hn
  · intro h
    induction h with
    | trigger mem => exact subset_reach _ _ _ (.inr (List.mem_map.2 ⟨_, mem, rfl⟩))
    | edge mem _ ih => exact reach_closed _ _ (by simp) _ mem ih

theorem nodup_reachable (g : Graph) : g.reachable.Nodup :=
  List.nodup_reverse.2 (nodup_reach _ _ List.nodup_nil)

/-- Paths stay within the nodes of a well-formed graph, and only their starts are triggers. -/
theorem WellFormed.exists_of_reaches (hwf : g.WellFormed) {id : String} (h : g.Reaches id) :
    ∃ n ∈ g.nodes, n.id = id := by
  cases h with
  | trigger mem => exact ⟨_, (List.mem_filter.1 mem).1, rfl⟩
  | edge mem _ =>
    obtain ⟨-, -, -, n, hn, -, htarget, -⟩ := hwf.edge mem
    exact ⟨n, hn, htarget.symm⟩

/-- Where the first edge out of a node leads, an edge leads. -/
theorem exists_edge_of_successor? {id target : String} (h : g.successor? id = some target) :
    ∃ e ∈ g.edges, e.source = id ∧ e.target = target := by
  obtain ⟨e, he, htarget⟩ := Option.map_eq_some_iff.1 h
  obtain ⟨hmem, hsource⟩ := mem_outEdges.1 (List.mem_of_mem_head? he)
  exact ⟨e, hmem, hsource, htarget⟩

/-- Where the first edge with a handle out of a node leads, an edge leads. -/
theorem exists_edge_of_branch? {id handle target : String} (h : g.branch? id handle = some target) :
    ∃ e ∈ g.edges, e.source = id ∧ e.target = target ∧ e.handle = some handle := by
  obtain ⟨e, he, htarget⟩ := Option.map_eq_some_iff.1 h
  obtain ⟨hmem, hsource⟩ := mem_outEdges.1 (List.mem_of_find?_eq_some he)
  exact ⟨e, hmem, hsource, htarget, by simpa using List.find?_some he⟩

/-- A branch leads where an edge leads, whatever its handle. -/
theorem exists_target_of_branch? {id handle target : String}
    (h : g.branch? id handle = some target) : ∃ e ∈ g.edges, e.source = id ∧ e.target = target := by
  obtain ⟨e, he, hsource, htarget, -⟩ := exists_edge_of_branch? h
  exact ⟨e, he, hsource, htarget⟩

end Graph

end Automation
