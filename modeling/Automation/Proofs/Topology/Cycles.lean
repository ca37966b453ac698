import Automation.Proofs.Topology.Blocks

/-!
# What a depth-first search finds

The search visits every node and finds an edge back to its path exactly where there is a cycle
(`Graph.backEdges_break_cycles`). Each step of its loop uses something up
(`Search.Step.remaining_lt`) and the loop goes on as long as there is a path
(`Search.steps_finish`). While it goes on, the path is one along edges of the graph
(`Search.Threaded`), so an edge that leads back to it closes a cycle without a node that comes
twice.
-/

namespace Automation

namespace Graph

variable {g : Graph}

/-! ## Routes -/

/-- A route along the edges of a graph, from one id to another. -/
inductive Route (g : Graph) : String → String → List Edge → Prop
  | nil (id : String) : Route g id id []
  | cons {e : Edge} {es : List Edge} {a b : String} (mem : e ∈ g.edges) (source : e.source = a)
      (rest : Route g e.target b es) : Route g a b (e :: es)

/-- A route that can be gone round: it leads back to where it starts, by at least one edge. -/
def IsCycle (g : Graph) (es : List Edge) : Prop := es ≠ [] ∧ ∃ id, g.Route id id es

/-- Two routes, one behind the other, are a route. -/
theorem Route.append {a b c : String} {es fs : List Edge} (h : g.Route a b es)
    (h' : g.Route b c fs) : g.Route a c (es ++ fs) := by
  induction h with
  | nil => exact h'
  | cons mem source _ ih => exact .cons mem source (ih h')

/-- A route with an edge in it leads on. -/
theorem Route.transGen {a b : String} {e : Edge} {es : List Edge} (h : g.Route a b (e :: es)) :
    Relation.TransGen g.Leads a b := by
  induction es generalizing a e with
  | nil =>
    cases h with
    | cons mem source rest =>
      cases rest
      exact .single ⟨e, mem, source, rfl⟩
  | cons f es ih =>
    cases h with
    | cons mem source rest => exact .head ⟨e, mem, source, rfl⟩ (ih rest)

/-- No cycle is left without the edges that the search finds. -/
theorem WellFormed.not_isCycle_withoutBackEdges (hwf : g.WellFormed) (es : List Edge) :
    ¬g.withoutBackEdges.IsCycle es := by
  rintro ⟨hne, id, hroute⟩
  cases es with
  | nil => exact hne rfl
  | cons e es => exact hwf.not_transGen_withoutBackEdges id hroute.transGen

/-! ## The path of the search -/

namespace Search

variable {s s' : Search}

/-- A path along edges of the graph, with the deepest node first. -/
def Linked (g : Graph) : List Frame → Prop
  | [] => True
  | [_] => True
  | f :: f' :: path => g.Leads f'.id f.id ∧ Linked g (f' :: path)

/-- Whether an edge closes a cycle in which no node comes twice. -/
def Closes (g : Graph) (e : Edge) : Prop :=
  ∃ es, g.Route e.source e.source (e :: es) ∧ ((e :: es).map (·.source)).Nodup

/-- A search whose path is one along edges, whose edges to follow lead out of its nodes, and that
has found edges that close cycles. -/
structure Threaded (g : Graph) (s : Search) : Prop where
  linked : Linked g s.path
  nodup : (s.path.map (·.id)).Nodup
  met : ∀ f ∈ s.path, f.id ∈ s.met
  rest : ∀ f ∈ s.path, ∀ e ∈ f.rest, e ∈ g.edges ∧ e.source = f.id
  back : ∀ e ∈ s.back, e ∈ g.edges ∧ Closes g e

/-- What links a path are its nodes, not the edges that are left to follow. -/
theorem Linked.of_rest {id : String} {es es' : List Edge} {path : List Frame}
    (h : Linked g (⟨id, es⟩ :: path)) : Linked g (⟨id, es'⟩ :: path) := by
  cases path with
  | nil => trivial
  | cons => exact h

theorem Linked.tail {f : Frame} {path : List Frame} (h : Linked g (f :: path)) : Linked g path := by
  cases path with
  | nil => trivial
  | cons => exact h.2

/-- From each node on a path a route leads along it to its deepest node. -/
theorem Linked.exists_route {f : Frame} {path : List Frame} (h : Linked g (f :: path)) {id : String}
    (hid : id ∈ (f :: path).map (·.id)) : ∃ es, g.Route id f.id es
      ∧ (es.map (·.source)).Sublist (path.map (·.id)).reverse := by
  -- the route to the node above is known, and the edge that links the two goes behind it
  induction path generalizing f with
  | nil =>
    obtain rfl : id = f.id := by simpa using hid
    exact ⟨[], .nil _, List.nil_sublist _⟩
  | cons f' path ih =>
    obtain ⟨⟨e, he, hsource, htarget⟩, hlinked⟩ := h
    rcases List.mem_cons.1 hid with rfl | hid
    · exact ⟨[], .nil _, List.nil_sublist _⟩
    · obtain ⟨es, hroute, hsub⟩ := ih hlinked hid
      refine ⟨es ++ [e], hroute.append ?_, ?_⟩
      · exact .cons he hsource (htarget ▸ .nil _)
      · rw [List.map_append, List.map_cons, List.map_cons, List.reverse_cons, hsource]
        exact hsub.append (.refl _)

/-- An edge from the deepest node of a path back to the path closes a cycle. -/
theorem Linked.closes {f : Frame} {path : List Frame} (h : Linked g (f :: path))
    (hnodup : ((f :: path).map (·.id)).Nodup) {e : Edge} (he : e ∈ g.edges)
    (hsource : e.source = f.id) (htarget : e.target ∈ (f :: path).map (·.id)) : Closes g e := by
  obtain ⟨es, hroute, hsub⟩ := h.exists_route htarget
  rw [List.map_cons] at hnodup
  obtain ⟨hnew, hnodup⟩ := List.nodup_cons.1 hnodup
  refine ⟨es, .cons he rfl (hsource ▸ hroute), ?_⟩
  rw [List.map_cons, hsource]
  refine List.nodup_cons.2 ⟨fun hmem => hnew ?_, ?_⟩
  · exact List.mem_reverse.1 (hsub.subset hmem)
  · exact hsub.nodup (List.nodup_reverse.2 hnodup)

/-- A new node that the last one leads to lengthens the path. -/
theorem Threaded.enter (h : Threaded g s) {id : String} (hnew : s.met.contains id = false)
    (hlinked : ∀ f ∈ s.path.head?, g.Leads f.id id) : Threaded g (s.enter g id) := by
  refine ⟨?_, ?_, ?_, List.forall_mem_cons.2 ⟨fun e he => mem_outEdges.1 he, h.rest⟩, h.back⟩
  · unfold Search.enter
    cases hpath : s.path with
    | nil => trivial
    | cons f path =>
      refine ⟨hlinked f (by rw [hpath]; rfl), ?_⟩
      rw [← hpath]
      exact h.linked
  · refine List.nodup_cons.2 ⟨fun hmem => ?_, h.nodup⟩
    obtain ⟨f, hf, rfl⟩ := List.mem_map.1 hmem
    have := h.met f hf
    simp_all
  · exact List.forall_mem_cons.2 ⟨List.mem_cons_self,
      fun f hf => List.mem_cons_of_mem _ (h.met f hf)⟩

/-- What holds of the path of a search goes on holding in every step of its loop. -/
theorem Threaded.step (h : Threaded g s) (hstep : Step g s s') : Threaded g s' := by
  cases hstep with
  | leave hs =>
    obtain ⟨hlinked, hnodup, hmet, hrest, hback⟩ := h
    rw [hs] at hlinked hnodup hmet hrest
    exact ⟨hlinked.tail, (List.nodup_cons.1 hnodup).2, (List.forall_mem_cons.1 hmet).2,
      (List.forall_mem_cons.1 hrest).2, hback⟩
  | @follow id e rest path hs =>
    obtain ⟨hlinked, hnodup, hmet, hrest, hback⟩ := h
    rw [hs] at hlinked hnodup hmet hrest
    obtain ⟨hhere, habove⟩ := List.forall_mem_cons.1 hrest
    obtain ⟨⟨he, hsource⟩, hhere⟩ := List.forall_mem_cons.1 hhere
    -- the path loses an edge to follow, and keeps its nodes
    have hkept : Threaded g { s with path := ⟨id, rest⟩ :: path } :=
      ⟨hlinked.of_rest, hnodup, List.forall_mem_cons.2 (List.forall_mem_cons.1 hmet),
        List.forall_mem_cons.2 ⟨hhere, habove⟩, hback⟩
    unfold Search.follow
    split
    · -- an edge back to the path closes a cycle with the part of the path behind it
      rename_i hpath
      refine ⟨hkept.linked, hkept.nodup, hkept.met, hkept.rest,
        List.forall_mem_cons.2 ⟨⟨he, hlinked.closes hnodup he hsource ?_⟩, hback⟩⟩
      obtain ⟨f, hf, hid⟩ := List.any_eq_true.1 hpath
      have hmem : f.id ∈ (⟨id, rest⟩ :: path : List Frame).map (·.id) := List.mem_map_of_mem hf
      rwa [beq_iff_eq.1 hid] at hmem
    · split
      · exact hkept
      · rename_i hnew
        refine hkept.enter (by simpa using hnew) fun f hf => ?_
        obtain rfl : (⟨id, rest⟩ : Frame) = f := by simpa using hf
        exact ⟨e, he, hsource, rfl⟩

/-- A finished search has kept its path threaded. Induction on its steps. -/
theorem Threaded.finish (h : Threaded g s) : Threaded g (s.finish g) :=
  finish_induction (fun _ _ hstep h => h.step hstep) h

theorem Threaded.roots (h : Threaded g s) (hpath : s.path = []) (roots : List String) :
    Threaded g (roots.foldl (Search.root g) s) := by
  induction roots generalizing s with
  | nil => exact h
  | cons id roots ih =>
    rw [List.foldl_cons]
    unfold Search.root
    split
    · exact ih h hpath
    · rename_i hnew
      refine ih (h.enter (by simpa using hnew) fun f hf => ?_).finish (path_finish g _)
      rw [hpath] at hf
      cases hf

end Search

/-- The search from the triggers and then from every node. -/
def search (g : Graph) : Search :=
  (g.triggers.map (·.id) ++ g.nodes.map (·.id)).foldl (Search.root g) {}

/-- The search leaves every node that it has visited, and visits every node. -/
theorem path_search (g : Graph) :
    g.search.path = [] ∧ ∀ n ∈ g.nodes, n.id ∈ g.search.met := by
  have hstart : Search.Covering g {} := ⟨nofun, nofun⟩
  obtain ⟨-, hpath, hmet⟩ := hstart.roots rfl (g.triggers.map (·.id) ++ g.nodes.map (·.id))
  exact ⟨hpath, fun n hn => hmet _ (.inr (List.mem_append_right _ (List.mem_map_of_mem hn)))⟩

/-- Each edge that the search finds closes a cycle. -/
theorem closes_of_mem_backEdges {e : Edge} (he : e ∈ g.backEdges) : Search.Closes g e := by
  have hstart : Search.Threaded g {} := ⟨trivial, List.nodup_nil, nofun, nofun, nofun⟩
  exact ((hstart.roots rfl _).back e (List.mem_reverse.1 he)).2

/-- The loop of the search ends, having left its path, and the search visits every node. Each edge
that it finds lies on a cycle in which no node comes twice, no cycle is left without these edges,
and none is found exactly when the whole graph has no cycle. -/
theorem backEdges_break_cycles (hwf : g.WellFormed) :
    (WellFounded fun s s' => Search.Step g s' s)
      ∧ (∀ s, Relation.ReflTransGen (Search.Step g) s (s.finish g) ∧ (s.finish g).path = [])
      ∧ g.backEdges = g.search.back.reverse
      ∧ g.search.path = [] ∧ (∀ n ∈ g.nodes, n.id ∈ g.search.met)
      ∧ (∀ e ∈ g.backEdges, ∃ es, g.IsCycle (e :: es) ∧ ((e :: es).map (·.source)).Nodup)
      ∧ (∀ es, ¬g.withoutBackEdges.IsCycle es)
      ∧ (g.backEdges = [] ↔ ∀ es, ¬g.IsCycle es) := by
  have hcycle : ∀ e ∈ g.backEdges, ∃ es, g.IsCycle (e :: es)
      ∧ ((e :: es).map (·.source)).Nodup := by
    intro e he
    obtain ⟨es, hroute, hnodup⟩ := closes_of_mem_backEdges he
    exact ⟨es, ⟨List.cons_ne_nil _ _, e.source, hroute⟩, hnodup⟩
  refine ⟨Subrelation.wf (fun hstep => hstep.remaining_lt) (measure (Search.remaining g)).wf,
    fun s => ⟨Search.steps_finish g s, Search.path_finish g s⟩, rfl, (path_search g).1,
    (path_search g).2, hcycle, hwf.not_isCycle_withoutBackEdges, ?_, ?_⟩
  · intro hnil es
    -- without back edges nothing is taken away, so the graph is its own acyclic part
    have hsame : g.withoutBackEdges = g := by
      unfold withoutBackEdges
      rw [hnil]
      simp
    rw [← hsame]
    exact hwf.not_isCycle_withoutBackEdges es
  · intro hacyclic
    rw [List.eq_nil_iff_forall_not_mem]
    intro e he
    obtain ⟨es, hcycle, -⟩ := hcycle e he
    exact hacyclic _ hcycle

/-- A lamp that is turned on again and again, and two waits that no trigger leads to. -/
def lampAndWaits : Graph where
  nodes := [
    { id := "t1", kind := .trigger, data := [(.str "trigger", .str "time")] },
    { id := "c1", kind := .condition, data := [(.str "condition", .str "state")] },
    { id := "a1", kind := .action, data := [(.str "action", .str "light.turn_on")] },
    { id := "d1", kind := .delay, data := [(.str "delay", .int 5)] },
    { id := "d2", kind := .delay, data := [(.str "delay", .int 7)] }]
  edges := [.between "t1" "c1", .between "c1" "a1" (some handleTrue), .between "a1" "c1",
    .between "d1" "d2", .between "d2" "d1"]

theorem backEdges_lampAndWaits :
    lampAndWaits.WellFormed ∧ ¬lampAndWaits.Reaches "d1"
      ∧ lampAndWaits.backEdges.map Edge.ends = [("a1", "c1", none), ("d2", "d1", none)]
      ∧ (∀ n ∈ lampAndWaits.nodes, n.id ∈ lampAndWaits.search.met)
      ∧ (∃ es, lampAndWaits.IsCycle es) ∧ ∀ es, ¬lampAndWaits.withoutBackEdges.IsCycle es := by
  have hwf : lampAndWaits.WellFormed := List.isEmpty_iff.1 (by decide +kernel)
  have hends : lampAndWaits.backEdges.map Edge.ends = [("a1", "c1", none), ("d2", "d1", none)] := by
    decide +kernel
  obtain ⟨-, -, -, -, hmet, hcycle, hnone, -⟩ := backEdges_break_cycles hwf
  refine ⟨hwf, fun hreaches => ?_, hends, hmet, ?_, hnone⟩
  · have hfar : "d1" ∉ lampAndWaits.reachable := by decide +kernel
    exact hfar (mem_reachable_iff.2 hreaches)
  · obtain ⟨e, es, he, -⟩ := List.map_eq_cons_iff.1 hends
    obtain ⟨es, hes, -⟩ := hcycle e (he ▸ List.mem_cons_self)
    exact ⟨e :: es, hes⟩

end Graph

end Automation
