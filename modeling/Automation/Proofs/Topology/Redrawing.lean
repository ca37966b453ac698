import Automation.Proofs.Topology.Finishing
import Automation.Proofs.Topology.Joins
import Automation.Proofs.Topology.Release
import Automation.Proofs.Topology.Retread

/-!
# Graphs that a walk takes alike

A walk asks a graph for the kind of a node and for the edges out of it, and of an edge for its ends
and its handle. Two graphs that answer alike (`Graph.Redrawn`) are walked alike: the same nodes are
reachable in the same order (`Graph.Redrawn.reachable_eq`), the depth-first search takes the same
steps (`Graph.Redrawn.finish_redraw`), and the joins are the same (`Graph.Redrawn.joins_eq`), those
behind skipped blocks included (`Graph.Redrawn.blockJoins_eq`). When the check accepts both or
neither, the reports on them differ in the back edges alone (`Graph.Redrawn.matches_analyze`).

The joins of some nodes depend only on these nodes and on the edges out of them
(`Graph.joins_congr`).
-/

namespace Automation

/-- A change to edges that no walk notices. -/
structure Edge.Kept (f : Edge → Edge) : Prop where
  id : ∀ e, (f e).id = e.id
  ends : ∀ e, (f e).ends = e.ends

namespace Edge.Kept

variable {f : Edge → Edge} (h : Edge.Kept f)

theorem refl : Edge.Kept fun e => e := ⟨fun _ => rfl, fun _ => rfl⟩

include h

/-- An edge that is kept keeps its source. -/
theorem source (e : Edge) : (f e).source = e.source := congrArg Prod.fst (h.ends e)

theorem target (e : Edge) : (f e).target = e.target := congrArg (·.2.1) (h.ends e)

theorem handle (e : Edge) : (f e).handle = e.handle := congrArg (·.2.2) (h.ends e)

/-- Edges that are kept keep their ends. -/
theorem map_ends (es : List Edge) : (es.map f).map Edge.ends = es.map Edge.ends := by
  rw [List.map_map]
  exact List.map_congr_left fun e _ => h.ends e

end Edge.Kept

/-- What a change does not affect can be looked for before it or behind it. -/
theorem filter_map_of_forall {α β : Type} {f : α → β} {p : β → Bool} {q : α → Bool}
    (h : ∀ x, p (f x) = q x) (xs : List α) : (xs.map f).filter p = (xs.filter q).map f := by
  rw [List.filter_map]
  exact congrArg (List.map f) (List.filter_congr fun x _ => h x)

namespace Graph

variable {g g' : Graph} {f : Edge → Edge}

/-! ## Look-ups by the ends of edges -/

/-- The ends of the edges out of a node are found among the ends of all edges. -/
theorem map_ends_outEdges (g : Graph) (id : String) : (g.outEdges id).map Edge.ends
    = ((g.edges.map Edge.ends).filter fun x => !(x.2.2 == some handleFalse) && x.1 == id)
      ++ (g.edges.map Edge.ends).filter fun x => x.2.2 == some handleFalse && x.1 == id := by
  unfold outEdges outgoing
  dsimp only
  rw [List.map_append, List.filter_filter, List.filter_filter, List.filter_map, List.filter_map]
  rfl

/-- What walks ask of the edges out of a node lies in the ends of these edges. -/
theorem branch?_congr {id : String}
    (h : (g'.outEdges id).map Edge.ends = (g.outEdges id).map Edge.ends) (handle : String) :
    g'.branch? id handle = g.branch? id handle := by
  have hends (es : List Edge) : (es.find? (·.handle == some handle)).map (·.target)
      = ((es.map Edge.ends).find? (·.2.2 == some handle)).map (·.2.1) := by
    rw [List.find?_map, Option.map_map]
    rfl
  unfold branch?
  rw [hends, h, ← hends]

/-- Where a run goes on depends on the ends of the edges that leave the node. -/
theorem successor?_congr {id : String}
    (h : (g'.outEdges id).map Edge.ends = (g.outEdges id).map Edge.ends) :
    g'.successor? id = g.successor? id := by
  have hends (es : List Edge) : es.head?.map (·.target) = (es.map Edge.ends).head?.map (·.2.1) := by
    rw [List.head?_map, Option.map_map]
    rfl
  unfold successor?
  rw [hends, h, ← hends]

/-- The targets of the edges that leave a node are among their ends. -/
theorem targets_congr {id : String}
    (h : (g'.outEdges id).map Edge.ends = (g.outEdges id).map Edge.ends) :
    (g'.outEdges id).map (·.target) = (g.outEdges id).map (·.target) := by
  have hends (es : List Edge) : es.map (·.target) = (es.map Edge.ends).map (·.2.1) := by
    rw [List.map_map]
    rfl
  rw [hends, h, ← hends]

/-- The exits of a node depend on its kind and the ends of its edges. -/
theorem exits?_congr {id : String} (hkind : g'.kind? id = g.kind? id)
    (h : (g'.outEdges id).map Edge.ends = (g.outEdges id).map Edge.ends) :
    g'.exits? id = g.exits? id := by
  unfold exits? whenTrue? whenFalse?
  rw [hkind, branch?_congr h, branch?_congr h, successor?_congr h]

/-! ## Joins of some nodes -/

/-- The queue asks only for the edges out of nodes that it holds or counts. -/
theorem releaseFrom_congr (w : Waiting) (queue : List String)
    (h : ∀ id, id ∈ queue ∨ id ∈ w.keys →
      (g'.outEdges id).map (·.target) = (g.outEdges id).map (·.target)) :
    g'.releaseFrom w queue = g.releaseFrom w queue := by
  induction w, queue using releaseFrom.induct g with
  | case1 w => rw [releaseFrom, releaseFrom]
  | case2 w id queue next ih =>
    rw [releaseFrom, releaseFrom, h id (.inl List.mem_cons_self)]
    refine congrArg (id :: ·) (ih fun x hx => h x ?_)
    rcases hx with hx | hx
    · rcases List.mem_append.1 hx with hx | hx
      · exact .inl (List.mem_cons_of_mem _ hx)
      · exact .inr (Waiting.mem_keys_of_releaseAll x hx)
    · exact .inr (Waiting.keys_releaseAll .. ▸ hx)

/-- The order of release depends on the edges that leave each node, in their order, and on how often
each node is entered. -/
theorem releaseOrder_congr {ids : List String}
    (hout : ∀ id ∈ ids, (g'.outEdges id).map Edge.ends = (g.outEdges id).map Edge.ends)
    (hedges : ((g'.edges.filter fun e => ids.contains e.source).map Edge.ends).Perm
      ((g.edges.filter fun e => ids.contains e.source).map Edge.ends)) :
    g'.releaseOrder ids = g.releaseOrder ids := by
  -- what an id waits for is counted by the ends of edges, in whatever order these are
  have hcount (a : Graph) (id : String) :
      (a.edges.filter fun e => e.target == id && ids.contains e.source).length
        = ((a.edges.filter fun e => ids.contains e.source).map Edge.ends).countP (·.2.1 == id) := by
    rw [List.countP_map, List.countP_eq_length_filter, List.filter_filter]
    rfl
  unfold releaseOrder
  dsimp only
  simp only [hcount]
  simp only [hedges.countP_eq]
  refine releaseFrom_congr _ _ fun id hid => targets_congr (hout id ?_)
  rcases hid with hid | hid
  · rw [List.mem_mergeSort] at hid
    obtain ⟨x, hx, rfl⟩ := List.mem_map.1 hid
    obtain ⟨key, hkey, rfl⟩ := List.mem_map.1 (List.mem_filter.1 hx).1
    exact hkey
  · rw [Waiting.keys, List.map_map] at hid
    obtain ⟨key, hkey, rfl⟩ := List.mem_map.1 hid
    exact hkey

/-- The joins of some nodes come from these nodes and from the edges out of them. -/
theorem joins_congr {ids : List String} (hkind : ∀ id ∈ ids, g'.kind? id = g.kind? id)
    (hout : ∀ id ∈ ids, (g'.outEdges id).map Edge.ends = (g.outEdges id).map Edge.ends)
    (hedges : ((g'.edges.filter fun e => ids.contains e.source).map Edge.ends).Perm
      ((g.edges.filter fun e => ids.contains e.source).map Edge.ends)) :
    g'.joins ids = g.joins ids := by
  -- on the order of release, in which each row is made of the exits of its node alone
  have hall : ∀ (order : List String) (t : JoinTable), (∀ id ∈ order, id ∈ ids) →
      order.foldlM g'.addJoin? t = order.foldlM g.addJoin? t := by
    intro order
    induction order with
    | nil => exact fun _ _ => rfl
    | cons id order ih =>
      intro t hmem
      obtain ⟨hid, hmem⟩ := List.forall_mem_cons.1 hmem
      have hstep : g'.addJoin? t id = g.addJoin? t id := by
        unfold addJoin?
        rw [exits?_congr (hkind id hid) (hout id hid)]
      rw [List.foldlM_cons, List.foldlM_cons, hstep]
      exact congrArg (g.addJoin? t id).bind (funext fun t => ih t hmem)
  unfold joins
  rw [releaseOrder_congr hout hedges,
    hall _ _ fun id hid => mem_of_mem_releaseOrder id (List.mem_reverse.1 hid)]

/-! ## Graphs that are walked alike -/

/-- Two graphs with the same kinds of nodes, the same triggers, and the same edges out of every node
in the same order, up to what no walk notices of an edge. -/
structure Redrawn (f : Edge → Edge) (g g' : Graph) : Prop where
  kept : Edge.Kept f
  kind? : ∀ id, g'.kind? id = g.kind? id
  triggers : g'.triggers.map (·.id) = g.triggers.map (·.id)
  outEdges : ∀ id, g'.outEdges id = (g.outEdges id).map f
  edges : (g.edges.map f).Perm g'.edges

namespace Redrawn

variable (h : Redrawn f g g')

include h

/-- A graph that is redrawn has edges with the same ends, node by node. -/
theorem ends_outEdges (id : String) :
    (g'.outEdges id).map Edge.ends = (g.outEdges id).map Edge.ends := by
  rw [h.outEdges, h.kept.map_ends]

/-- Runs go on from a branch as before. -/
theorem branch?_eq (id handle : String) : g'.branch? id handle = g.branch? id handle :=
  branch?_congr (h.ends_outEdges id) handle

theorem successor?_eq (id : String) : g'.successor? id = g.successor? id :=
  successor?_congr (h.ends_outEdges id)

/-- The queue is worked off as before. -/
theorem reach_eq (seen queue : List String) : g'.reach seen queue = g.reach seen queue := by
  induction seen, queue using reach.induct g with
  | case1 seen => rw [reach, reach]
  | case2 seen id queue hnew ih =>
    rw [reach, dif_pos hnew, reach, dif_pos hnew, targets_congr (h.ends_outEdges id)]
    exact ih
  | case3 seen id queue hold ih =>
    rw [reach, dif_neg hold, reach, dif_neg hold]
    exact ih

/-- The same nodes are reachable, and they are met in the same order. -/
theorem reachable_eq : g'.reachable = g.reachable := by
  unfold reachable
  rw [h.triggers, h.reach_eq]

theorem firstNodes_eq : g'.firstNodes = g.firstNodes := by
  have hmap (a : Graph) : a.firstNodes = (a.triggers.map (·.id)).map a.successor? := by
    rw [List.map_map]
    rfl
  rw [hmap, hmap, h.triggers]
  exact List.map_congr_left fun id _ => h.successor?_eq id

/-- The nodes behind the triggers are reached as before. -/
theorem body_eq : g'.body = g.body := by
  unfold body
  rw [h.reachable_eq]
  simp only [h.kind?]

/-- The joins of any nodes are the same. -/
theorem joins_eq (ids : List String) : g'.joins ids = g.joins ids := by
  refine joins_congr (fun id _ => h.kind? id) (fun id _ => h.ends_outEdges id) ?_
  have hfilter := (h.edges.filter fun e => ids.contains e.source).map Edge.ends
  rw [filter_map_of_forall fun e => by rw [h.kept.source], h.kept.map_ends] at hfilter
  exact hfilter.symm

end Redrawn

/-! ## Depth-first search -/

namespace Search

/-- The search whose edges have been changed. -/
def redraw (f : Edge → Edge) (s : Search) : Search :=
  { path := s.path.map fun frame => { frame with rest := frame.rest.map f }
    met := s.met
    back := s.back.map f }

end Search

namespace Redrawn

open Search

variable (h : Redrawn f g g')

include h

/-- The search enters a node with the edges that leave it, redrawn. -/
theorem enter_redraw (s : Search) (id : String) :
    (s.redraw f).enter g' id = (s.enter g id).redraw f := by
  unfold enter
  rw [h.outEdges]
  rfl

/-- The search follows a redrawn edge as it followed the edge. -/
theorem follow_redraw (s : Search) (e : Edge) :
    (s.redraw f).follow g' (f e) = (s.follow g e).redraw f := by
  have hpath : ((s.redraw f).path.any fun frame => frame.id == (f e).target)
      = s.path.any fun frame => frame.id == e.target := by
    rw [redraw, List.any_map, h.kept.target]
    rfl
  unfold follow
  rw [hpath, show (s.redraw f).met = s.met from rfl, h.kept.target]
  split
  · rfl
  · split
    · rfl
    · exact h.enter_redraw s e.target

/-- Both searches take the same steps. -/
theorem finish_redraw (s : Search) : (s.redraw f).finish g' = (s.finish g).redraw f := by
  induction s using Search.finish.induct g with
  | case1 s hs =>
    have hpath : (s.redraw f).path = [] := by rw [redraw, hs, List.map_nil]
    rw [finish_of_nil hpath, finish_of_nil hs]
  | case2 s id path hs ih =>
    have hpath : (s.redraw f).path
        = ⟨id, []⟩ :: path.map fun frame => { frame with rest := frame.rest.map f } := by
      rw [redraw, hs, List.map_cons, List.map_nil]
    rw [finish_of_leave hpath, finish_of_leave hs, ← ih]
    rfl
  | case3 s id e rest path hs ih =>
    have hpath : (s.redraw f).path = ⟨id, f e :: rest.map f⟩
        :: path.map fun frame => { frame with rest := frame.rest.map f } := by
      rw [redraw, hs, List.map_cons, List.map_cons]
    rw [finish_of_follow hpath, finish_of_follow hs, ← ih, ← h.follow_redraw]
    rfl

/-- Both searches come to the same end from the same roots. -/
theorem roots_redraw (roots : List String) (s : Search) :
    roots.foldl (Search.root g') (s.redraw f) = (roots.foldl (Search.root g) s).redraw f := by
  induction roots generalizing s with
  | nil => rfl
  | cons id roots ih =>
    have hroot : (s.redraw f).root g' id = (s.root g id).redraw f := by
      unfold Search.root
      rw [show (s.redraw f).met = s.met from rfl]
      split
      · rfl
      · rw [h.enter_redraw, h.finish_redraw]
    rw [List.foldl_cons, List.foldl_cons, hroot, ih]

/-- The same back edges are found when the searches start from the same nodes in turn. -/
theorem backEdges_eq (hids : g'.nodes.map (·.id) = g.nodes.map (·.id)) :
    g'.backEdges = g.backEdges.map f := by
  unfold backEdges
  rw [h.triggers, hids, show ({} : Search) = ({} : Search).redraw f from rfl, h.roots_redraw]
  exact List.map_reverse.symm

end Redrawn

/-! ## Graphs without their back edges -/

/-- Whether an edge is left out of the graph as a back edge: its id is that of one. -/
def isBack (g : Graph) (e : Edge) : Bool := (g.backEdges.map (·.id)).contains e.id

theorem forward_edges (g : Graph) : g.forward.edges = g.edges.filter fun e => !g.isBack e := rfl

/-- What leaves a node forward are its edges that lead back to no node on the path. -/
theorem outEdges_forward (g : Graph) (id : String) :
    g.forward.outEdges id = (g.outEdges id).filter fun e => !g.isBack e := by
  unfold outEdges outgoing
  rw [forward_edges]
  simp only [List.filter_append, List.filter_filter, Bool.and_comm, Bool.and_left_comm,
    Bool.and_assoc]

namespace Redrawn

variable (h : Redrawn f g g') (hids : g'.nodes.map (·.id) = g.nodes.map (·.id))

include h hids

/-- The same edges are left out. -/
theorem forward : Redrawn f g.forward g'.forward := by
  have hback (e : Edge) : g'.isBack (f e) = g.isBack e := by
    have hmap : (g.backEdges.map f).map (·.id) = g.backEdges.map (·.id) := by
      rw [List.map_map]
      exact List.map_congr_left fun e _ => h.kept.id e
    unfold isBack
    rw [h.backEdges_eq hids, hmap, h.kept.id]
  have hfilter : ∀ es : List Edge, (es.map f).filter (fun e => !g'.isBack e)
      = (es.filter fun e => !g.isBack e).map f :=
    filter_map_of_forall fun e => congrArg not (hback e)
  refine ⟨h.kept, h.kind?, h.triggers, fun id => ?_, ?_⟩
  · rw [outEdges_forward, outEdges_forward, h.outEdges, hfilter]
  · rw [forward_edges, forward_edges, ← hfilter]
    exact h.edges.filter _

/-- A run goes on at the same places behind skipped blocks. -/
theorem blockJoins_eq : g'.blockJoins = g.blockJoins := by
  unfold blockJoins
  rw [h.body_eq]
  simp only [(h.forward hids).joins_eq, isConditionAt, h.kind?]

/-! ## Reports -/

omit hids in
theorem triggersAgree_eq : g'.triggersAgree = g.triggersAgree := by
  unfold triggersAgree
  rw [h.firstNodes_eq]

omit hids in
/-- The walk that meets nodes twice goes the same way. -/
theorem retread_eq (t : JoinTable) (met again : List String) (walks : List (String × String)) :
    g'.retread t met again walks = g.retread t met again walks := by
  -- on the walk itself, each case of which has its equation in both graphs
  induction met, again, walks using retread.induct g t with
  | case1 => rw [retread, retread]
  | case2 met again id stop rest hstop ih => rw [retread, if_pos hstop, retread, if_pos hstop, ih]
  | case3 met again id stop rest hstop hmet ih =>
    rw [retread, if_neg hstop, dif_pos hmet, retread, if_neg hstop, dif_pos hmet]
    exact ih
  | case4 met again id stop rest hstop hmet hnone =>
    rw [retread_of_kind?_eq_none hstop hmet ((h.kind? id).trans hnone),
      retread_of_kind?_eq_none hstop hmet hnone]
  | case5 met again id stop rest hstop hmet kind hkind hcondition hnone =>
    rw [retread_of_join?_eq_none hstop hmet ((h.kind? id).trans hkind) hcondition hnone,
      retread_of_join?_eq_none hstop hmet hkind hcondition hnone]
  | case6 met again id stop rest hstop hmet kind hkind hcondition join hfound branches ih =>
    rw [retread_branch hstop hmet ((h.kind? id).trans hkind) hcondition hfound,
      retread_branch hstop hmet hkind hcondition hfound, whenTrue?, whenFalse?, h.branch?_eq,
      h.branch?_eq]
    rwa [List.cons_append, branches_append] at ih
  | case7 met again id stop rest hstop hmet kind hkind hcondition next ih =>
    have hstep : kind.isCondition = false := by simpa using hcondition
    rw [retread_step hstop hmet ((h.kind? id).trans hkind) hstep,
      retread_step hstop hmet hkind hstep, h.successor?_eq]
    exact ih

/-- The reports are the same, up to the changes in the back edges, when the check accepts both
graphs or neither. -/
theorem matches_analyze {limits : Limits} (hcheck : g'.check limits = g.check limits) :
    Outcome.Matches (fun r r' => r' = { r with backEdges := r.backEdges.map f })
      (g.analyze limits) (g'.analyze limits) := by
  have hsame {α : Type} (o : Outcome α) : Outcome.Matches Eq o o := .refl (fun _ => rfl) o
  -- what the rest of the analysis asks of the graphs is the same, except for the back edges
  have hjoins : g'.joins = g.joins := funext h.joins_eq
  have hretread (t : JoinTable) (id : String) :
      g'.retread t [] [] [(id, exitName)] = g.retread t [] [] [(id, exitName)] :=
    h.retread_eq t [] [] _
  unfold analyze
  rw [hcheck, h.reachable_eq, h.backEdges_eq hids, h.triggersAgree_eq, h.firstNodes_eq, h.body_eq,
    hjoins, h.triggers, hids]
  refine (hsame (g.check limits)).bind fun _ _ _ => ?_
  dsimp only
  rw [List.isEmpty_map]
  cases g.backEdges.isEmpty with
  | true =>
    simp only [if_true]
    refine (hsame g.body).bind fun ids _ heq => heq ▸ (hsame (g.joins ids)).bind fun t _ heq => ?_
    rw [← heq]
    split
    · rw [hretread]
      exact (hsame _).bind fun again _ heq => heq ▸ .ok rfl
    · exact .ok rfl
  | false =>
    simp only [Bool.false_eq_true, if_false, Outcome.ok_bind]
    split <;> exact .ok rfl

end Redrawn

end Graph

end Automation
