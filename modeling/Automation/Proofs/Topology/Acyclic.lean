import Automation.Proofs.Topology.Passing

/-!
# Graphs without cycles

A graph whose edges all lead to nodes of higher rank (`Graph.Ranked`) has no cycle. A depth-first
search finds no back edge in it (`Graph.Ranked.backEdges_eq_nil`): the ranks go down along the path
from the node that the search is at, so no edge out of that node leads back to the path. Nothing is
left out when such a graph is walked forwards (`Graph.Ranked.forward_eq`), and what every run from a
node passes is no lower than the node (`Graph.Ranked.le_of_passes`).

What holds of a whole search is shown for one step of its loop (`Graph.Search.Step`), and holds when
the loop ends (`Graph.Search.finish_induction`).
-/

namespace Automation

namespace Graph

variable {g : Graph} {rank : String → Nat}

/-- Every edge leads to a node of higher rank. -/
def Ranked (g : Graph) (rank : String → Nat) : Prop := ∀ e ∈ g.edges, rank e.source < rank e.target

/-- Every edge out of some nodes leads to a node of higher rank. -/
def RankedOn (g : Graph) (ids : List String) (rank : String → Nat) : Prop :=
  ∀ e ∈ g.edges, e.source ∈ ids → rank e.source < rank e.target

theorem Ranked.on (h : g.Ranked rank) (ids : List String) : g.RankedOn ids rank :=
  fun e he _ => h e he

/-- Whether an edge leads from one node to another. -/
def Leads (g : Graph) (a b : String) : Prop := ∃ e ∈ g.edges, e.source = a ∧ e.target = b

/-- Where edges lead to higher ranks, a node is lower than all that come behind it. -/
theorem Ranked.lt_of_transGen {rank : String → Nat} (h : g.Ranked rank) {a b : String}
    (hab : Relation.TransGen g.Leads a b) : rank a < rank b := by
  have hstep {x y : String} : g.Leads x y → rank x < rank y := by
    rintro ⟨e, he, rfl, rfl⟩
    exact h e he
  induction hab with
  | single hedge => exact hstep hedge
  | tail _ hedge ih => exact Nat.lt_trans ih (hstep hedge)

/-! ## The loop of the search -/

namespace Search

variable {s s' : Search}

/-- One step of the loop: the deepest node is left once all edges out of it are followed, and else
the next edge out of it is followed. -/
inductive Step (g : Graph) : Search → Search → Prop
  | leave {s : Search} {id : String} {path : List Frame} (hs : s.path = ⟨id, []⟩ :: path) :
      Step g s { s with path }
  | follow {s : Search} {id : String} {e : Edge} {rest : List Edge} {path : List Frame}
      (hs : s.path = ⟨id, e :: rest⟩ :: path) :
      Step g s (({ s with path := ⟨id, rest⟩ :: path } : Search).follow g e)

/-- Each step uses something up. -/
theorem Step.remaining_lt (h : Step g s s') : s'.remaining g < s.remaining g := by
  cases h with
  | leave hs => simp [remaining, hs]
  | follow hs =>
    refine Nat.lt_of_le_of_lt (remaining_follow g _ _) ?_
    simp only [remaining, hs, List.flatMap_cons, List.length_append, List.length_cons]
    omega

theorem finish_of_nil (hs : s.path = []) : s.finish g = s := by
  rw [finish]
  split <;> simp_all

/-- A node whose edges have all been followed is left. -/
theorem finish_of_leave {id : String} {path : List Frame}
    (hs : s.path = ⟨id, []⟩ :: path) : s.finish g = ({ s with path } : Search).finish g := by
  rw [finish]
  split
  · simp_all
  · rename_i heq
    cases hs.symm.trans heq
    rfl
  · rename_i heq
    cases hs.symm.trans heq

/-- The first edge that is still to be followed is followed. -/
theorem finish_of_follow {id : String} {e : Edge} {rest : List Edge}
    {path : List Frame} (hs : s.path = ⟨id, e :: rest⟩ :: path) :
    s.finish g = (({ s with path := ⟨id, rest⟩ :: path } : Search).follow g e).finish g := by
  rw [finish]
  split
  · simp_all
  · rename_i heq
    cases hs.symm.trans heq
  · rename_i heq
    cases hs.symm.trans heq
    rfl

/-- The loop steps until its path is empty. -/
theorem steps_finish (g : Graph) (s : Search) :
    Relation.ReflTransGen (Step g) s (s.finish g) := by
  induction s using Search.finish.induct g with
  | case1 s hs =>
    rw [finish_of_nil hs]
  | case2 s id path hs ih =>
    rw [finish_of_leave hs]
    exact .head (.leave hs) ih
  | case3 s id e rest path hs ih =>
    rw [finish_of_follow hs]
    exact .head (.follow hs) ih

/-- What each step of the loop keeps holds when the loop ends. -/
theorem finish_induction {P : Search → Prop} (hstep : ∀ s s', Step g s s' → P s → P s') (h : P s) :
    P (s.finish g) := by
  have hall : ∀ s', Relation.ReflTransGen (Step g) s s' → P s' := by
    intro s' hsteps
    induction hsteps with
    | refl => exact h
    | tail _ hlast ih => exact hstep _ _ hlast ih
  exact hall _ (steps_finish g s)

/-- A search that is finished has left every node on its path. -/
theorem path_finish (g : Graph) (s : Search) : (s.finish g).path = [] := by
  induction s using Search.finish.induct g with
  | case1 s hs => rwa [finish_of_nil hs]
  | case2 s id path hs ih => rwa [finish_of_leave hs]
  | case3 s id e rest path hs ih => rwa [finish_of_follow hs]

/-- A node that was met stays met. -/
theorem mem_met_of_step (h : Step g s s') {id : String} (hid : id ∈ s.met) : id ∈ s'.met := by
  cases h with
  | leave => exact hid
  | follow =>
    unfold Search.follow
    split
    · exact hid
    · split
      · exact hid
      · exact List.mem_cons_of_mem _ hid

end Search

/-! ## Back edges -/

namespace Search

/-- A search that has found no back edge. The ranks go down along its path, and the edges that are
still to be followed are edges out of the nodes on it. -/
structure Rising (g : Graph) (rank : String → Nat) (s : Search) : Prop where
  back : s.back = []
  path : (s.path.map (·.id)).Pairwise fun a b => rank b < rank a
  rest : ∀ f ∈ s.path, ∀ e ∈ f.rest, e ∈ g.edges ∧ e.source = f.id

theorem Rising.enter {s : Search} (h : Rising g rank s) {id : String}
    (hid : ∀ f ∈ s.path, rank f.id < rank id) : Rising g rank (s.enter g id) := by
  refine ⟨h.back, List.pairwise_cons.2 ⟨fun x hx => ?_, h.path⟩, fun f hf => ?_⟩
  · obtain ⟨f, hf, rfl⟩ := List.mem_map.1 hx
    exact hid f hf
  · rcases List.mem_cons.1 hf with rfl | hf
    · exact fun e he => mem_outEdges.1 he
    · exact h.rest f hf

/-- Following an edge out of the node that a search is at finds no back edge. -/
theorem Rising.follow (hg : g.Ranked rank) {s : Search} {id : String} {e : Edge} {rest : List Edge}
    {path : List Frame} (h : Rising g rank s) (hs : s.path = ⟨id, e :: rest⟩ :: path) :
    Rising g rank (({ s with path := ⟨id, rest⟩ :: path } : Search).follow g e) := by
  obtain ⟨hback, hpath, hrest⟩ := h
  rw [hs] at hpath hrest
  obtain ⟨he, hsource⟩ := hrest _ List.mem_cons_self e List.mem_cons_self
  have hless : rank id < rank e.target := by
    have := hg e he
    rwa [hsource] at this
  obtain ⟨hdown, -⟩ := List.pairwise_cons.1 hpath
  -- everything on the path is at most as high as the node at its end
  have hbelow : ∀ f ∈ (⟨id, rest⟩ :: path : List Frame), rank f.id < rank e.target := by
    intro f hf
    rcases List.mem_cons.1 hf with rfl | hf
    · exact hless
    · exact Nat.lt_trans (hdown f.id (List.mem_map_of_mem hf)) hless
  have hkept : Rising g rank { s with path := ⟨id, rest⟩ :: path } := by
    refine ⟨hback, hpath, fun f hf => ?_⟩
    rcases List.mem_cons.1 hf with rfl | hf
    · exact fun e' he' => hrest _ List.mem_cons_self e' (List.mem_cons_of_mem _ he')
    · exact hrest f (List.mem_cons_of_mem _ hf)
  unfold Search.follow
  split
  · rename_i hmet
    -- the target is higher than all of the path, and so is not on it
    obtain ⟨f, hf, hid⟩ := List.any_eq_true.1 hmet
    have := hbelow f hf
    rw [beq_iff_eq.1 hid] at this
    exact absurd this (Nat.lt_irrefl _)
  · split
    · exact hkept
    · exact hkept.enter hbelow

theorem Rising.step (hg : g.Ranked rank) {s s' : Search} (h : Rising g rank s)
    (hstep : Step g s s') : Rising g rank s' := by
  cases hstep with
  | leave hs =>
    obtain ⟨hback, hpath, hrest⟩ := h
    rw [hs] at hpath hrest
    exact ⟨hback, (List.pairwise_cons.1 hpath).2, fun f hf => hrest f (List.mem_cons_of_mem _ hf)⟩
  | follow hs => exact h.follow hg hs

theorem Rising.finish (hg : g.Ranked rank) {s : Search} (h : Rising g rank s) :
    Rising g rank (s.finish g) :=
  finish_induction (fun _ _ hstep h => h.step hg hstep) h

end Search

namespace Ranked

/-- A graph without cycles has no back edges. -/
theorem backEdges_eq_nil (hg : g.Ranked rank) : g.backEdges = [] := by
  have hall : ∀ (roots : List String) (s : Search), Search.Rising g rank s → s.path = [] →
      (roots.foldl (Search.root g) s).back = [] := by
    intro roots
    induction roots with
    | nil => exact fun s hs _ => hs.back
    | cons id roots ih =>
      intro s hs hpath
      rw [List.foldl_cons]
      unfold Search.root
      split
      · exact ih s hs hpath
      · refine ih _ ((hs.enter fun f hf => ?_).finish hg) (Search.path_finish g _)
        rw [hpath] at hf
        cases hf
  unfold backEdges
  rw [hall _ {} ⟨rfl, List.Pairwise.nil, by simp⟩ rfl]
  rfl

/-- Nothing is left out of a graph without cycles. -/
theorem forward_eq (hg : g.Ranked rank) : g.forward = g := by
  unfold forward
  rw [hg.backEdges_eq_nil]
  simp

/-- A step of a run leads upwards. -/
theorem lt_of_successor? (hg : g.Ranked rank) {id target : String}
    (h : g.successor? id = some target) : rank id < rank target := by
  obtain ⟨e, he, rfl, rfl⟩ := exists_edge_of_successor? h
  exact hg e he

theorem lt_of_branch? (hg : g.Ranked rank) {id handle target : String}
    (h : g.branch? id handle = some target) : rank id < rank target := by
  obtain ⟨e, he, rfl, rfl, -⟩ := exists_edge_of_branch? h
  exact hg e he

/-- What every run from a node passes is the node itself, or higher. -/
theorem eq_or_lt_of_passes (hg : g.Ranked rank) {goal id : String}
    (h : Passes g (some goal) (some id)) : id = goal ∨ rank id < rank goal := by
  -- on the derivation: each step away from the goal goes to a lower rank
  have hall : ∀ current, Passes g (some goal) current →
      ∃ x, current = some x ∧ (x = goal ∨ rank x < rank goal) := by
    intro current h
    induction h with
    | here => exact ⟨goal, rfl, .inl rfl⟩
    | @step id kind hkind hcondition h ih =>
      obtain ⟨target, hnext, htarget⟩ := ih
      have := hg.lt_of_successor? hnext
      refine ⟨id, rfl, .inr ?_⟩
      rcases htarget with rfl | hlt <;> omega
    | @branch id kind hkind hcondition h _ ih _ =>
      obtain ⟨target, hnext, htarget⟩ := ih
      have := hg.lt_of_branch? hnext
      refine ⟨id, rfl, .inr ?_⟩
      rcases htarget with rfl | hlt <;> omega
  obtain ⟨x, hx, hgoal⟩ := hall _ h
  cases hx
  exact hgoal

/-- What every run from a node passes is no lower than the node. -/
theorem le_of_passes (hg : g.Ranked rank) {goal id : String} (h : Passes g (some goal) (some id)) :
    rank id ≤ rank goal := by
  rcases hg.eq_or_lt_of_passes h with rfl | hlt
  · exact Nat.le_refl _
  · exact Nat.le_of_lt hlt

/-- What every run behind a node passes is higher than the node. -/
theorem lt_of_passesBehind (hg : g.Ranked rank) {goal id : String}
    (h : PassesBehind g (some goal) id) : rank id < rank goal := by
  have hbehind {target : Option String} (htarget : ∀ s ∈ target, rank id < rank s)
      (h : Passes g (some goal) target) : rank id < rank goal := by
    cases target with
    | none => cases h.eq_none
    | some s => exact Nat.lt_of_lt_of_le (htarget s rfl) (hg.le_of_passes h)
  obtain ⟨kind, -, hstep, hbranch⟩ := h
  cases hcondition : kind.isCondition with
  | false => exact hbehind (fun _ hs => hg.lt_of_successor? hs) (hstep hcondition)
  | true => exact hbehind (fun _ hs => hg.lt_of_branch? hs) (hbranch hcondition).1

/-- Places that pass each other are one place. -/
theorem eq_of_passes (hg : g.Ranked rank) {a b : Option String} (hab : Passes g a b)
    (hba : Passes g b a) : a = b := by
  cases a with
  | none => exact hba.eq_none.symm
  | some x =>
    cases b with
    | none => exact hab.eq_none
    | some y =>
      have hle := hg.le_of_passes hab
      rcases hg.eq_or_lt_of_passes hba with rfl | hlt
      · rfl
      · omega

end Ranked

end Graph

end Automation
