import Automation.Proofs.Topology.Levels
import Automation.Proofs.Topology.Redrawing

/-!
# What triggers lead to

The depth-first search starts from the triggers. What it finds from the roots behind them lies out
of their reach, so the back edges that triggers lead to are found from the triggers alone
(`Graph.mem_backEdges_iff_of_reaches`). Two graphs that are the same wherever triggers lead
(`Graph.SameReach`) are searched alike from there, and when no edge is taken for a back edge by its
id (`Graph.BackApart`), a run goes on at the same places behind skipped blocks
(`Graph.SameReach.blockJoins_eq`).
-/

namespace Automation

namespace Graph

variable {g g' : Graph}

/-! ## Back edges out of the reach of the triggers -/

namespace Search

/-- A search that goes on from where another one ended: it has met all that was met there, and what
it follows and finds leads out of other nodes. -/
structure Beyond (g : Graph) (s₀ s : Search) : Prop where
  met : ∀ id ∈ s₀.met, id ∈ s.met
  path : ∀ f ∈ s.path, f.id ∉ s₀.met ∧ ∀ e ∈ f.rest, e ∈ g.edges ∧ e.source = f.id
  kept : ∀ e ∈ s₀.back, e ∈ s.back
  back : ∀ e ∈ s.back, e ∈ s₀.back ∨ e ∈ g.edges ∧ e.source ∉ s₀.met

variable {s₀ s s' : Search}

/-- Entering a node that is new adds its edges to what is still to be followed. -/
theorem Beyond.enter (h : Beyond g s₀ s) {id : String} (hnew : s.met.contains id = false) :
    Beyond g s₀ (s.enter g id) := by
  refine ⟨fun x hx => List.mem_cons_of_mem _ (h.met x hx), fun f hf => ?_, h.kept, h.back⟩
  rcases List.mem_cons.1 hf with rfl | hf
  · refine ⟨fun hmem => ?_, fun e he => mem_outEdges.1 he⟩
    have := h.met id hmem
    simp_all
  · exact h.path f hf

/-- Following an edge uses it up, and enters its target if that is new. -/
theorem Beyond.follow (h : Beyond g s₀ s) {id : String} {e : Edge} {rest : List Edge}
    {path : List Frame} (hs : s.path = ⟨id, e :: rest⟩ :: path) :
    Beyond g s₀ (({ s with path := ⟨id, rest⟩ :: path } : Search).follow g e) := by
  obtain ⟨hmet, hpath, hkept, hback⟩ := h
  rw [hs] at hpath
  obtain ⟨⟨hnew, hsource⟩, hpath⟩ := List.forall_mem_cons.1 hpath
  obtain ⟨⟨he, heq⟩, hrest⟩ := List.forall_mem_cons.1 hsource
  have hstep : Beyond g s₀ { s with path := ⟨id, rest⟩ :: path } :=
    ⟨hmet, List.forall_mem_cons.2 ⟨⟨hnew, hrest⟩, hpath⟩, hkept, hback⟩
  unfold Search.follow
  split
  · refine ⟨hmet, hstep.path, fun x hx => List.mem_cons_of_mem _ (hkept x hx), fun x hx => ?_⟩
    rcases List.mem_cons.1 hx with rfl | hx
    · exact .inr ⟨he, by rwa [heq]⟩
    · exact hback x hx
  · split
    · exact hstep
    · rename_i hout
      exact hstep.enter (by simpa using hout)

/-- One step of the search goes further on. -/
theorem Beyond.step (h : Beyond g s₀ s) (hstep : Step g s s') : Beyond g s₀ s' := by
  cases hstep with
  | leave hs =>
    refine ⟨h.met, fun f hf => h.path f ?_, h.kept, h.back⟩
    rw [hs]
    exact List.mem_cons_of_mem _ hf
  | follow hs => exact h.follow hs

/-- A search that is finished has gone further on. Induction on its steps. -/
theorem Beyond.finish (h : Beyond g s₀ s) : Beyond g s₀ (s.finish g) :=
  finish_induction (fun _ _ hstep h => h.step hstep) h

theorem Beyond.roots (h : Beyond g s₀ s) (roots : List String) :
    Beyond g s₀ (roots.foldl (Search.root g) s) := by
  induction roots generalizing s with
  | nil => exact h
  | cons id roots ih =>
    rw [List.foldl_cons]
    refine ih ?_
    unfold Search.root
    split
    · exact h
    · rename_i hnew
      exact (h.enter (by simpa using hnew)).finish

/-- What an edge leads to from a node that was met was met too, or the edge is still to be
followed. -/
structure Covering (g : Graph) (s : Search) : Prop where
  path : ∀ f ∈ s.path, f.id ∈ s.met
  edge : ∀ e ∈ g.edges, e.source ∈ s.met → e.target ∈ s.met ∨ ∃ f ∈ s.path, e ∈ f.rest

/-- A node is entered with all its edges. -/
theorem Covering.enter (h : Covering g s) (id : String) : Covering g (s.enter g id) := by
  refine ⟨fun f hf => ?_, fun e he hsource => ?_⟩
  · rcases List.mem_cons.1 hf with rfl | hf
    · exact List.mem_cons_self
    · exact List.mem_cons_of_mem _ (h.path f hf)
  · rcases List.mem_cons.1 hsource with hid | hsource
    · exact .inr ⟨_, List.mem_cons_self, mem_outEdges.2 ⟨he, hid⟩⟩
    · rcases h.edge e he hsource with hmet | ⟨f, hf, hrest⟩
      · exact .inl (List.mem_cons_of_mem _ hmet)
      · exact .inr ⟨f, List.mem_cons_of_mem _ hf, hrest⟩

/-- An edge that is followed leads to a node that has been met then. -/
theorem Covering.follow (h : Covering g s) {id : String} {e : Edge} {rest : List Edge}
    {path : List Frame} (hs : s.path = ⟨id, e :: rest⟩ :: path) :
    Covering g (({ s with path := ⟨id, rest⟩ :: path } : Search).follow g e) := by
  obtain ⟨hpath, hedge⟩ := h
  rw [hs] at hpath hedge
  have hids : ∀ f ∈ (⟨id, rest⟩ :: path : List Frame), f.id ∈ s.met := by
    obtain ⟨hid, hpath⟩ := List.forall_mem_cons.1 hpath
    exact List.forall_mem_cons.2 ⟨hid, hpath⟩
  -- only the edge that is followed needs another account than before
  have hkept (d : Edge) (hd : d ∈ g.edges) (hsource : d.source ∈ s.met) : d = e ∨ d.target ∈ s.met
      ∨ ∃ f ∈ (⟨id, rest⟩ :: path : List Frame), d ∈ f.rest := by
    rcases hedge d hd hsource with hmet | ⟨f, hf, hrest⟩
    · exact .inr (.inl hmet)
    · rcases List.mem_cons.1 hf with rfl | hf
      · rcases List.mem_cons.1 hrest with rfl | hrest
        · exact .inl rfl
        · exact .inr (.inr ⟨_, List.mem_cons_self, hrest⟩)
      · exact .inr (.inr ⟨f, List.mem_cons_of_mem _ hf, hrest⟩)
  have hold (htarget : e.target ∈ s.met) :
      Covering g { s with path := ⟨id, rest⟩ :: path } := by
    refine ⟨hids, fun d hd hsource => ?_⟩
    rcases hkept d hd hsource with rfl | hrest
    · exact .inl htarget
    · exact hrest
  unfold Search.follow
  split
  · rename_i hpathmem
    obtain ⟨f, hf, hid⟩ := List.any_eq_true.1 hpathmem
    have htarget : e.target ∈ s.met := by
      rw [← beq_iff_eq.1 hid]
      exact hids f hf
    exact ⟨(hold htarget).path, (hold htarget).edge⟩
  · split
    · rename_i hmet
      exact hold (by simpa using hmet)
    · refine ⟨fun f hf => ?_, fun d hd hsource => ?_⟩
      · rcases List.mem_cons.1 hf with rfl | hf
        · exact List.mem_cons_self
        · exact List.mem_cons_of_mem _ (hids f hf)
      · rcases List.mem_cons.1 hsource with hid | hsource
        · exact .inr ⟨_, List.mem_cons_self, mem_outEdges.2 ⟨hd, hid⟩⟩
        · rcases hkept d hd hsource with rfl | hmet | ⟨f, hf, hrest⟩
          · exact .inl List.mem_cons_self
          · exact .inl (List.mem_cons_of_mem _ hmet)
          · exact .inr ⟨f, List.mem_cons_of_mem _ hf, hrest⟩

/-- No step of the search leaves an edge of a met node aside. -/
theorem Covering.step (h : Covering g s) (hstep : Step g s s') : Covering g s' := by
  cases hstep with
  | leave hs =>
    refine ⟨fun f hf => h.path f ?_, fun e he hsource => ?_⟩
    · rw [hs]
      exact List.mem_cons_of_mem _ hf
    · rcases h.edge e he hsource with hmet | ⟨f, hf, hrest⟩
      · exact .inl hmet
      · -- the node that is left has no edges to follow
        rw [hs] at hf
        rcases List.mem_cons.1 hf with rfl | hf
        · cases hrest
        · exact .inr ⟨f, hf, hrest⟩
  | follow hs => exact h.follow hs

/-- A finished search has followed all edges of all nodes that it met. -/
theorem Covering.finish (h : Covering g s) :
    Covering g (s.finish g) ∧ ∀ id ∈ s.met, id ∈ (s.finish g).met :=
  finish_induction (P := fun s' => Covering g s' ∧ ∀ id ∈ s.met, id ∈ s'.met)
    (fun _ _ hstep ⟨h, hmet⟩ => ⟨h.step hstep, fun id hid => mem_met_of_step hstep (hmet id hid)⟩)
    ⟨h, fun _ hid => hid⟩

/-- The search from some roots meets all that edges lead to from there. -/
theorem Covering.roots (h : Covering g s) (hpath : s.path = []) (roots : List String) :
    Covering g (roots.foldl (Search.root g) s) ∧ (roots.foldl (Search.root g) s).path = []
      ∧ ∀ id, id ∈ s.met ∨ id ∈ roots → id ∈ (roots.foldl (Search.root g) s).met := by
  induction roots generalizing s with
  | nil =>
    refine ⟨h, hpath, fun id hid => hid.resolve_right (List.not_mem_nil)⟩
  | cons root roots ih =>
    rw [List.foldl_cons]
    -- a root that was met is passed over, and any other is entered and searched to the end
    have hroot : Covering g (s.root g root) ∧ (s.root g root).path = []
        ∧ ∀ id, id ∈ s.met ∨ id = root → id ∈ (s.root g root).met := by
      unfold Search.root
      split
      · rename_i hold
        refine ⟨h, hpath, fun id hid => hid.elim (fun hmem => hmem) fun heq => ?_⟩
        rw [heq]
        simpa using hold
      · obtain ⟨hcovering, hmet⟩ := (h.enter root).finish
        refine ⟨hcovering, path_finish g _, fun id hid => hmet id ?_⟩
        exact hid.elim (List.mem_cons_of_mem _) fun heq => heq ▸ List.mem_cons_self
    obtain ⟨hcovering, hleft, hmet⟩ := hroot
    obtain ⟨hcovering', hleft', hmet'⟩ := ih hcovering hleft
    refine ⟨hcovering', hleft', fun id hid => hmet' id ?_⟩
    rcases hid with hid | hid
    · exact .inl (hmet id (.inl hid))
    · rcases List.mem_cons.1 hid with heq | hid
      · exact .inl (hmet id (.inr heq))
      · exact .inr hid

end Search

/-- The search from the triggers. -/
def triggerSearch (g : Graph) : Search := (g.triggers.map (·.id)).foldl (Search.root g) {}

/-- The search from the triggers meets all that triggers lead to. -/
theorem mem_met_triggerSearch {id : String} (h : g.Reaches id) : id ∈ g.triggerSearch.met := by
  have hstart : Search.Covering g {} := ⟨nofun, nofun⟩
  obtain ⟨hcovering, hpath, hmet⟩ := hstart.roots rfl (g.triggers.map (·.id))
  induction h with
  | trigger mem => exact hmet _ (.inr (List.mem_map_of_mem mem))
  | edge mem _ ih =>
    refine (hcovering.edge _ mem ih).resolve_right fun hrest => ?_
    obtain ⟨f, hf, -⟩ := hrest
    rw [hpath] at hf
    cases hf

/-- The back edges that triggers lead to are found from the triggers. -/
theorem mem_backEdges_iff_of_reaches {e : Edge} (h : g.Reaches e.source) :
    e ∈ g.backEdges ↔ e ∈ g.triggerSearch.back := by
  have hstart : Search.Beyond g g.triggerSearch g.triggerSearch := by
    refine ⟨fun _ hid => hid, fun f hf => ?_, fun _ he => he, fun _ he => .inl he⟩
    have hpath := ((⟨nofun, nofun⟩ : Search.Covering g {}).roots rfl (g.triggers.map (·.id))).2.1
    rw [triggerSearch, hpath] at hf
    cases hf
  have hbeyond := hstart.roots (g := g) (g.nodes.map (·.id))
  unfold backEdges
  rw [List.mem_reverse, List.foldl_append]
  exact ⟨fun he => (hbeyond.back e he).resolve_right fun hout => hout.2 (mem_met_triggerSearch h),
    hbeyond.kept e⟩

/-- Back edges are edges. -/
theorem mem_edges_of_mem_backEdges {e : Edge} (h : e ∈ g.backEdges) : e ∈ g.edges := by
  have hstart : Search.Beyond g {} {} := ⟨nofun, nofun, nofun, nofun⟩
  exact ((hstart.roots _).back e (List.mem_reverse.1 h)).elim nofun And.left

/-! ## Searches from the triggers -/

/-- What a search still has to do at a node of its path, but for the names of the edges. -/
def Frame.ends (f : Frame) : String × List (String × String × Option String) :=
  (f.id, f.rest.map Edge.ends)

/-- Two graphs that are the same wherever triggers lead, but for the ids and the names of edges. -/
structure SameReach (g g' : Graph) : Prop where
  kind? : ∀ id, g.Reaches id → g'.kind? id = g.kind? id
  triggers : g'.triggers.map (·.id) = g.triggers.map (·.id)
  outEdges : ∀ id, g.Reaches id →
    (g'.outEdges id).map Edge.ends = (g.outEdges id).map Edge.ends

/-- Two searches at the same place, the first of which follows only edges that triggers lead to. -/
structure Search.Level (g : Graph) (s s' : Search) : Prop where
  path : s'.path.map Frame.ends = s.path.map Frame.ends
  met : s'.met = s.met
  back : s'.back.map Edge.ends = s.back.map Edge.ends
  rest : ∀ f ∈ s.path, ∀ e ∈ f.rest, g.Reaches e.target

namespace SameReach

open Search

variable (h : SameReach g g')

include h

/-- Two searches that are level enter a node that is reached, which has the same edges in both
graphs. -/
theorem enter {s s' : Search} (hs : s.Level g s') {id : String} (hid : g.Reaches id) :
    (s.enter g id).Level g (s'.enter g' id) := by
  refine ⟨?_, congrArg (id :: ·) hs.met, hs.back, List.forall_mem_cons.2 ⟨fun e he => ?_, hs.rest⟩⟩
  · have hframe : Frame.ends ⟨id, g'.outEdges id⟩ = Frame.ends ⟨id, g.outEdges id⟩ :=
      congrArg (Prod.mk id) (h.outEdges id hid)
    show Frame.ends _ :: s'.path.map Frame.ends = Frame.ends _ :: s.path.map Frame.ends
    rw [hframe, hs.path]
  · obtain ⟨he, hsource⟩ := mem_outEdges.1 he
    exact .edge he (hsource ▸ hid)

/-- Both searches follow an edge with the same ends. -/
theorem follow {s s' : Search} (hs : s.Level g s') {e e' : Edge} (hends : e'.ends = e.ends)
    (htarget : g.Reaches e.target) : (s.follow g e).Level g (s'.follow g' e') := by
  have hsame : e'.target = e.target := congrArg (·.2.1) hends
  have hpath : (s'.path.any fun f => f.id == e'.target) = s.path.any fun f => f.id == e.target := by
    have hany (path : List Frame) (target : String) : (path.any fun f => f.id == target)
        = (path.map Frame.ends).any fun f => f.1 == target := by
      rw [List.any_map]
      rfl
    rw [hany, hs.path, ← hany, hsame]
  unfold Search.follow
  rw [hpath, hs.met, hsame]
  split
  · refine ⟨hs.path, rfl, ?_, hs.rest⟩
    show e'.ends :: s'.back.map Edge.ends = e.ends :: s.back.map Edge.ends
    rw [hends, hs.back]
  · split
    · exact hs
    · exact h.enter hs htarget

/-- Both searches take the same steps. -/
theorem finish {s s' : Search} (hs : s.Level g s') : (s.finish g).Level g (s'.finish g') := by
  induction s using Search.finish.induct g generalizing s' with
  | case1 s hempty =>
    have hpath := hs.path
    rw [hempty, List.map_nil, List.map_eq_nil_iff] at hpath
    rwa [finish_of_nil hempty, finish_of_nil hpath]
  | case2 s id path hframe ih =>
    have hmap := hs.path
    rw [hframe, List.map_cons] at hmap
    obtain ⟨⟨id', rest'⟩, path', hframe', hfirst, hpath⟩ := List.map_eq_cons_iff.1 hmap
    -- the deepest node of the other path is the same, and has no edges to follow either
    obtain ⟨rfl, hrest⟩ := Prod.mk.inj hfirst
    obtain rfl := List.map_eq_nil_iff.1 hrest
    rw [finish_of_leave hframe, finish_of_leave hframe']
    refine ih ⟨hpath, hs.met, hs.back, fun f hf => hs.rest f ?_⟩
    rw [hframe]
    exact List.mem_cons_of_mem _ hf
  | case3 s id e rest path hframe ih =>
    have hmap := hs.path
    have hrest := hs.rest
    rw [hframe] at hrest hmap
    rw [List.map_cons] at hmap
    obtain ⟨⟨id', rest'⟩, path', hframe', hfirst, hpath⟩ := List.map_eq_cons_iff.1 hmap
    obtain ⟨rfl, hedges⟩ := Prod.mk.inj hfirst
    -- the edges to follow from there have the same ends, one by one
    obtain ⟨e', rest', rfl, hends, hedges⟩ := List.map_eq_cons_iff.1 hedges
    obtain ⟨hhere, habove⟩ := List.forall_mem_cons.1 hrest
    obtain ⟨htarget, hhere⟩ := List.forall_mem_cons.1 hhere
    have hlevel : Search.Level g { s with path := ⟨id', rest⟩ :: path }
        { s' with path := ⟨id', rest'⟩ :: path' } := by
      refine ⟨?_, hs.met, hs.back, List.forall_mem_cons.2 ⟨hhere, habove⟩⟩
      rw [List.map_cons, List.map_cons, hpath, Frame.ends, Frame.ends, hedges]
    rw [finish_of_follow hframe, finish_of_follow hframe']
    exact ih (h.follow hlevel hends htarget)

theorem roots {s s' : Search} (hs : s.Level g s') {roots : List String}
    (hroots : ∀ id ∈ roots, g.Reaches id) :
    (roots.foldl (Search.root g) s).Level g (roots.foldl (Search.root g') s') := by
  induction roots generalizing s s' with
  | nil => exact hs
  | cons id roots ih =>
    obtain ⟨hid, hroots⟩ := List.forall_mem_cons.1 hroots
    rw [List.foldl_cons, List.foldl_cons]
    refine ih ?_ hroots
    unfold Search.root
    rw [hs.met]
    split
    · exact hs
    · exact h.finish (h.enter hs hid)

/-- Both searches find the same back edges from the triggers. -/
theorem triggerSearch_back :
    g'.triggerSearch.back.map Edge.ends = g.triggerSearch.back.map Edge.ends := by
  have hstart : Search.Level g {} {} := ⟨rfl, rfl, rfl, nofun⟩
  unfold triggerSearch
  rw [h.triggers]
  refine (h.roots hstart fun id hid => ?_).back
  obtain ⟨n, hn, rfl⟩ := List.mem_map.1 hid
  exact .trigger hn

/-! ## The nodes that triggers lead to -/

/-- The queue is worked off alike: only nodes that are reached come into it. -/
theorem reach_eq (seen queue : List String) (hqueue : ∀ id ∈ queue, g.Reaches id) :
    g'.reach seen queue = g.reach seen queue := by
  induction seen, queue using reach.induct g with
  | case1 seen => rw [reach, reach]
  | case2 seen id queue hnew ih =>
    obtain ⟨hid, hqueue⟩ := List.forall_mem_cons.1 hqueue
    rw [reach, dif_pos hnew, reach, dif_pos hnew, targets_congr (h.outEdges id hid)]
    refine ih fun x hx => ?_
    rcases List.mem_append.1 hx with hx | hx
    · exact hqueue x hx
    · obtain ⟨e, he, rfl⟩ := List.mem_map.1 (List.mem_filter.1 hx).1
      obtain ⟨he, hsource⟩ := mem_outEdges.1 he
      exact .edge he (hsource ▸ hid)
  | case3 seen id queue hold ih =>
    rw [reach, dif_neg hold, reach, dif_neg hold]
    exact ih fun x hx => hqueue x (List.mem_cons_of_mem _ hx)

theorem reachable_eq : g'.reachable = g.reachable := by
  unfold reachable
  rw [h.triggers, h.reach_eq _ _ fun id hid => ?_]
  obtain ⟨n, hn, rfl⟩ := List.mem_map.1 hid
  exact .trigger hn

/-- The same nodes are reached. -/
theorem reaches_iff {id : String} : g'.Reaches id ↔ g.Reaches id := by
  rw [← mem_reachable_iff, h.reachable_eq, mem_reachable_iff]

/-- The nodes behind the triggers are the same. -/
theorem body_eq (hwf : g.WellFormed) : g'.body = g.body := by
  have hkind {id : String} (hid : id ∈ g.reachable) : ∃ kind, g.kind? id = some kind
      ∧ g'.kind? id = some kind := by
    have hreaches := mem_reachable_iff.1 hid
    obtain ⟨n, hn, rfl⟩ := hwf.exists_of_reaches hreaches
    exact ⟨n.kind, hwf.kind?_of_mem hn, (h.kind? n.id hreaches).trans (hwf.kind?_of_mem hn)⟩
  unfold body
  rw [h.reachable_eq,
    Outcome.filterM_eq_ok_of_forall (p := fun id => !(g.kind? id).any (·.isTrigger)) fun id hid => ?_,
    Outcome.filterM_eq_ok_of_forall (p := fun id => !(g.kind? id).any (·.isTrigger)) fun id hid => ?_]
  · obtain ⟨kind, hkind, -⟩ := hkind hid
    rw [hkind]
    rfl
  · obtain ⟨kind, hkind, hkind'⟩ := hkind hid
    rw [hkind, hkind']
    rfl

end SameReach

/-! ## Skipped blocks -/

/-- No edge that triggers lead to has the id of a back edge without being one. -/
def BackApart (g : Graph) : Prop :=
  ∀ e ∈ g.edges, g.Reaches e.source → ∀ b ∈ g.backEdges, b.id = e.id → e ∈ g.backEdges

/-- Edges with ids of their own are left out one by one. -/
theorem backApart_of_nodup (hids : (g.edges.map (·.id)).Nodup) : g.BackApart :=
  fun _ he _ _ hb hid =>
    List.inj_on_of_nodup_map hids (mem_edges_of_mem_backEdges hb) he hid ▸ hb

/-- The edges that are left out are those found from the triggers. -/
theorem BackApart.isBack_eq (hapart : g.BackApart) (hwf : g.WellFormed) {e : Edge} (he : e ∈ g.edges)
    (hsource : g.Reaches e.source) :
    g.isBack e = (g.triggerSearch.back.map Edge.ends).contains e.ends := by
  rw [Bool.eq_iff_iff, isBack, List.contains_iff_mem, List.contains_iff_mem]
  constructor
  · intro hmem
    obtain ⟨b, hb, hid⟩ := List.mem_map.1 hmem
    exact List.mem_map_of_mem ((mem_backEdges_iff_of_reaches hsource).1 (hapart e he hsource b hb hid))
  · intro hmem
    obtain ⟨b, hb, hends⟩ := List.mem_map.1 hmem
    have hreaches : g.Reaches b.source := by
      rw [show b.source = e.source from congrArg Prod.fst hends]
      exact hsource
    have hb := (mem_backEdges_iff_of_reaches hreaches).2 hb
    obtain rfl := List.inj_on_of_nodup_map hwf.nodup_ends (mem_edges_of_mem_backEdges hb) he hends
    exact List.mem_map_of_mem hb

/-- The edges out of some nodes, listed node by node. -/
theorem perm_flatMap_outgoing {ids : List String} (hids : ids.Nodup) :
    (g.edges.filter fun e => ids.contains e.source).Perm (ids.flatMap g.outgoing) := by
  induction ids with
  | nil => simp
  | cons id ids ih =>
    obtain ⟨hnew, hids⟩ := List.nodup_cons.1 hids
    rw [List.flatMap_cons]
    refine List.Perm.trans ?_ ((ih hids).append_left _)
    refine (List.filter_append_perm (fun e : Edge => e.source == id) _).symm.trans (.of_eq ?_)
    rw [List.filter_filter, List.filter_filter, outgoing]
    refine congrArg₂ _ (List.filter_congr fun e _ => ?_) (List.filter_congr fun e _ => ?_)
    · by_cases hsource : e.source = id
      · simp [hsource]
      · simp [hsource]
    · by_cases hsource : e.source = id
      · simp [hsource, hnew]
      · simp [hsource]

/-- A run goes on at the same places behind skipped blocks when the graphs are the same wherever
triggers lead. -/
theorem SameReach.blockJoins_eq (h : SameReach g g') (hwf : g.WellFormed) (hwf' : g'.WellFormed)
    (hapart : g.BackApart) (hapart' : g'.BackApart) : g'.blockJoins = g.blockJoins := by
  -- without the back edges, which the search from the triggers finds, the edges out of a reachable
  -- node have the same ends
  have hout (id : String) (hid : g.Reaches id) :
      (g'.forward.outEdges id).map Edge.ends = (g.forward.outEdges id).map Edge.ends := by
    have hkept {a : Graph} (ha : a.WellFormed) (hback : a.BackApart) (hreach : a.Reaches id) :
        (a.forward.outEdges id).map Edge.ends = ((a.outEdges id).map Edge.ends).filter fun x =>
          !(a.triggerSearch.back.map Edge.ends).contains x := by
      rw [outEdges_forward, List.filter_map]
      refine congrArg (List.map Edge.ends) (List.filter_congr fun e he => ?_)
      obtain ⟨hmem, rfl⟩ := mem_outEdges.1 he
      rw [hback.isBack_eq ha hmem hreach]
      rfl
    rw [hkept hwf' hapart' (h.reaches_iff.2 hid), hkept hwf hapart hid, h.outEdges id hid,
      h.triggerSearch_back]
  obtain ⟨ids, t, hbody, ht, -, hrows⟩ := hwf.exists_forwardJoins
  have hnodup : ids.Nodup := by
    obtain ⟨ids', hbody', hnodup, -⟩ := hwf.exists_body
    rw [hbody] at hbody'
    cases hbody'
    exact hnodup
  have hreaches {id : String} (hid : id ∈ ids) : g.Reaches id :=
    mem_reachable_iff.1 (mem_reachable_of_mem_body hbody id hid)
  -- the edges out of the nodes of the body are those out of each of them
  have hperm (a : Graph) : ((a.edges.filter fun e => ids.contains e.source).map Edge.ends).Perm
      (ids.flatMap fun id => (a.outEdges id).map Edge.ends) := by
    rw [← List.map_flatMap]
    refine ((perm_flatMap_outgoing hnodup).trans ?_).map Edge.ends
    refine List.Perm.flatMap_left ids fun id _ => ?_
    exact (List.perm_append_comm.trans (List.filter_append_perm (fun e : Edge => e.isFalse) _)).symm
  have hjoins : g'.forward.joins ids = g.forward.joins ids := by
    refine joins_congr (fun id hid => h.kind? id (hreaches hid))
      (fun id hid => hout id (hreaches hid)) ?_
    have hsame : (ids.flatMap fun id => (g'.forward.outEdges id).map Edge.ends)
        = ids.flatMap fun id => (g.forward.outEdges id).map Edge.ends :=
      List.flatMap_congr fun id hid => hout id (hreaches hid)
    exact (hperm g'.forward).trans (hsame ▸ (hperm g.forward).symm)
  -- only rows of reachable nodes are in the table, and these have the same kinds
  have hfilter : t.reverse.filter (fun row => g'.isConditionAt row.id)
      = t.reverse.filter fun row => g.isConditionAt row.id :=
    List.filter_congr fun row hrow => by
      obtain ⟨-, -, -, -, hreach⟩ := (hrows row.id).1 (List.mem_map_of_mem (List.mem_reverse.1 hrow))
      rw [isConditionAt, h.kind? row.id hreach, isConditionAt]
  unfold blockJoins
  rw [h.body_eq hwf, hbody, Outcome.ok_bind, Outcome.ok_bind, hjoins, ht, Outcome.ok_bind,
    Outcome.ok_bind, hfilter]

end Graph

end Automation
