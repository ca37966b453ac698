import Automation.Proofs.Topology.Acyclic

/-!
# The order in which a search leaves nodes

A depth-first search leaves a node only after it has followed every edge out of it. An edge that is
not a back edge therefore leads to a node that is left earlier, and the order in which nodes are
left ranks the graph once the back edges are taken out (`Graph.WellFormed.exists_rank`). A graph in
which no back edge is found has no cycle (`Graph.WellFormed.exists_ranked`).
-/

namespace Automation

namespace Graph

variable {g : Graph}

namespace Search

/-- Nodes that have been left, the latest first: each edge out of one of them is a back edge or
leads to a node that was left before. -/
def Left (g : Graph) (back : List Edge) : List String → Prop
  | [] => True
  | id :: earlier =>
    (∀ e ∈ g.edges, e.source = id → e ∈ back ∨ e.target ∈ earlier) ∧ Left g back earlier

/-- A path with every edge out of its nodes accounted for: it is still to be followed, is a back
edge, leads to a node that was left, or leads on along the path. -/
def Walked (g : Graph) (back : List Edge) (left : List String) : Option String → List Frame → Prop
  | _, [] => True
  | next, f :: path =>
    (∀ e ∈ g.edges, e.source = f.id →
      e ∈ f.rest ∨ e ∈ back ∨ e.target ∈ left ∨ some e.target = next)
    ∧ Walked g back left (some f.id) path

/-- A search with the nodes that it has left. -/
structure Tracked (g : Graph) (left : List String) (s : Search) : Prop where
  nodup : (left ++ s.path.map (·.id)).Nodup
  met : ∀ id, id ∈ s.met ↔ id ∈ left ∨ id ∈ s.path.map (·.id)
  settled : Left g s.back left
  path : Walked g s.back left none s.path

theorem Left.mono {back back' : List Edge} (hsub : ∀ e ∈ back, e ∈ back') {left : List String}
    (h : Left g back left) : Left g back' left := by
  induction left with
  | nil => trivial
  | cons id earlier ih =>
    exact ⟨fun e he hsource => (h.1 e he hsource).imp_left (hsub e), ih h.2⟩

theorem Walked.mono {back back' : List Edge} (hback : ∀ e ∈ back, e ∈ back')
    {left left' : List String} (hleft : ∀ id ∈ left, id ∈ left') {next : Option String}
    {path : List Frame} (h : Walked g back left next path) : Walked g back' left' next path := by
  induction path generalizing next with
  | nil => trivial
  | cons f path ih =>
    refine ⟨fun e he hsource => ?_, ih h.2⟩
    rcases h.1 e he hsource with hrest | hmem | hmem | hnext
    · exact .inl hrest
    · exact .inr (.inl (hback e hmem))
    · exact .inr (.inr (.inl (hleft _ hmem)))
    · exact .inr (.inr (.inr hnext))

variable {left : List String} {s s' : Search}

/-- Entering a node that was not met before. -/
theorem Tracked.enter (h : Tracked g left s) {id : String} (hnew : s.met.contains id = false)
    (hpath : Walked g s.back left (some id) s.path) : Tracked g left (s.enter g id) := by
  have hout : ¬(id ∈ left ∨ id ∈ s.path.map (·.id)) := by
    rw [← h.met]
    simpa using hnew
  refine ⟨?_, fun x => ?_, h.settled, fun e he hsource => ?_, hpath⟩
  · rw [Search.enter, List.map_cons, List.nodup_middle, List.nodup_cons, List.mem_append]
    exact ⟨hout, h.nodup⟩
  · simp only [Search.enter, List.mem_cons, List.map_cons, h.met]
    tauto
  · exact .inl (mem_outEdges.2 ⟨he, hsource⟩)

/-- Leaving a node all of whose edges have been followed. -/
theorem Tracked.leave (h : Tracked g left s) {id : String} {path : List Frame}
    (hs : s.path = ⟨id, []⟩ :: path) : Tracked g (id :: left) { s with path } := by
  obtain ⟨hnodup, hmet, hleft, hwalked⟩ := h
  rw [hs] at hnodup hmet hwalked
  obtain ⟨hedges, hwalked⟩ := hwalked
  refine ⟨?_, fun x => ?_, ⟨fun e he hsource => ?_, hleft⟩, ?_⟩
  · rwa [List.map_cons, List.nodup_middle] at hnodup
  · rw [hmet, List.map_cons, List.mem_cons, List.mem_cons]
    tauto
  · -- the deepest node has no edges left to follow and none that leads on along the path
    rcases hedges e he hsource with hrest | hback | hmem | hnext
    · cases hrest
    · exact .inl hback
    · exact .inr hmem
    · cases hnext
  · -- the edge along the path now leads to a node that was left
    cases path with
    | nil => trivial
    | cons f path =>
      refine ⟨fun e he hsource => ?_,
        hwalked.2.mono (fun _ h => h) fun _ h => List.mem_cons_of_mem _ h⟩
      rcases hwalked.1 e he hsource with hrest | hback | hmem | hnext
      · exact .inl hrest
      · exact .inr (.inl hback)
      · exact .inr (.inr (.inl (List.mem_cons_of_mem _ hmem)))
      · exact .inr (.inr (.inl (Option.some.inj hnext ▸ List.mem_cons_self)))

/-- Following an edge out of the node that the search is at. -/
theorem Tracked.follow (h : Tracked g left s) {id : String} {e : Edge} {rest : List Edge}
    {path : List Frame} (hs : s.path = ⟨id, e :: rest⟩ :: path) :
    Tracked g left (({ s with path := ⟨id, rest⟩ :: path } : Search).follow g e) := by
  obtain ⟨hnodup, hmet, hleft, hwalked⟩ := h
  rw [hs] at hnodup hmet hwalked
  obtain ⟨hedges, hwalked⟩ := hwalked
  -- only the edge that is followed needs another account than before
  have hkept {back : List Edge} {next : Option String} (hback : ∀ e ∈ s.back, e ∈ back)
      (hfollowed : e ∈ back ∨ e.target ∈ left ∨ some e.target = next) :
      Walked g back left next (⟨id, rest⟩ :: path) := by
    refine ⟨fun e' he' hsource => ?_, hwalked.mono hback fun _ h => h⟩
    rcases hedges e' he' hsource with hrest | hmem | hmem | hnext
    · rcases List.mem_cons.1 hrest with rfl | hrest
      · exact .inr hfollowed
      · exact .inl hrest
    · exact .inr (.inl (hback _ hmem))
    · exact .inr (.inr (.inl hmem))
    · cases hnext
  unfold Search.follow
  split
  · -- the edge leads back to the path
    exact ⟨hnodup, hmet, hleft.mono fun _ h => List.mem_cons_of_mem _ h,
      hkept (fun _ h => List.mem_cons_of_mem _ h) (.inl List.mem_cons_self)⟩
  · rename_i hpath
    split
    · -- a node that was met and is not on the path was left
      rename_i hold
      refine ⟨hnodup, hmet, hleft, hkept (fun _ h => h) (.inr (.inl ?_))⟩
      refine ((hmet e.target).1 (by simpa using hold)).resolve_right fun hmem => hpath ?_
      obtain ⟨f, hf, hid⟩ := List.mem_map.1 hmem
      refine List.any_eq_true.2 ?_
      rcases List.mem_cons.1 hf with rfl | hf
      · exact ⟨⟨id, rest⟩, List.mem_cons_self, beq_iff_eq.2 hid⟩
      · exact ⟨f, List.mem_cons_of_mem _ hf, beq_iff_eq.2 hid⟩
    · rename_i hnew
      -- the path loses an edge to follow, and keeps its nodes
      have htracked : ∀ id', id' ∈ s.met ↔ id' ∈ left
          ∨ id' ∈ (⟨id, rest⟩ :: path : List Frame).map (·.id) := hmet
      have hout : ¬(e.target ∈ left
          ∨ e.target ∈ (⟨id, rest⟩ :: path : List Frame).map (·.id)) := by
        rw [← htracked]
        simpa using hnew
      refine ⟨?_, fun x => ?_, hleft, fun e' he' hsource => ?_,
        hkept (fun _ h => h) (.inr (.inr rfl))⟩
      · rw [Search.enter, List.map_cons, List.nodup_middle, List.nodup_cons, List.mem_append]
        exact ⟨hout, hnodup⟩
      · rw [Search.enter, List.mem_cons, htracked, List.map_cons (l := _ :: _), List.mem_cons]
        tauto
      · exact .inl (mem_outEdges.2 ⟨he', hsource⟩)

theorem Tracked.step (h : Tracked g left s) (hstep : Step g s s') : ∃ left', Tracked g left' s' := by
  cases hstep with
  | leave hs => exact ⟨_, h.leave hs⟩
  | follow hs => exact ⟨left, h.follow hs⟩

/-- A search that is finished has left all that it has met, and has met all that it had met. -/
theorem Tracked.finish (h : Tracked g left s) :
    ∃ left', Tracked g left' (s.finish g) ∧ ∀ id ∈ s.met, id ∈ left' := by
  obtain ⟨⟨left', htracked⟩, hmet⟩ :=
    finish_induction (P := fun s' => (∃ left', Tracked g left' s') ∧ ∀ id ∈ s.met, id ∈ s'.met)
      (fun _ _ hstep ⟨⟨_, h⟩, hmet⟩ => ⟨h.step hstep, fun id hid => mem_met_of_step hstep (hmet id hid)⟩)
      ⟨⟨left, h⟩, fun _ hid => hid⟩
  refine ⟨left', htracked, fun id hid => ?_⟩
  -- no node is left on the path, so all that was met was left
  have hleft := (htracked.met id).1 (hmet id hid)
  rwa [path_finish, List.map_nil, or_iff_left List.not_mem_nil] at hleft

/-- The search from all roots leaves every root. -/
theorem Tracked.exists_roots (h : Tracked g left s) (hpath : s.path = []) (roots : List String) :
    ∃ left', Left g (roots.foldl (Search.root g) s).back left' ∧ left'.Nodup
      ∧ (∀ id ∈ left, id ∈ left') ∧ ∀ id ∈ roots, id ∈ left' := by
  induction roots generalizing left s with
  | nil =>
    have hnodup := h.nodup
    rw [hpath, List.map_nil, List.append_nil] at hnodup
    exact ⟨left, h.settled, hnodup, fun _ hid => hid, nofun⟩
  | cons id roots ih =>
    have hmet (x : String) : x ∈ s.met ↔ x ∈ left := by
      rw [h.met, hpath, List.map_nil]
      simp
    rw [List.foldl_cons]
    unfold Search.root
    split
    · -- between two roots the path is empty, so a root that was met was left
      rename_i hold
      obtain ⟨left', hleft, hnodup, hkeeps, hroots⟩ := ih h hpath
      refine ⟨left', hleft, hnodup, hkeeps, List.forall_mem_cons.2 ⟨hkeeps id ?_, hroots⟩⟩
      exact (hmet id).1 (by simpa using hold)
    · rename_i hnew
      have hwalked : Walked g s.back left (some id) s.path := by
        rw [hpath]
        trivial
      obtain ⟨middle, htracked, hmiddle⟩ := (h.enter (by simpa using hnew) hwalked).finish
      obtain ⟨left', hleft, hnodup, hkeeps, hroots⟩ := ih htracked (path_finish g _)
      refine ⟨left', hleft, hnodup, fun x hx => hkeeps x (hmiddle x ?_),
        List.forall_mem_cons.2 ⟨hkeeps id (hmiddle id List.mem_cons_self), hroots⟩⟩
      exact List.mem_cons_of_mem _ ((hmet x).2 hx)

/-- An edge that is no back edge leads from a node to one that was left earlier. -/
theorem Left.idxOf_lt {back : List Edge} (h : Left g back left) (hnodup : left.Nodup) {e : Edge}
    (he : e ∈ g.edges) (hsource : e.source ∈ left) (hback : e ∉ back) :
    e.target ∈ left ∧ left.idxOf e.source < left.idxOf e.target := by
  induction left with
  | nil => cases hsource
  | cons id earlier ih =>
    obtain ⟨hnew, hnodup⟩ := List.nodup_cons.1 hnodup
    by_cases heq : e.source = id
    · have htarget := (h.1 e he heq).resolve_left hback
      refine ⟨List.mem_cons_of_mem _ htarget, ?_⟩
      have hne : e.target ≠ id := fun heq => hnew (heq ▸ htarget)
      rw [heq, List.idxOf_cons_self, List.idxOf_cons_ne _ hne.symm]
      omega
    · obtain ⟨htarget, hlt⟩ := ih h.2 hnodup ((List.mem_cons.1 hsource).resolve_left heq)
      refine ⟨List.mem_cons_of_mem _ htarget, ?_⟩
      have hne : e.target ≠ id := fun heq => hnew (heq ▸ htarget)
      rw [List.idxOf_cons_ne _ (Ne.symm heq), List.idxOf_cons_ne _ hne.symm]
      omega

end Search

/-- Without its back edges, a graph has no cycle. -/
theorem WellFormed.exists_rank (hwf : g.WellFormed) :
    ∃ rank : String → Nat, ∀ e ∈ g.edges, e ∉ g.backEdges → rank e.source < rank e.target := by
  have hstart : Search.Tracked g [] {} := ⟨by simp, by simp, trivial, trivial⟩
  obtain ⟨left, hleft, hnodup, -, hroots⟩ := hstart.exists_roots rfl
    (g.triggers.map (·.id) ++ g.nodes.map (·.id))
  refine ⟨left.idxOf, fun e he hback => (hleft.idxOf_lt hnodup he (hroots _ ?_) fun hmem =>
    hback (List.mem_reverse.2 hmem)).2⟩
  obtain ⟨-, m, hm, -, -, hsource, -⟩ := hwf.edge he
  rw [hsource]
  exact List.mem_append_right _ (List.mem_map_of_mem hm)

/-- A graph in which no back edge is found has no cycle. -/
theorem WellFormed.exists_ranked (hwf : g.WellFormed) (h : g.backEdges = []) :
    ∃ rank, g.Ranked rank := by
  obtain ⟨rank, hrank⟩ := hwf.exists_rank
  exact ⟨rank, fun e he => hrank e he (by simp [h])⟩

end Graph

end Automation
