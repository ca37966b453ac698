import Automation.Graph.Structure
import Mathlib.Data.List.Nodup
import Mathlib.Data.List.Perm.Subperm

/-!
# What a well-formed graph promises

The consequences of having no problems: ids are distinct and usable, and a look-up by id gives the
node that has it (`lastNode?_of_mem`); edges join nodes and enter no trigger; a condition has at
most one edge for each outcome, and any other node at most one edge.
-/

namespace Automation

/-- What is found in a list by a property of one element only. -/
theorem find?_eq_some_of_unique {α : Type} {p : α → Bool} {xs : List α} {x : α} (hx : x ∈ xs)
    (hp : p x = true) (h : ∀ y ∈ xs, p y = true → y = x) : xs.find? p = some x := by
  cases hfind : xs.find? p with
  | none => exact absurd hp (List.find?_eq_none.1 hfind x hx)
  | some y => rw [h y (List.mem_of_find?_eq_some hfind) (List.find?_some hfind)]

/-- What stands beside an item in two lists put together. -/
theorem find?_zip_of_nodup {names ids : List String} (h : names.Nodup)
    (hlength : names.length ≤ ids.length) {x : String × String} (hx : x ∈ names.zip ids) :
    (names.zip ids).find? (·.1 == x.1) = some x := by
  have hnodup : ((names.zip ids).map Prod.fst).Nodup := by
    rwa [List.map_fst_zip hlength]
  refine find?_eq_some_of_unique hx (beq_self_eq_true _) fun y hy hkey => ?_
  exact List.inj_on_of_nodup_map hnodup hy hx (beq_iff_eq.1 hkey)

/-- What stands in the first of two lists that match has its match in the other. -/
theorem exists_match_of_mem {α β : Type} {R : α → β → Prop} {xs : List α} {ys : List β}
    (h : List.Forall₂ R xs ys) {x : α} (hx : x ∈ xs) : ∃ y ∈ ys, R x y := by
  induction h with
  | nil => cases hx
  | cons hxy _ ih =>
    rcases List.mem_cons.1 hx with rfl | hx
    · exact ⟨_, List.mem_cons_self, hxy⟩
    · obtain ⟨y, hy, hxy⟩ := ih hx
      exact ⟨y, List.mem_cons_of_mem _ hy, hxy⟩

/-- The ends of an edge, and its handle. -/
def Edge.ends (e : Edge) : String × String × Option String := (e.source, e.target, e.handle)

namespace Graph

/-! ## Nodes -/

/-- Nodes without problems have usable ids that were not seen before, and known kinds. -/
theorem of_nodeProblems_eq_nil {seen : List String} {nodes : List Node}
    (h : nodeProblems seen nodes = []) :
    (nodes.map (·.id)).Nodup ∧ ∀ n ∈ nodes, n.id ∉ seen ∧ n.id ≠ "" ∧ n.id ≠ endState
      ∧ Text.isId n.id = true ∧ n.kind.isKnown = true := by
  induction nodes generalizing seen with
  | nil => simp
  | cons n nodes ih =>
    have hempty : n.id ≠ "" := by
      intro hid
      rw [nodeProblems, if_pos hid] at h
      cases h
    rw [nodeProblems, if_neg hempty] at h
    -- the problems of the first node are looked for one after the other
    obtain ⟨h, hrest⟩ := List.append_eq_nil_iff.1 h
    obtain ⟨h, hkind⟩ := List.append_eq_nil_iff.1 h
    obtain ⟨h, hreserved⟩ := List.append_eq_nil_iff.1 h
    obtain ⟨hseen, hlegal⟩ := List.append_eq_nil_iff.1 h
    obtain ⟨hnodup, hnodes⟩ := ih hrest
    have hfirst : n.id ∉ seen ∧ n.id ≠ "" ∧ n.id ≠ endState ∧ Text.isId n.id = true
        ∧ n.kind.isKnown = true := by
      refine ⟨?_, hempty, ?_, ?_, ?_⟩
      · simpa using hseen
      · simpa using hreserved
      · simpa using hlegal
      · simpa using hkind
    refine ⟨List.nodup_cons.2 ⟨?_, hnodup⟩, ?_⟩
    · intro hmem
      obtain ⟨m, hm, hid⟩ := List.mem_map.1 hmem
      exact (hnodes m hm).1 (by simp [hid])
    · intro m hm
      rcases List.mem_cons.1 hm with rfl | hm
      · exact hfirst
      · obtain ⟨hnew, hid⟩ := hnodes m hm
        exact ⟨fun hmem => hnew (List.mem_cons_of_mem _ hmem), hid⟩

/-- Nodes with usable ids that were not seen before and with known kinds have no problems. -/
theorem nodeProblems_eq_nil {seen : List String} {nodes : List Node}
    (hnodup : (nodes.map (·.id)).Nodup) (h : ∀ n ∈ nodes, n.id ∉ seen ∧ n.id ≠ ""
      ∧ n.id ≠ endState ∧ Text.isId n.id = true ∧ n.kind.isKnown = true) :
    nodeProblems seen nodes = [] := by
  induction nodes generalizing seen with
  | nil => rfl
  | cons n nodes ih =>
    obtain ⟨hseen, hempty, hend, hid, hknown⟩ := h n List.mem_cons_self
    obtain ⟨hfirst, hnodup⟩ := List.nodup_cons.1 hnodup
    have hrest : nodeProblems (n.id :: seen) nodes = [] := ih hnodup fun m hm => by
      obtain ⟨hseen, hrest⟩ := h m (List.mem_cons_of_mem _ hm)
      refine ⟨fun hmem => ?_, hrest⟩
      rcases List.mem_cons.1 hmem with hid | hmem
      · exact hfirst (List.mem_map.2 ⟨m, hm, hid⟩)
      · exact hseen hmem
    rw [nodeProblems, if_neg hempty, hrest]
    simp [hseen, hend, hid, hknown]

variable {g : Graph}

/-- The problems of a well-formed graph, of each sort, are none. -/
theorem WellFormed.parts (h : g.WellFormed) :
    nodeProblems [] g.nodes = [] ∧ (g.nodes.any fun n => (g.kind? n.id).any (·.isTrigger)) = true
      ∧ (∀ e ∈ g.edges, g.edgeProblem e = [])
      ∧ ∀ source ∈ distinct ((g.edges.filter g.isJoined).map (·.source)),
          g.branchingProblems source (((g.edges.filter g.isJoined).filter
            (·.source == source)).map fun e => e.handle.getD "") = [] := by
  obtain ⟨h, hbranching⟩ := List.append_eq_nil_iff.1 h
  obtain ⟨h, hedges⟩ := List.append_eq_nil_iff.1 h
  obtain ⟨hnodes, htrigger⟩ := List.append_eq_nil_iff.1 h
  refine ⟨hnodes, ?_, List.flatMap_eq_nil_iff.1 hedges, List.flatMap_eq_nil_iff.1 hbranching⟩
  by_cases hany : (g.nodes.any fun n => (g.kind? n.id).any (·.isTrigger)) = true
  · exact hany
  · rw [if_neg hany] at htrigger
    cases htrigger

/-- A graph without problems of any sort is well formed. -/
theorem wellFormed_of_parts (hnodes : nodeProblems [] g.nodes = [])
    (htrigger : (g.nodes.any fun n => (g.kind? n.id).any (·.isTrigger)) = true)
    (hedges : ∀ e ∈ g.edges, g.edgeProblem e = [])
    (hbranching : ∀ source ∈ distinct ((g.edges.filter g.isJoined).map (·.source)),
      g.branchingProblems source (((g.edges.filter g.isJoined).filter
        (·.source == source)).map fun e => e.handle.getD "") = []) : g.WellFormed := by
  unfold WellFormed problems
  dsimp only
  rw [hnodes, if_pos htrigger, List.flatMap_eq_nil_iff.2 hedges,
    List.flatMap_eq_nil_iff.2 hbranching]
  rfl

theorem WellFormed.nodup (h : g.WellFormed) : (g.nodes.map (·.id)).Nodup :=
  (of_nodeProblems_eq_nil h.parts.1).1

theorem WellFormed.ne_empty (h : g.WellFormed) {n : Node} (hn : n ∈ g.nodes) : n.id ≠ "" :=
  ((of_nodeProblems_eq_nil h.parts.1).2 n hn).2.1

theorem WellFormed.ne_endState (h : g.WellFormed) {n : Node} (hn : n ∈ g.nodes) :
    n.id ≠ endState :=
  ((of_nodeProblems_eq_nil h.parts.1).2 n hn).2.2.1

theorem WellFormed.isKnown (h : g.WellFormed) {n : Node} (hn : n ∈ g.nodes) :
    n.kind.isKnown = true :=
  ((of_nodeProblems_eq_nil h.parts.1).2 n hn).2.2.2.2

/-- Nodes with one id are one node. -/
theorem WellFormed.eq_of_id_eq (h : g.WellFormed) {m n : Node} (hm : m ∈ g.nodes) (hn : n ∈ g.nodes)
    (hid : m.id = n.id) : m = n :=
  List.inj_on_of_nodup_map h.nodup hm hn hid

/-- Among nodes with distinct ids, the look-up of an id gives the node that has it. -/
theorem lastNode?_of_nodup (h : (g.nodes.map (·.id)).Nodup) {n : Node} (hn : n ∈ g.nodes) :
    g.lastNode? n.id = some n :=
  find?_eq_some_of_unique (List.mem_reverse.2 hn) (beq_self_eq_true _) fun _ hm hid =>
    List.inj_on_of_nodup_map h (List.mem_reverse.1 hm) hn (beq_iff_eq.1 hid)

theorem kind?_of_nodup (h : (g.nodes.map (·.id)).Nodup) {n : Node} (hn : n ∈ g.nodes) :
    g.kind? n.id = some n.kind := by
  rw [kind?, lastNode?_of_nodup h hn, Option.map_some]

theorem WellFormed.lastNode?_of_mem (h : g.WellFormed) {n : Node} (hn : n ∈ g.nodes) :
    g.lastNode? n.id = some n :=
  lastNode?_of_nodup h.nodup hn

/-- What a look-up gives is a node with the id. -/
theorem mem_of_lastNode?_eq_some {id : String} {n : Node} (h : g.lastNode? id = some n) :
    n ∈ g.nodes ∧ n.id = id := by
  refine ⟨List.mem_reverse.1 (List.mem_of_find?_eq_some h), ?_⟩
  simpa using List.find?_some h

theorem WellFormed.kind?_of_mem (h : g.WellFormed) {n : Node} (hn : n ∈ g.nodes) :
    g.kind? n.id = some n.kind :=
  kind?_of_nodup h.nodup hn

/-- The nodes of a well-formed graph as they are required to be. -/
theorem WellFormed.isId (h : g.WellFormed) {n : Node} (hn : n ∈ g.nodes) :
    Text.isId n.id = true :=
  ((of_nodeProblems_eq_nil h.parts.1).2 n hn).2.2.2.1

/-- Some node is a trigger. -/
theorem WellFormed.exists_trigger (h : g.WellFormed) : ∃ n ∈ g.nodes, n.kind.isTrigger = true := by
  obtain ⟨n, hn, htrigger⟩ := List.any_eq_true.1 h.parts.2.1
  rw [h.kind?_of_mem hn, Option.any_some] at htrigger
  exact ⟨n, hn, htrigger⟩

theorem WellFormed.isConditionAt_of_mem (h : g.WellFormed) {n : Node} (hn : n ∈ g.nodes) :
    g.isConditionAt n.id = n.kind.isCondition := by
  rw [isConditionAt, h.kind?_of_mem hn, Option.any_some]

theorem WellFormed.isConditionAt_of_mem_triggers (h : g.WellFormed) {n : Node} (hn : n ∈ g.triggers) :
    g.isConditionAt n.id = false := by
  obtain ⟨hmem, htrigger⟩ := List.mem_filter.1 hn
  rw [h.isConditionAt_of_mem hmem, NodeKind.isCondition_of_isTrigger htrigger]

/-! ## Changes that keep ids and kinds -/

section Change

variable {f : Node → Node} (hid : ∀ n, (f n).id = n.id) (hkind : ∀ n, (f n).kind = n.kind)

include hid hkind in
theorem nodeProblems_map (seen : List String) (nodes : List Node) :
    nodeProblems seen (nodes.map f) = nodeProblems seen nodes := by
  induction nodes generalizing seen with
  | nil => rfl
  | cons n nodes ih => simp only [List.map_cons, nodeProblems, hid, hkind, ih]

variable {g' : Graph} (hnodes : g'.nodes = g.nodes.map f) (hedges : g'.edges = g.edges)

include hid hnodes in
theorem lastNode?_of_map (id : String) : g'.lastNode? id = (g.lastNode? id).map f := by
  unfold lastNode?
  rw [hnodes, ← List.map_reverse, List.find?_map]
  simp only [Function.comp_def, hid]

include hid hkind hnodes in
theorem kind?_of_map (id : String) : g'.kind? id = g.kind? id := by
  rw [kind?, lastNode?_of_map hid hnodes, Option.map_map, kind?]
  simp only [Function.comp_def, hkind]

include hid hkind hnodes hedges in
/-- The problems of a graph depend on the ids and kinds of its nodes and on its edges. -/
theorem problems_of_map : g'.problems = g.problems := by
  have hkinds := kind?_of_map hid hkind hnodes
  have hnode (id : String) : g'.hasNode id = g.hasNode id := by
    unfold hasNode
    rw [hnodes, List.any_map]
    simp only [Function.comp_def, hid]
  have hjoined : g'.isJoined = g.isJoined := by
    funext e
    rw [isJoined, hnode, hnode, isJoined]
  have hedge : g'.edgeProblem = g.edgeProblem := by
    funext e
    rw [edgeProblem, hjoined, hkinds, edgeProblem]
  have hbranching : g'.branchingProblems = g.branchingProblems := by
    funext source handles
    rw [branchingProblems, isConditionAt, hkinds, branchingProblems, isConditionAt]
  unfold problems
  dsimp only
  rw [hnodes, hedges, nodeProblems_map hid hkind, hjoined, hedge, hbranching, List.any_map]
  simp only [Function.comp_def, hid, hkinds]

end Change

/-! ## Edges -/

/-- An edge leads from a node to a node that is no trigger. -/
theorem WellFormed.edge (h : g.WellFormed) {e : Edge} (he : e ∈ g.edges) :
    g.isJoined e = true ∧ ∃ m ∈ g.nodes, ∃ n ∈ g.nodes, e.source = m.id ∧ e.target = n.id
      ∧ n.kind.isTrigger = false := by
  have hnone := h.parts.2.2.1 e he
  unfold edgeProblem at hnone
  split at hnone
  · cases hnone
  · rename_i hjoined
    have hjoined : g.isJoined e = true := by simpa using hjoined
    refine ⟨hjoined, ?_⟩
    obtain ⟨hsource, htarget⟩ := Bool.and_eq_true_iff.1 hjoined
    obtain ⟨m, hm, hmid⟩ := List.any_eq_true.1 hsource
    obtain ⟨n, hn, hnid⟩ := List.any_eq_true.1 htarget
    have hnid := beq_iff_eq.1 hnid
    refine ⟨m, hm, n, hn, (beq_iff_eq.1 hmid).symm, hnid.symm, ?_⟩
    rw [← hnid, h.kind?_of_mem hn] at hnone
    -- an edge to a trigger would be a problem
    by_cases htrigger : n.kind.isTrigger = true
    · rw [Option.any_some, if_pos htrigger] at hnone
      cases hnone
    · simpa using htrigger

/-- The edges out of a node branch without problems. -/
theorem WellFormed.branching (h : g.WellFormed) {e : Edge} (he : e ∈ g.edges) :
    g.branchingProblems e.source ((g.outgoing e.source).map fun e => e.handle.getD "") = [] := by
  have hjoined : g.edges.filter g.isJoined = g.edges :=
    List.filter_eq_self.2 fun e he => (h.edge he).1
  have := h.parts.2.2.2 e.source (by
    rw [mem_distinct, hjoined]
    exact List.mem_map_of_mem he)
  rwa [hjoined] at this

/-- Items that few others are among are one item. -/
theorem eq_of_countP_le_one {α : Type} {p : α → Bool} {xs : List α} (h : xs.countP p ≤ 1) {x y : α}
    (hx : x ∈ xs) (hy : y ∈ xs) (hpx : p x = true) (hpy : p y = true) : x = y := by
  rw [List.countP_eq_length_filter] at h
  have hx := List.mem_filter.2 ⟨hx, hpx⟩
  have hy := List.mem_filter.2 ⟨hy, hpy⟩
  match hfilter : xs.filter p, h with
  | [], _ => simp [hfilter] at hx
  | [z], _ =>
    rw [hfilter] at hx hy
    rw [List.mem_singleton.1 hx, List.mem_singleton.1 hy]

/-- A condition has edges of its two handles only. -/
theorem WellFormed.handle (h : g.WellFormed) {e : Edge} (he : e ∈ g.edges)
    (hcondition : g.isConditionAt e.source = true) :
    e.handle = some handleTrue ∨ e.handle = some handleFalse := by
  have hnone := h.branching he
  rw [branchingProblems, if_pos hcondition] at hnone
  have hforeign := List.map_eq_nil_iff.1 (List.append_eq_nil_iff.1 hnone).1
  have hmem : e.handle.getD "" ∈ (g.outgoing e.source).map fun e => e.handle.getD "" :=
    List.mem_map.2 ⟨e, mem_outgoing.2 ⟨he, rfl⟩, rfl⟩
  have := List.filter_eq_nil_iff.1 hforeign _ hmem
  cases hhandle : e.handle with
  | none =>
    rw [hhandle] at this
    exact absurd (by decide) this
  | some handle =>
    rw [hhandle, Option.getD_some] at this
    simp only [Bool.and_eq_true, bne_iff_ne, ne_eq, not_and, Decidable.not_not] at this
    by_cases htrue : handle = handleTrue
    · exact .inl (by rw [htrue])
    · exact .inr (by rw [this htrue])

/-- A condition has one edge of each handle, and any other node one edge. -/
theorem WellFormed.countP_le_one (h : g.WellFormed) {e : Edge} (he : e ∈ g.edges) :
    g.edges.countP (fun f => (!g.isConditionAt e.source || f.handle == e.handle)
      && f.source == e.source) ≤ 1 := by
  have hnone := h.branching he
  rw [← List.countP_filter]
  -- a condition has each handle once, and another node has one edge at all
  by_cases hcondition : g.isConditionAt e.source = true
  · rw [branchingProblems, if_pos hcondition] at hnone
    have hrepeated := List.map_eq_nil_iff.1 (List.append_eq_nil_iff.1 hnone).2
    have hmem : e.handle.getD "" ∈ [handleTrue, handleFalse] := by
      rcases h.handle he hcondition with heq | heq <;> simp [heq]
    have hcount := List.filter_eq_nil_iff.1 hrepeated _ hmem
    rw [decide_eq_true_eq, List.count, List.countP_map] at hcount
    refine Nat.le_trans (List.countP_mono_left fun f _ hf => ?_) (Nat.le_of_not_lt hcount)
    simp only [hcondition, Bool.not_true, Bool.false_or, beq_iff_eq] at hf
    simp [hf]
  · rw [branchingProblems, if_neg hcondition] at hnone
    by_cases hlong : 1 < (g.outgoing e.source).length
    · rw [if_pos (by simpa using hlong)] at hnone
      cases hnone
    · exact Nat.le_trans List.countP_le_length (Nat.le_of_not_lt hlong)

theorem WellFormed.eq_of_source_eq (h : g.WellFormed) {e f : Edge} (he : e ∈ g.edges)
    (hf : f ∈ g.edges) (hsource : e.source = f.source)
    (hhandle : g.isConditionAt e.source = true → e.handle = f.handle) : e = f := by
  refine eq_of_countP_le_one (h.countP_le_one he) he hf (by simp) ?_
  by_cases hcondition : g.isConditionAt e.source = true
  · simp [hhandle hcondition, hsource]
  · have hcondition : g.isConditionAt e.source = false := by simpa using hcondition
    simp [hcondition, hsource.symm]

/-- No two edges have the same ends and the same handle. -/
theorem WellFormed.nodup_ends (h : g.WellFormed) : (g.edges.map Edge.ends).Nodup := by
  rw [List.nodup_iff_count_le_one]
  intro x
  by_cases hx : x ∈ g.edges.map Edge.ends
  · obtain ⟨e, he, rfl⟩ := List.mem_map.1 hx
    rw [List.count, List.countP_map]
    refine Nat.le_trans (List.countP_mono_left fun f _ hf => ?_) (h.countP_le_one he)
    simp only [Function.comp_apply, Edge.ends, beq_iff_eq, Prod.mk.injEq] at hf
    simp [hf.1, hf.2.2]
  · rw [List.count_eq_zero_of_not_mem hx]
    omega

/-- The edge of a handle out of a condition is the one that a run takes. -/
theorem WellFormed.branch?_of_mem (h : g.WellFormed) {e : Edge} (he : e ∈ g.edges) {handle : String}
    (hhandle : e.handle = some handle) : g.branch? e.source handle = some e.target := by
  unfold branch?
  rw [find?_eq_some_of_unique (mem_outEdges.2 ⟨he, rfl⟩) (by simp [hhandle]) fun f hf hfhandle => ?_]
  · rfl
  · obtain ⟨hf, hsource⟩ := mem_outEdges.1 hf
    refine (h.eq_of_source_eq he hf hsource.symm fun _ => ?_).symm
    rw [hhandle, beq_iff_eq.1 hfhandle]

/-- The edge out of a node that is no condition is the one that a run takes. -/
theorem WellFormed.successor?_of_mem (h : g.WellFormed) {e : Edge} (he : e ∈ g.edges)
    (hcondition : g.isConditionAt e.source = false) : g.successor? e.source = some e.target := by
  have hmem : e ∈ g.outEdges e.source := mem_outEdges.2 ⟨he, rfl⟩
  unfold successor?
  cases hout : g.outEdges e.source with
  | nil =>
    rw [hout] at hmem
    cases hmem
  | cons f rest =>
    have hf : f ∈ g.outEdges e.source := by
      rw [hout]
      exact List.mem_cons_self
    obtain ⟨hf, hsource⟩ := mem_outEdges.1 hf
    rw [h.eq_of_source_eq he hf hsource.symm fun hc => by simp [hcondition] at hc]
    rfl

/-! ## Parts of a graph -/

/-- Some of the edges out of a node branch as they should when all of them do. -/
theorem branchingProblems_of_subperm {g' : Graph} {source : String} {handles others : List String}
    (hcondition : g'.isConditionAt source = g.isConditionAt source) (hsub : handles.Subperm others)
    (h : g.branchingProblems source others = []) : g'.branchingProblems source handles = [] := by
  unfold branchingProblems at h ⊢
  rw [hcondition]
  split at h
  · -- a condition: each handle comes at most as often among the fewer edges
    rename_i hyes
    rw [if_pos hyes]
    obtain ⟨hforeign, hrepeated⟩ := List.append_eq_nil_iff.1 h
    rw [List.map_eq_nil_iff, List.filter_eq_nil_iff] at hforeign hrepeated
    refine List.append_eq_nil_iff.2 ⟨?_, ?_⟩
    · rw [List.map_eq_nil_iff, List.filter_eq_nil_iff]
      exact fun handle hmem => hforeign handle (hsub.subset hmem)
    · rw [List.map_eq_nil_iff, List.filter_eq_nil_iff]
      intro handle hmem
      have hfew := hrepeated handle hmem
      have hcount := hsub.count_le handle
      simp only [decide_eq_true_eq] at hfew ⊢
      omega
  · -- any other node: there are at most as many edges
    rename_i hno
    rw [if_neg hno]
    split at h
    · cases h
    · have hlength := hsub.length_le
      rw [if_neg (by omega)]

/-- A part of a well-formed graph is well formed: nodes under their ids and of their kinds, with a
trigger among them, and some of the edges between them. -/
theorem WellFormed.of_part (hwf : g.WellFormed) {g' : Graph} (hnodup : (g'.nodes.map (·.id)).Nodup)
    (hnodes : ∀ m ∈ g'.nodes, ∃ n ∈ g.nodes, n.id = m.id ∧ n.kind = m.kind)
    (htrigger : ∃ m ∈ g'.nodes, m.kind.isTrigger = true)
    (hedges : (g'.edges.map Edge.ends).Subperm (g.edges.map Edge.ends))
    (hends : ∀ e ∈ g'.edges, e.source ∈ g'.nodes.map (·.id) ∧ e.target ∈ g'.nodes.map (·.id)) :
    g'.WellFormed := by
  have hkind {id : String} (hid : id ∈ g'.nodes.map (·.id)) : g'.kind? id = g.kind? id := by
    obtain ⟨m, hm, rfl⟩ := List.mem_map.1 hid
    obtain ⟨n, hn, hid, hkind⟩ := hnodes m hm
    rw [kind?_of_nodup hnodup hm, ← hid, hwf.kind?_of_mem hn, hkind]
  have hhas {id : String} (hid : id ∈ g'.nodes.map (·.id)) : g'.hasNode id = true := by
    obtain ⟨m, hm, rfl⟩ := List.mem_map.1 hid
    exact List.any_eq_true.2 ⟨m, hm, beq_self_eq_true _⟩
  have hjoined : g'.edges.filter g'.isJoined = g'.edges := List.filter_eq_self.2 fun e he => by
    rw [isJoined, hhas (hends e he).1, hhas (hends e he).2]
    rfl
  have hedge {e : Edge} (he : e ∈ g'.edges) : ∃ f ∈ g.edges, f.ends = e.ends :=
    List.mem_map.1 (hedges.subset (List.mem_map_of_mem he))
  refine wellFormed_of_parts ?_ ?_ ?_ ?_
  · refine nodeProblems_eq_nil hnodup fun m hm => ?_
    obtain ⟨n, hn, hid, hkind⟩ := hnodes m hm
    rw [← hid, ← hkind]
    exact ⟨List.not_mem_nil, hwf.ne_empty hn, hwf.ne_endState hn, hwf.isId hn, hwf.isKnown hn⟩
  · obtain ⟨m, hm, htrigger⟩ := htrigger
    refine List.any_eq_true.2 ⟨m, hm, ?_⟩
    rw [kind?_of_nodup hnodup hm, Option.any_some, htrigger]
  · intro e he
    obtain ⟨f, hf, heq⟩ := hedge he
    obtain ⟨-, -, -, n, hn, -, htarget, hno⟩ := hwf.edge hf
    have hid : e.target = n.id := by
      rw [← htarget]
      exact (congrArg (·.2.1) heq).symm
    unfold edgeProblem
    rw [isJoined, hhas (hends e he).1, hhas (hends e he).2, hkind (hends e he).2, hid,
      hwf.kind?_of_mem hn, Option.any_some, hno]
    rfl
  · intro source hsource
    rw [hjoined] at hsource ⊢
    rw [mem_distinct] at hsource
    -- the edges out of a node are some of those that the whole graph has out of it
    obtain ⟨e, he, rfl⟩ := List.mem_map.1 hsource
    obtain ⟨f, hf, heq⟩ := hedge he
    have hsame : f.source = e.source := congrArg (·.1) heq
    have hout := hwf.branching hf
    rw [hsame] at hout
    refine branchingProblems_of_subperm ?_ ?_ hout
    · rw [isConditionAt, hkind (hends e he).1, isConditionAt]
    · -- the handles out of a node are read off the ends
      have hhandles (edges : List Edge) : (edges.filter (·.source == e.source)).map
          (fun e => e.handle.getD "") = ((edges.map Edge.ends).filter (·.1 == e.source)).map
            fun x => x.2.2.getD "" := by
        rw [List.filter_map, List.map_map]
        rfl
      rw [outgoing, hhandles, hhandles]
      obtain ⟨xs, hperm, hsub⟩ := hedges.filter (·.1 == e.source)
      exact ⟨_, hperm.map _, hsub.map _⟩

end Graph

end Automation
