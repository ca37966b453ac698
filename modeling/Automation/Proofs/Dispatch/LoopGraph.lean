import Automation.Proofs.Dispatch.Decoding
import Automation.Proofs.Dispatch.Routing
import Automation.Proofs.Document.Assembly
import Mathlib.Tactic.ByContra

/-!
# The graph of a dispatch loop

Decoding the loop of a graph gives the part of the graph that paths lead to (`decode_actions`): the
triggers and the nodes of the loop, each as it is read back, and exactly the edges between them
(`mem_exitEdges`). That graph is well formed again (`wellFormed_loopGraph`).
-/

namespace Automation

namespace Dispatch

open Text Entries

variable {limits : Limits} {g : Graph} {joins : List (String × Option String)} {n : Node}
  {r : TopologyReport}

/-! ## Nodes and edges -/

/-- The nodes that a loop keeps: the triggers, and behind them the nodes that it runs. -/
def keptNodes (r : TopologyReport) (g : Graph) : List Node := g.triggers ++ Document.loopNodes r g

/-- The edges that follow from the states after that of a node. -/
def exitEdges (g : Graph) (n : Node) : List Edge :=
  (exitStates g n).filterMap fun x =>
    if x.2 = endState then none else some (.between n.id x.2 x.1)

/-- The graph that a loop is decoded to. -/
def loopGraph (limits : Limits) (r : TopologyReport) (g : Graph) : Graph :=
  { nodes := (keptNodes r g).map (reread limits)
    edges := (keptNodes r g).flatMap (exitEdges g) }

theorem mem_keptNodes (hr : r.reachable = g.reachable) :
    n ∈ keptNodes r g ↔ n ∈ g.nodes ∧ g.Reaches n.id := by
  unfold keptNodes
  rw [List.mem_append, Document.mem_loopNodes hr, Graph.triggers, List.mem_filter]
  constructor
  · rintro (⟨hn, htrigger⟩ | ⟨hn, -, hreach⟩)
    · exact ⟨hn, .trigger (List.mem_filter.2 ⟨hn, htrigger⟩)⟩
    · exact ⟨hn, hreach⟩
  · rintro ⟨hn, hreach⟩
    cases htrigger : n.kind.isTrigger with
    | true => exact .inl ⟨hn, rfl⟩
    | false => exact .inr ⟨hn, rfl, hreach⟩

/-- The nodes that are kept have distinct ids. -/
theorem nodup_keptNodes (hwf : g.WellFormed) : ((keptNodes r g).map (·.id)).Nodup := by
  have hnodes : g.nodes.Nodup := hwf.nodup.of_map
  have hsub : ∀ n ∈ keptNodes r g, n ∈ g.nodes := by
    intro n hn
    rcases List.mem_append.1 hn with hn | hn
    · exact (List.mem_filter.1 hn).1
    · exact (List.mem_filter.1 hn).1
  have hnodup : (keptNodes r g).Nodup := by
    refine List.nodup_append.2 ⟨hnodes.filter _, hnodes.filter _, ?_⟩
    rintro a ha b hb rfl
    have htrigger := (List.mem_filter.1 ha).2
    have hbody := (List.mem_filter.1 hb).2
    simp [htrigger] at hbody
  exact hnodup.map_on fun m hm n hn hid => hwf.eq_of_id_eq (hsub m hm) (hsub n hn) hid

/-- The state that an edge leads to is the id of its target. -/
theorem stateOf_target (hwf : g.WellFormed) {e : Edge} (he : e ∈ g.edges) :
    stateOf (some e.target) = e.target ∧ e.target ≠ endState := by
  obtain ⟨-, -, -, n, hn, -, htarget, -⟩ := hwf.edge he
  rw [htarget]
  exact ⟨if_neg (hwf.ne_empty hn), hwf.ne_endState hn⟩

theorem stateOf_ne_empty (target : Option String) : stateOf target ≠ "" := by
  unfold stateOf
  split
  · split
    · decide
    · assumption
  · decide

/-- A run goes on from a node along its edges. -/
theorem mem_exits (hwf : g.WellFormed) (hn : n ∈ g.nodes)
    (hhandle : n.kind.isCondition = false → ∀ e ∈ g.edges, e.source = n.id → e.handle = none)
    {handle : Option String} {target : String} : (handle, some target) ∈ exits g n
      ↔ ∃ e ∈ g.edges, e.source = n.id ∧ e.target = target ∧ e.handle = handle := by
  have hcondition := hwf.isConditionAt_of_mem hn
  unfold exits
  -- a condition has an exit for each outcome, and any other node a single one
  cases hkind : n.kind.isCondition with
  | true =>
    rw [hkind] at hcondition
    simp only [if_true, List.mem_cons, Prod.mk.injEq, List.not_mem_nil, or_false]
    constructor
    · rintro (⟨rfl, hnext⟩ | ⟨rfl, hnext⟩)
      · exact Graph.exists_edge_of_branch? hnext.symm
      · exact Graph.exists_edge_of_branch? hnext.symm
    · rintro ⟨e, he, hsource, rfl, rfl⟩
      rcases hwf.handle he (hsource ▸ hcondition) with hh | hh
      · exact .inl ⟨hh, by rw [Graph.whenTrue?, ← hsource, hwf.branch?_of_mem he hh]⟩
      · exact .inr ⟨hh, by rw [Graph.whenFalse?, ← hsource, hwf.branch?_of_mem he hh]⟩
  | false =>
    rw [hkind] at hcondition
    simp only [Bool.false_eq_true, if_false, List.mem_singleton, Prod.mk.injEq]
    constructor
    · rintro ⟨rfl, hnext⟩
      obtain ⟨e, he, hsource, htarget⟩ := Graph.exists_edge_of_successor? hnext.symm
      exact ⟨e, he, hsource, htarget, hhandle hkind e he hsource⟩
    · rintro ⟨e, he, hsource, rfl, rfl⟩
      exact ⟨hhandle hkind e he hsource,
        by rw [← hsource, hwf.successor?_of_mem he (hsource ▸ hcondition)]⟩

/-- The edges that are read back are those out of the node. -/
theorem mem_exitEdges (hwf : g.WellFormed) (hn : n ∈ g.nodes)
    (hhandle : n.kind.isCondition = false → ∀ e ∈ g.edges, e.source = n.id → e.handle = none)
    {e : Edge} : e ∈ exitEdges g n
      ↔ ∃ f ∈ g.edges, f.source = n.id ∧ e = .between n.id f.target f.handle := by
  unfold exitEdges exitStates
  rw [List.filterMap_map, List.mem_filterMap]
  constructor
  · rintro ⟨⟨handle, target⟩, hmem, he⟩
    cases target with
    | none => exact absurd he (by simp [stateOf])
    | some target =>
      obtain ⟨f, hf, hsource, rfl, rfl⟩ := (mem_exits hwf hn hhandle).1 hmem
      obtain ⟨hstate, hne⟩ := stateOf_target hwf hf
      simp only [Function.comp_apply, hstate, if_neg hne, Option.some.injEq] at he
      exact ⟨f, hf, hsource, he.symm⟩
  · rintro ⟨f, hf, hsource, rfl⟩
    obtain ⟨hstate, hne⟩ := stateOf_target hwf hf
    refine ⟨(f.handle, some f.target), (mem_exits hwf hn hhandle).2 ⟨f, hf, hsource, rfl, rfl⟩, ?_⟩
    simp only [Function.comp_apply, hstate, if_neg hne]

/-! ## Decoding -/

/-- The loop of a graph is made of entries of its own. -/
theorem exists_actions_eq_map (limits : Limits) (g : Graph) (joins : List (String × Option String))
    (body : List Node) : ∃ actions : List Entries,
      Dispatch.actions limits g joins body = actions.map .ofEntries
        ∧ ∀ es ∈ actions, es.Keyed := by
  unfold Dispatch.actions
  split
  · exact ⟨[], rfl, by simp⟩
  · have hone (name : String) (v : Value) : Keyed [(.str name, v)] := keyed_nil.cons rfl v
    refine ⟨[[(.str "variables", .ofEntries [(.str stateVariable,
          .str (Routing.render g.firstNodes))])],
        [(.str "repeat", .ofEntries [(.str "sequence", .ofItems [choice g joins body]),
          (.str "until", .ofItems [untilCondition limits])])], _], rfl, ?_⟩
    intro es hes
    simp only [List.mem_cons, List.not_mem_nil, or_false] at hes
    rcases hes with rfl | rfl | rfl
    · exact hone ..
    · exact hone ..
    · exact (hone ..).cons rfl _

/-- A loop is read back as its first state and its options. -/
theorem readLoop_actions {body : List Node} (h : body ≠ []) :
    readLoop (Dispatch.actions limits g joins body)
      = .ok (Routing.render g.firstNodes, body.map (option g joins)) := by
  have hempty : body.isEmpty = false := by simpa using h
  unfold Dispatch.actions
  rw [hempty]
  rfl

/-- Each trigger starts a run in the state of the node that it leads to. -/
theorem map_resolve_triggers (hwf : g.WellFormed)
    (hids : ∀ n ∈ g.nodes, ∀ c ∈ n.id.toList, isIdChar c = true) :
    ((g.triggers.map (·.id)).zipIdx.map fun t => (t.1, (none : Option String),
        Routing.resolve (Routing.render g.firstNodes) t.2))
      = g.triggers.map fun n => (n.id, (none : Option String), stateOf (g.successor? n.id)) := by
  have hnames := Document.isIdChar_of_mem_firstNodes hwf hids
  rw [List.zipIdx_map, List.map_map]
  -- the state of a trigger is that of its number, which is its place among the triggers
  have hstep : g.triggers.zipIdx.map ((fun t : String × Nat => (t.1, (none : Option String),
        Routing.resolve (Routing.render g.firstNodes) t.2)) ∘ Prod.map (·.id) id)
      = g.triggers.zipIdx.map fun t =>
        (t.1.id, (none : Option String), stateOf (g.successor? t.1.id)) := by
    refine List.map_congr_left fun t ht => ?_
    obtain ⟨n, i⟩ := t
    obtain ⟨hi, hn⟩ := List.getElem?_eq_some_iff.1 (List.mk_mem_zipIdx_iff_getElem?.1 ht)
    have hlength : i < g.firstNodes.length := by
      rwa [Graph.firstNodes, List.length_map]
    have hfirst : g.firstNodes[i] = g.successor? n.id := by
      simp [Graph.firstNodes, hn]
    have hresolve := Routing.resolve_render hnames hlength
    rw [hfirst] at hresolve
    simp only [Function.comp_apply, Prod.map_apply, id_eq]
    rw [hresolve]
  rw [hstep]
  have := List.map_map (l := g.triggers.zipIdx) (f := Prod.fst)
    (g := fun n : Node => (n.id, (none : Option String), stateOf (g.successor? n.id)))
  rw [List.zipIdx_map_fst] at this
  exact this.symm

/-- The first states are those of the nodes that the triggers lead to. -/
theorem routed_eq (hwf : g.WellFormed) (hids : ∀ n ∈ g.nodes, ∀ c ∈ n.id.toList, isIdChar c = true) :
    (((g.triggers.map (·.id)).zipIdx.map fun t => (t.1, (none : Option String),
        Routing.resolve (Routing.render g.firstNodes) t.2)).filter (·.2.2 != ""))
      = g.triggers.flatMap fun n => (exitStates g n).map fun x => (n.id, x.1, x.2) := by
  have hexits : ∀ n ∈ g.triggers, (exitStates g n).map (fun x => (n.id, x.1, x.2))
      = [(n.id, (none : Option String), stateOf (g.successor? n.id))] := by
    intro n hn
    have hcondition := NodeKind.isCondition_of_isTrigger (List.mem_filter.1 hn).2
    simp [exitStates, exits, hcondition]
  rw [map_resolve_triggers hwf hids, List.filter_eq_self.2, List.flatMap_def, List.map_congr_left hexits, ← List.flatMap_def,
    List.map_eq_flatMap]
  intro t ht
  obtain ⟨n, -, rfl⟩ := List.mem_map.1 ht
  exact bne_iff_ne.2 (stateOf_ne_empty _)

/-- The state behind a node is the end, or that of a node of the loop. -/
theorem exists_loopNode_of_exit (hwf : g.WellFormed) (hr : r.reachable = g.reachable)
    (hn : n ∈ keptNodes r g) {x : Option String × String} (hx : x ∈ exitStates g n)
    (hend : x.2 ≠ endState) : ∃ m ∈ Document.loopNodes r g, m.id = x.2 := by
  obtain ⟨hn, hreach⟩ := (mem_keptNodes hr).1 hn
  obtain ⟨⟨handle, target⟩, hmem, rfl⟩ := List.mem_map.1 hx
  -- an exit that does not end the run is drawn as an edge
  obtain ⟨e, he, hsource, rfl⟩ : ∃ e ∈ g.edges, e.source = n.id ∧ target = some e.target := by
    cases target with
    | none => exact absurd rfl hend
    | some target =>
      unfold exits at hmem
      split at hmem
      · simp only [List.mem_cons, Prod.mk.injEq, List.not_mem_nil, or_false] at hmem
        rcases hmem with ⟨-, hnext⟩ | ⟨-, hnext⟩
        · obtain ⟨e, he, hsource, rfl, -⟩ := Graph.exists_edge_of_branch? hnext.symm
          exact ⟨e, he, hsource, rfl⟩
        · obtain ⟨e, he, hsource, rfl, -⟩ := Graph.exists_edge_of_branch? hnext.symm
          exact ⟨e, he, hsource, rfl⟩
      · simp only [List.mem_singleton, Prod.mk.injEq] at hmem
        obtain ⟨e, he, hsource, rfl⟩ := Graph.exists_edge_of_successor? hmem.2.symm
        exact ⟨e, he, hsource, rfl⟩
  rw [(stateOf_target hwf he).1]
  exact Document.mem_loopNodes_of_edge hwf hr he (hsource ▸ hreach)

/-- A transition is read back as an edge, unless it is the end. -/
theorem readTransition_exit (hwf : g.WellFormed) (hr : r.reachable = g.reachable)
    (hn : n ∈ keptNodes r g) {x : Option String × String} (hx : x ∈ exitStates g n) :
    readTransition ((keptNodes r g).map (·.id)) n.id x.2 x.1
      = .ok (if x.2 = endState then none else some (.between n.id x.2 x.1)) := by
  unfold readTransition
  split
  · rfl
  · rename_i hend
    obtain ⟨m, hm, hid⟩ := exists_loopNode_of_exit hwf hr hn hx hend
    rw [if_pos]
    rw [List.contains_iff_mem, ← hid]
    exact List.mem_map_of_mem (List.mem_append_right _ hm)

/-- The triggers are read back, as nothing is lost of a trigger without a name and flags. -/
theorem startNodes_triggers (hbare : ∀ n ∈ g.triggers, n.label = .null ∧ n.flags = []) :
    startNodes (g.triggers.map (·.id)) (g.triggers.map (·.data))
      = g.triggers.map (reread limits) := by
  rw [startNodes, List.zip_map', List.map_map]
  refine List.map_congr_left fun n hn => ?_
  obtain ⟨hlabel, hflags⟩ := hbare n hn
  have hkind := NodeKind.isTrigger_iff.1 (List.mem_filter.1 hn).2
  simp [reread, rereadData, hkind, hlabel, hflags, NodeKind.isCondition, Entry.flagsOf,
    Value.ifTruthy, Value.truthy]

/-- The transitions that are read are those out of the nodes that are kept. -/
theorem transitions_eq (hwf : g.WellFormed)
    (hids : ∀ n ∈ g.nodes, ∀ c ∈ n.id.toList, isIdChar c = true) :
    transitions (g.triggers.map (·.id)) (Routing.render g.firstNodes)
        ((Document.loopNodes r g).map fun n => ⟨reread limits n, exitStates g n⟩)
      = (keptNodes r g).flatMap fun n => (exitStates g n).map fun x => (n.id, x.1, x.2) := by
  rw [transitions, routed_eq hwf hids, keptNodes, List.flatMap_append, List.flatMap_map]
  rfl

/-- When nothing is run, the triggers lead nowhere. -/
theorem exitEdges_eq_nil (hwf : g.WellFormed) (hr : r.reachable = g.reachable)
    (hbody : Document.loopNodes r g = []) (hn : n ∈ keptNodes r g) : exitEdges g n = [] := by
  refine List.filterMap_eq_nil_iff.2 fun x hx => if_pos ?_
  by_contra hend
  obtain ⟨m, hm, -⟩ := exists_loopNode_of_exit hwf hr hn hx hend
  rw [hbody] at hm
  cases hm

/-- The loop of a graph is decoded to the part of the graph that paths lead to. -/
theorem decode_actions (hwf : g.WellFormed)
    (hids : ∀ n ∈ g.nodes, ∀ c ∈ n.id.toList, isIdChar c = true)
    (hr : r.reachable = g.reachable)
    (hbare : ∀ n ∈ g.triggers, n.label = .null ∧ n.flags = [])
    (hbody : ∀ n ∈ Document.loopNodes r g, Restorable limits n) :
    decode limits (g.triggers.map (·.data))
      (Dispatch.actions limits g joins (Document.loopNodes r g)) (g.triggers.map (·.id))
        = .ok (loopGraph limits r g) := by
  have hnames : triggerNames (g.triggers.map (·.data)).length (g.triggers.map (·.id))
      = g.triggers.map (·.id) := by
    obtain ⟨n, hn, htrigger⟩ := hwf.exists_trigger
    have hne : g.triggers ≠ [] := List.ne_nil_of_mem (List.mem_filter.2 ⟨hn, htrigger⟩)
    rw [triggerNames, if_neg (by simpa using hne)]
  rw [decode_eq_ok, hnames, startNodes_triggers hbare]
  -- a loop without options is not written at all
  by_cases hbody' : Document.loopNodes r g = []
  · refine .inl ⟨by rw [hbody']; rfl, ?_⟩
    rw [loopGraph, List.flatMap_eq_nil_iff.2 fun n hn => exitEdges_eq_nil hwf hr hbody' hn, keptNodes,
      hbody', List.append_nil]
  · have hactions : Dispatch.actions limits g joins (Document.loopNodes r g) ≠ [] := by
      rw [Dispatch.actions, if_neg (by simpa using hbody')]
      exact List.cons_ne_nil _ _
    have hdecoded : ((Document.loopNodes r g).map (option g joins)).mapM (readOption limits)
        = .ok ((Document.loopNodes r g).map fun n => ⟨reread limits n, exitStates g n⟩) := by
      rw [List.mapM_map]
      exact Outcome.mapM_eq_ok_of_forall fun n hn => readOption_option (hbody n hn)
    have hnodes : g.triggers.map (reread limits) ++ ((Document.loopNodes r g).map
        fun n => (⟨reread limits n, exitStates g n⟩ : Decoded)).map (·.node)
        = (keptNodes r g).map (reread limits) := by
      rw [List.map_map, keptNodes, List.map_append]
      rfl
    have hknown : ((keptNodes r g).map (reread limits)).map (·.id) = (keptNodes r g).map (·.id) := by
      rw [List.map_map]
      rfl
    refine .inr ⟨hactions, _, _, _, _, readLoop_actions hbody', hdecoded,
      Outcome.mapM_eq_ok_of_forall (g := fun t : String × Option String × String =>
        if t.2.2 = endState then none else some (.between t.1 t.2.2 t.2.1)) fun t ht => ?_, ?_⟩
    · rw [transitions_eq hwf hids] at ht
      obtain ⟨n, hn, ht⟩ := List.mem_flatMap.1 ht
      obtain ⟨x, hx, rfl⟩ := List.mem_map.1 ht
      rw [hnodes, hknown]
      exact readTransition_exit hwf hr hn hx
    · rw [hnodes, transitions_eq hwf hids, List.filterMap_map, List.filterMap_flatMap]
      simp only [List.filterMap_map]
      rfl

/-! ## Well-formedness -/

/-- The parts of a list made of parts that only one item has. -/
theorem filter_flatMap_of_unique {α β : Type} {f : α → List β} {p : β → Bool} {xs : List α} {x : α}
    (hnodup : xs.Nodup) (hx : x ∈ xs) (hp : ∀ b ∈ f x, p b = true)
    (hother : ∀ y ∈ xs, y ≠ x → ∀ b ∈ f y, p b = false) : (xs.flatMap f).filter p = f x := by
  induction xs with
  | nil => cases hx
  | cons y ys ih =>
    obtain ⟨hfirst, hnodup⟩ := List.nodup_cons.1 hnodup
    -- nothing is kept of what the others are mapped to
    have hnone {zs : List α} (hzs : ∀ z ∈ zs, z ∈ y :: ys ∧ z ≠ x) : (zs.flatMap f).filter p = [] := by
      refine List.filter_eq_nil_iff.2 fun b hb => ?_
      obtain ⟨z, hz, hb⟩ := List.mem_flatMap.1 hb
      simp [hother z (hzs z hz).1 (hzs z hz).2 b hb]
    rw [List.flatMap_cons, List.filter_append]
    rcases List.mem_cons.1 hx with rfl | hx
    · rw [List.filter_eq_self.2 hp, hnone fun z hz => ⟨List.mem_cons_of_mem _ hz, ?_⟩, List.append_nil]
      rintro rfl
      exact hfirst hz
    · have hne : y ≠ x := by
        rintro rfl
        exact hfirst hx
      have hhead : ([y].flatMap f).filter p = [] := hnone fun z hz => by
        rw [List.mem_singleton.1 hz]
        exact ⟨List.mem_cons_self, hne⟩
      rw [List.flatMap_singleton] at hhead
      rw [hhead, List.nil_append]
      exact ih hnodup hx fun z hz => hother z (List.mem_cons_of_mem _ hz)

theorem source_of_mem_exitEdges {e : Edge} (h : e ∈ exitEdges g n) : e.source = n.id := by
  obtain ⟨x, -, hx⟩ := List.mem_filterMap.1 h
  split at hx
  · cases hx
  · rw [← Option.some.inj hx]
    rfl

/-- The edges out of a node branch as they should. -/
theorem branching_exitEdges (g' : Graph) (hkind : g'.isConditionAt n.id = n.kind.isCondition) :
    g'.branchingProblems n.id ((exitEdges g n).map fun e => e.handle.getD "") = [] := by
  unfold Graph.branchingProblems exitEdges exitStates exits
  rw [hkind]
  cases n.kind.isCondition with
  | true =>
    simp only [if_true, List.map_cons, List.map_nil, List.filterMap_cons, List.filterMap_nil]
    by_cases htrue : stateOf (g.whenTrue? n.id) = endState
    · by_cases hfalse : stateOf (g.whenFalse? n.id) = endState
      · simp [htrue, hfalse]
      · simp [htrue, hfalse, Edge.between, handleTrue, handleFalse]
    · by_cases hfalse : stateOf (g.whenFalse? n.id) = endState
      · simp [htrue, hfalse, Edge.between, handleTrue, handleFalse]
      · simp [htrue, hfalse, Edge.between, handleTrue, handleFalse]
  | false =>
    simp only [Bool.false_eq_true, if_false, List.map_cons, List.map_nil, List.filterMap_cons,
      List.filterMap_nil]
    by_cases hnext : stateOf (g.successor? n.id) = endState <;> simp [hnext]

theorem nodup_loopGraph (hwf : g.WellFormed) :
    ((loopGraph limits r g).nodes.map (·.id)).Nodup := by
  rw [loopGraph, List.map_map]
  exact nodup_keptNodes hwf

theorem kind?_loopGraph (hwf : g.WellFormed) (hn : n ∈ keptNodes r g) :
    (loopGraph limits r g).kind? n.id = some n.kind :=
  Graph.kind?_of_nodup (n := reread limits n) (nodup_loopGraph hwf) (List.mem_map_of_mem hn)

theorem hasNode_loopGraph (hn : n ∈ keptNodes r g) : (loopGraph limits r g).hasNode n.id = true :=
  List.any_eq_true.2 ⟨reread limits n, List.mem_map_of_mem hn, beq_self_eq_true _⟩

/-- An edge of the decoded graph leads from a node that is kept to one that the loop runs. -/
theorem of_mem_edges_loopGraph (hwf : g.WellFormed) (hr : r.reachable = g.reachable) {e : Edge}
    (he : e ∈ (loopGraph limits r g).edges) :
    ∃ n ∈ keptNodes r g, ∃ m ∈ Document.loopNodes r g, e.source = n.id ∧ e.target = m.id := by
  obtain ⟨n, hn, he⟩ := List.mem_flatMap.1 he
  have hsource := source_of_mem_exitEdges he
  obtain ⟨x, hx, he⟩ := List.mem_filterMap.1 he
  split at he
  · cases he
  · rename_i hend
    obtain ⟨m, hm, hid⟩ := exists_loopNode_of_exit hwf hr hn hx hend
    refine ⟨n, hn, m, hm, hsource, ?_⟩
    rw [← Option.some.inj he, hid]
    rfl

theorem isJoined_loopGraph (hwf : g.WellFormed) (hr : r.reachable = g.reachable) {e : Edge}
    (he : e ∈ (loopGraph limits r g).edges) : (loopGraph limits r g).isJoined e = true := by
  obtain ⟨n, hn, m, hm, hsource, htarget⟩ := of_mem_edges_loopGraph hwf hr he
  rw [Graph.isJoined, hsource, htarget, hasNode_loopGraph hn,
    hasNode_loopGraph (List.mem_append_right _ hm)]
  rfl

/-- The edges out of a node that is kept are those read out of its option. -/
theorem filter_edges_loopGraph (hwf : g.WellFormed) (hn : n ∈ keptNodes r g) :
    (loopGraph limits r g).edges.filter (·.source == n.id) = exitEdges g n := by
  refine filter_flatMap_of_unique (nodup_keptNodes hwf).of_map hn (fun e he => ?_)
    fun m hm hne e he => ?_
  · rw [source_of_mem_exitEdges he, beq_self_eq_true]
  · rw [source_of_mem_exitEdges he, beq_eq_false_iff_ne]
    exact fun hid => hne (List.inj_on_of_nodup_map (nodup_keptNodes hwf) hm hn hid)

/-- The graph that a loop is decoded to is well formed again. -/
theorem wellFormed_loopGraph (hwf : g.WellFormed) (hr : r.reachable = g.reachable) :
    (loopGraph limits r g).WellFormed := by
  refine Graph.wellFormed_of_parts ?_ ?_ ?_ ?_
  · refine Graph.nodeProblems_eq_nil (nodup_loopGraph hwf) fun m hm => ?_
    obtain ⟨n, hn, rfl⟩ := List.mem_map.1 hm
    have hn := ((mem_keptNodes hr).1 hn).1
    refine ⟨List.not_mem_nil, ?_⟩
    show n.id ≠ "" ∧ n.id ≠ endState ∧ Text.isId n.id = true ∧ n.kind.isKnown = true
    exact ⟨hwf.ne_empty hn, hwf.ne_endState hn, hwf.isId hn, hwf.isKnown hn⟩
  · -- the triggers are kept
    obtain ⟨n, hn, htrigger⟩ := hwf.exists_trigger
    have hn : n ∈ keptNodes r g := List.mem_append_left _ (List.mem_filter.2 ⟨hn, htrigger⟩)
    refine List.any_eq_true.2 ⟨_, List.mem_map_of_mem (f := reread limits) hn, ?_⟩
    show ((loopGraph limits r g).kind? n.id).any (·.isTrigger) = true
    rw [kind?_loopGraph hwf hn, Option.any_some, htrigger]
  · -- no edge leads to a trigger, as the loop runs none
    intro e he
    obtain ⟨-, -, m, hm, -, htarget⟩ := of_mem_edges_loopGraph hwf hr he
    have htrigger : m.kind.isTrigger = false := by
      simpa using (List.mem_filter.1 hm).2 |> Bool.and_eq_true_iff.1 |>.1
    rw [Graph.edgeProblem, isJoined_loopGraph hwf hr he, htarget,
      kind?_loopGraph hwf (List.mem_append_right _ hm), Option.any_some, htrigger]
    rfl
  · have hall : (loopGraph limits r g).edges.filter (loopGraph limits r g).isJoined
        = (loopGraph limits r g).edges :=
      List.filter_eq_self.2 fun e he => isJoined_loopGraph hwf hr he
    intro source hsource
    rw [Graph.mem_distinct, hall] at hsource
    obtain ⟨e, he, rfl⟩ := List.mem_map.1 hsource
    obtain ⟨n, hn, -, -, hid, -⟩ := of_mem_edges_loopGraph hwf hr he
    rw [hall, hid, filter_edges_loopGraph hwf hn]
    refine branching_exitEdges _ ?_
    rw [Graph.isConditionAt, kind?_loopGraph hwf hn, Option.any_some]

/-- The edges that are read back are those between the nodes that are kept. -/
theorem perm_ends_loopGraph (hwf : g.WellFormed) (hr : r.reachable = g.reachable)
    (hhandle : ∀ e ∈ g.edges, g.isConditionAt e.source = false → e.handle = none) :
    ((loopGraph limits r g).edges.map Edge.ends).Perm
      ((g.edges.filter fun e => ((keptNodes r g).map (·.id)).contains e.source
        && ((keptNodes r g).map (·.id)).contains e.target).map Edge.ends) := by
  have hnodup : ((g.edges.filter fun e => ((keptNodes r g).map (·.id)).contains e.source
      && ((keptNodes r g).map (·.id)).contains e.target).map Edge.ends).Nodup :=
    hwf.nodup_ends.sublist (List.filter_sublist.map _)
  -- no two edges have the same ends on either side, so it is enough to compare members
  refine (List.perm_ext_iff_of_nodup (wellFormed_loopGraph hwf hr).nodup_ends hnodup).2 fun x => ?_
  have hexits {n : Node} (hn : n ∈ g.nodes) {e : Edge} : e ∈ exitEdges g n
      ↔ ∃ f ∈ g.edges, f.source = n.id ∧ e = .between n.id f.target f.handle :=
    mem_exitEdges hwf hn fun hkind f hf hsource =>
      hhandle f hf (by rw [hsource, hwf.isConditionAt_of_mem hn, hkind])
  constructor
  · intro hx
    obtain ⟨e, he, rfl⟩ := List.mem_map.1 hx
    obtain ⟨n, hn, he⟩ := List.mem_flatMap.1 he
    obtain ⟨hmem, hreach⟩ := (mem_keptNodes hr).1 hn
    obtain ⟨f, hf, hsource, rfl⟩ := (hexits hmem).1 he
    obtain ⟨m, hm, hid⟩ := Document.mem_loopNodes_of_edge hwf hr hf (hsource ▸ hreach)
    refine List.mem_map.2 ⟨f, List.mem_filter.2 ⟨hf, ?_⟩, ?_⟩
    · rw [Bool.and_eq_true, List.contains_iff_mem, List.contains_iff_mem, hsource, ← hid]
      exact ⟨List.mem_map_of_mem hn, List.mem_map_of_mem (List.mem_append_right _ hm)⟩
    · rw [Edge.ends, hsource]
      rfl
  · intro hx
    obtain ⟨f, hf, rfl⟩ := List.mem_map.1 hx
    obtain ⟨hf, hkept⟩ := List.mem_filter.1 hf
    rw [Bool.and_eq_true, List.contains_iff_mem] at hkept
    obtain ⟨n, hn, hid⟩ := List.mem_map.1 hkept.1
    refine List.mem_map.2 ⟨.between n.id f.target f.handle, ?_, ?_⟩
    · refine List.mem_flatMap.2 ⟨n, hn, ?_⟩
      exact (hexits ((mem_keptNodes hr).1 hn).1).2 ⟨f, hf, hid.symm, rfl⟩
    · rw [Edge.ends, Edge.ends, ← hid]
      rfl

end Dispatch

end Automation
