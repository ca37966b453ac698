import Automation.Proofs.Program.Lowering
import Automation.Proofs.Program.Parsed

/-!
# Graphs of programs are well formed

The graph of a program that was read keeps all invariants of a graph, whatever the document says
(`Program.SectionsRead.wellFormed`): the names that a reading gives are ids and are all different,
edges lead to nodes of the body, and an edge has just the handle that its source asks for. So it is
never the shape of a graph that makes a reading fail.
-/

namespace Automation

namespace Program

/-! ## Names -/

theorem isIdChar_nameOf {kind : NodeKind} (h : kind.isKnown = true) (created : List NodeKind) :
    ∀ c ∈ (nameOf created kind).toList, Text.isIdChar c = true := by
  intro c hc
  unfold nameOf at hc
  rw [String.toList_append, String.toList_append, List.mem_append, List.mem_append] at hc
  rcases hc with (hc | hc) | hc
  · cases kind <;> first
      | (cases h; done)
      | (revert c; decide)
  · revert c
    decide
  · rw [Nat.toString_eq_repr, Nat.toList_repr] at hc
    have hdigit := Nat.isDigit_of_mem_toDigits (by decide) (by decide) hc
    simp [Text.isIdChar, Char.isAlphanum, hdigit]

/-- The first letter of a name that a reading gives. -/
theorem exists_cons_nameOf {kind : NodeKind} (h : kind.isKnown = true) (created : List NodeKind) :
    ∃ c cs, (nameOf created kind).toList = c :: cs ∧ c ≠ 'E' := by
  unfold nameOf
  rw [String.toList_append, String.toList_append]
  cases kind <;> first
    | (cases h; done)
    | exact ⟨_, _, rfl, by decide⟩

theorem isId_nameOf {kind : NodeKind} (h : kind.isKnown = true) (created : List NodeKind) :
    Text.isId (nameOf created kind) = true := by
  have hall := isIdChar_nameOf h created
  obtain ⟨c, cs, hcons, -⟩ := exists_cons_nameOf h created
  have hlast : (nameOf created kind).toList.getLast? ≠ some '\n' := fun hlast =>
    absurd (hall _ (List.mem_of_getLast? hlast)) (by decide)
  unfold Text.isId Text.dropFinalBreak
  dsimp only
  rw [if_neg hlast, Bool.and_eq_true]
  refine ⟨?_, List.all_eq_true.2 hall⟩
  rw [hcons]
  rfl

/-- The names that a reading gives are ids of nodes. -/
theorem Numbered.nodeProblems_eq_nil {ns : List Node} (h : Numbered [] ns) :
    Graph.nodeProblems [] ns = [] := by
  refine Graph.nodeProblems_eq_nil h.nodup fun n hn => ?_
  obtain ⟨hknown, before, hid⟩ := h.exists_of_mem hn
  obtain ⟨c, cs, hcons, hne⟩ := exists_cons_nameOf hknown (before ++ [])
  rw [hid]
  refine ⟨List.not_mem_nil, fun hempty => ?_, fun hend => ?_, isId_nameOf hknown _, hknown⟩
  · rw [hempty] at hcons
    cases hcons
  · rw [hend] at hcons
    exact hne (List.cons.inj hcons).1.symm

end Program

/-! ## Edges -/

namespace Block

mutual
/-- Edges into a block and inside it lead to nodes of the block. -/
theorem target_mem_wire (ends : List OpenEnd) : ∀ {b : Block}, ∀ e ∈ (wire ends b).1,
    ∃ n ∈ b.nodes, n.id = e.target
  | .step node, e, he => by
    rw [wire] at he
    exact ⟨node, List.mem_singleton.2 rfl, (join_targets ends node.id e he).symm⟩
  | .choice options otherwise, e, he => by
    rw [wire] at he
    rw [nodes]
    rcases List.mem_append.1 he with he | he
    · obtain ⟨n, hn, hid⟩ := target_mem_wireOptions ends e he
      exact ⟨n, List.mem_append_left _ hn, hid⟩
    · obtain ⟨n, hn, hid⟩ := target_mem_wireList _ e he
      exact ⟨n, List.mem_append_right _ hn, hid⟩
termination_by structural b => b

theorem target_mem_wireList (ends : List OpenEnd) : ∀ {bs : List Block},
    ∀ e ∈ (wireList ends bs).1, ∃ n ∈ listNodes bs, n.id = e.target
  | [], e, he => by
    rw [wireList] at he
    cases he
  | b :: bs, e, he => by
    rw [wireList] at he
    rw [listNodes]
    rcases List.mem_append.1 he with he | he
    · obtain ⟨n, hn, hid⟩ := target_mem_wire ends e he
      exact ⟨n, List.mem_append_left _ hn, hid⟩
    · obtain ⟨n, hn, hid⟩ := target_mem_wireList _ e he
      exact ⟨n, List.mem_append_right _ hn, hid⟩
termination_by structural bs => bs

theorem target_mem_wireOptions (ends : List OpenEnd) : ∀ {options : List (Node × List Block)},
    ∀ e ∈ (wireOptions ends options).edges, ∃ n ∈ optionNodes options, n.id = e.target
  | [], e, he => by
    rw [wireOptions] at he
    cases he
  | (node, body) :: rest, e, he => by
    rw [wireOptions] at he
    rw [optionNodes, List.cons_append]
    rcases List.mem_append.1 he with he | he
    · rcases List.mem_append.1 he with he | he
      · exact ⟨node, List.mem_cons_self, (join_targets ends node.id e he).symm⟩
      · obtain ⟨n, hn, hid⟩ := target_mem_wireList _ e he
        exact ⟨n, List.mem_cons_of_mem _ (List.mem_append_left _ hn), hid⟩
    · obtain ⟨n, hn, hid⟩ := target_mem_wireOptions _ e he
      exact ⟨n, List.mem_cons_of_mem _ (List.mem_append_right _ hn), hid⟩
termination_by structural options => options
end

theorem target_mem_wireGates (ends : List OpenEnd) (gates : List Node) :
    ∀ e ∈ (wireGates ends gates).1, ∃ n ∈ gates, n.id = e.target := by
  induction gates generalizing ends with
  | nil => exact fun e he => nomatch he
  | cons gate gates ih =>
    intro e he
    rcases List.mem_append.1 he with he | he
    · exact ⟨gate, List.mem_cons_self, (join_targets ends gate.id e he).symm⟩
    · obtain ⟨n, hn, hid⟩ := ih _ e he
      exact ⟨n, List.mem_cons_of_mem _ hn, hid⟩

/-- The exits of blocks are such as their nodes have. -/
theorem exists_admits {bs : List Block} (hformed : ListFormed bs) {x : OpenEnd}
    (hx : x ∈ listExits bs) : ∃ n ∈ listNodes bs, n.id = x.1 ∧ n.Admits x.2 := by
  induction bs using Block.induction with
  | nil => cases hx
  | step n bs ih =>
    rcases List.mem_cons.1 hx with rfl | hx
    · refine ⟨n, List.mem_cons_self, rfl, fun hcondition => ?_, fun hcondition => ?_⟩
      · rw [Node.exit, if_pos hcondition]
        exact .inl rfl
      · rw [Node.exit, if_neg (by simp [hcondition])]
    · obtain ⟨m, hm, hadmits⟩ := ih hformed.2 hx
      exact ⟨m, List.mem_cons_of_mem _ hm, hadmits⟩
  | last otherwise bs ihOtherwise ih =>
    rcases List.mem_append.1 hx with hx | hx
    · obtain ⟨m, hm, hadmits⟩ := ihOtherwise hformed.1.2.2 hx
      exact ⟨m, List.mem_append_left _ hm, hadmits⟩
    · obtain ⟨m, hm, hadmits⟩ := ih hformed.2 hx
      exact ⟨m, List.mem_append_right _ hm, hadmits⟩
  | option n body options otherwise bs ihBody ihOthers ih =>
    obtain ⟨⟨hflags, ⟨hcondition, hbody, hoptions⟩, hotherwise⟩, hrest⟩ := hformed
    rw [listNodes_option]
    -- the ends of a choice are the two of its first condition, or further in, or behind
    have hcases : x = (n.id, some handleTrue) ∨ x = (n.id, some handleFalse) ∨ x ∈ listExits body
        ∨ x ∈ listExits [.choice options otherwise] ∨ x ∈ listExits bs := by
      simpa [listExits, exits, optionExits, or_assoc] using hx
    rcases hcases with rfl | rfl | hx | hx | hx
    · exact ⟨n, List.mem_cons_self, rfl, fun _ => .inl rfl, fun h => by simp [hcondition] at h⟩
    · exact ⟨n, List.mem_cons_self, rfl, fun _ => .inr rfl, fun h => by simp [hcondition] at h⟩
    · obtain ⟨m, hm, hadmits⟩ := ihBody hbody hx
      exact ⟨m, List.mem_cons_of_mem _ (List.mem_append_left _ hm), hadmits⟩
    · obtain ⟨m, hm, hadmits⟩ := ihOthers
        ⟨⟨fun o ho => hflags o (List.mem_of_mem_tail ho), hoptions, hotherwise⟩, trivial⟩ hx
      exact ⟨m, List.mem_cons_of_mem _ (List.mem_append_right _ (List.mem_append_left _ hm)), hadmits⟩
    · obtain ⟨m, hm, hadmits⟩ := ih hrest hx
      exact ⟨m, List.mem_cons_of_mem _ (List.mem_append_right _ (List.mem_append_right _ hm)),
        hadmits⟩

end Block

namespace Graph

variable {g : Graph}

/-- Edges that start apart, each at a node that admits its handle, branch as they should. -/
theorem branchingProblems_eq_nil (hapart : (g.edges.map Edge.origin).Pairwise Block.Apart)
    {n : Node} (hkind : g.isConditionAt n.id = n.kind.isCondition)
    (hadmits : ∀ e ∈ g.edges, e.source = n.id → n.Admits e.handle) {edges : List Edge}
    (hsub : edges.Sublist g.edges) (hsource : ∀ e ∈ edges, e.source = n.id) :
    g.branchingProblems n.id (edges.map fun e => e.handle.getD "") = [] := by
  have hpairwise : edges.Pairwise fun e f => e.handle ≠ none ∧ f.handle ≠ none
      ∧ e.handle ≠ f.handle := by
    refine ((List.pairwise_map.1 hapart).sublist hsub).imp_of_mem fun {e f} he hf h => ?_
    exact h ((hsource e he).trans (hsource f hf).symm)
  have hadmits (e : Edge) (he : e ∈ edges) : n.Admits e.handle :=
    hadmits e (hsub.subset he) (hsource e he)
  unfold branchingProblems
  rw [hkind]
  cases hcondition : n.kind.isCondition with
  | false =>
    rw [if_neg (by simp)]
    match edges, hpairwise, hadmits with
    | [], _, _ | [e], _, _ => rfl
    | e :: f :: rest, hpairwise, hadmits =>
      -- two edges would have handles
      have hfirst := (List.pairwise_cons.1 hpairwise).1 f List.mem_cons_self
      exact absurd ((hadmits e List.mem_cons_self).2 hcondition) hfirst.1
  | true =>
    rw [if_pos rfl]
    have hhandle (e : Edge) (he : e ∈ edges) :
        e.handle = some handleTrue ∨ e.handle = some handleFalse := (hadmits e he).1 hcondition
    have hnodup : (edges.map fun e => e.handle.getD "").Nodup := by
      refine List.pairwise_map.2 (hpairwise.imp_of_mem fun {e f} he hf h heq => ?_)
      rcases hhandle e he with h₁ | h₁ <;> rcases hhandle f hf with h₂ | h₂ <;>
        simp [h₁, h₂, handleTrue, handleFalse] at h heq
    refine List.append_eq_nil_iff.2 ⟨?_, ?_⟩
    · rw [List.map_eq_nil_iff, List.filter_eq_nil_iff]
      intro handle hmem
      obtain ⟨e, he, rfl⟩ := List.mem_map.1 hmem
      rcases hhandle e he with h | h <;> simp [h, handleTrue, handleFalse]
    · rw [List.map_eq_nil_iff, List.filter_eq_nil_iff]
      intro handle _
      have := List.nodup_iff_count_le_one.1 hnodup handle
      simp only [decide_eq_true_eq]
      omega

end Graph

namespace Program

variable {limits : Limits} {triggers actions : List Entries} {conditions : List Value} {p : Program}

/-- The exits of a program that was read are such as its nodes have. -/
theorem SectionsRead.exists_admits (h : SectionsRead limits triggers conditions actions p)
    {x : OpenEnd} (hx : x ∈ p.exits) : ∃ n ∈ p.nodes, n.id = x.1 ∧ n.Admits x.2 := by
  obtain ⟨tests, -, hgates⟩ := h.gates
  obtain ⟨after, hbody⟩ := h.body
  -- an end of a trigger, of a gate, or of the body
  rcases List.mem_append.1 hx with hx | hx
  · rcases List.mem_append.1 hx with hx | hx
    · obtain ⟨t, ht, rfl⟩ := List.mem_map.1 hx
      have hkind : t.kind = .trigger := (mem_freshNodes (h.triggers ▸ ht)).1
      refine ⟨t, List.mem_append_left _ (List.mem_append_left _ ht), rfl, fun hcondition => ?_,
        fun _ => rfl⟩
      rw [hkind] at hcondition
      cases hcondition
    · obtain ⟨gate, hgate, rfl⟩ := List.mem_map.1 hx
      have hkind : gate.kind = .condition := (mem_freshNodes (hgates ▸ hgate)).1
      refine ⟨gate, List.mem_append_left _ (List.mem_append_right _ hgate), rfl, fun _ => .inl rfl,
        fun hcondition => ?_⟩
      rw [hkind] at hcondition
      cases hcondition
  · obtain ⟨n, hn, hid⟩ := Block.exists_admits hbody.formed hx
    exact ⟨n, List.mem_append_right _ hn, hid⟩

/-- The ends of an edge of a program are nodes of it. -/
theorem isJoined_of_mem_edges {e : Edge} (he : e ∈ p.edges) : p.graph.isJoined e = true := by
  have hhas {id : String} (hid : id ∈ p.nodes.map (·.id)) : p.graph.hasNode id = true := by
    obtain ⟨n, hn, rfl⟩ := List.mem_map.1 hid
    exact List.any_eq_true.2 ⟨n, hn, beq_self_eq_true _⟩
  have hsub := sublist_of_mem_edges he
  rw [Graph.isJoined, hhas (hsub.subset List.mem_cons_self),
    hhas (hsub.subset (List.mem_cons_of_mem _ List.mem_cons_self))]
  rfl

namespace SectionsRead

theorem kind?_of_mem (h : SectionsRead limits triggers conditions actions p) {n : Node}
    (hn : n ∈ p.nodes) : p.graph.kind? n.id = some n.kind :=
  Graph.kind?_of_nodup h.nodup hn

/-- The triggers of a program that was read are nodes of its graph that are triggers. -/
theorem any_isTrigger (h : SectionsRead limits triggers conditions actions p) (hne : triggers ≠ []) :
    p.graph.nodes.any (fun n => (p.graph.kind? n.id).any NodeKind.isTrigger) = true := by
  obtain ⟨t, ht⟩ : ∃ t, t ∈ p.triggers := by
    rw [h.triggers]
    cases triggers with
    | nil => exact absurd rfl hne
    | cons data rest => exact ⟨_, List.mem_cons_self⟩
  have hmem : t ∈ p.nodes := List.mem_append_left _ (List.mem_append_left _ ht)
  refine List.any_eq_true.2 ⟨t, hmem, ?_⟩
  rw [h.kind?_of_mem hmem, Option.any_some, (mem_freshNodes (h.triggers ▸ ht)).1]
  rfl

/-- An edge of a program that was read leads to a gate or into the body, but to no trigger. -/
theorem exists_target (h : SectionsRead limits triggers conditions actions p) {e : Edge}
    (he : e ∈ p.edges) : ∃ n ∈ p.nodes, n.id = e.target ∧ n.kind.isTrigger = false := by
  obtain ⟨tests, -, hgates⟩ := h.gates
  obtain ⟨after, hbody⟩ := h.body
  rcases List.mem_append.1 he with he | he
  · obtain ⟨n, hn, hid⟩ := Block.target_mem_wireGates _ _ e he
    refine ⟨n, List.mem_append_left _ (List.mem_append_right _ hn), hid, ?_⟩
    rw [(mem_freshNodes (hgates ▸ hn)).1]
    rfl
  · obtain ⟨n, hn, hid⟩ := Block.target_mem_wireList _ e he
    exact ⟨n, List.mem_append_right _ hn, hid, Block.isTrigger_of_mem_listNodes hbody.formed n hn⟩

/-- The graph of a program that was read is well formed when there is a trigger. -/
theorem wellFormed (h : SectionsRead limits triggers conditions actions p) (hne : triggers ≠ []) :
    p.graph.WellFormed := by
  have hadmits {e : Edge} (he : e ∈ p.edges) : ∃ n ∈ p.nodes, n.id = e.source ∧ n.Admits e.handle :=
    h.exists_admits (origin_mem_exits he)
  refine Graph.wellFormed_of_parts h.numbered.nodeProblems_eq_nil (h.any_isTrigger hne)
    (fun e he => ?_) fun source hsource => ?_
  · obtain ⟨n, hn, hid, htrigger⟩ := h.exists_target he
    unfold Graph.edgeProblem
    rw [isJoined_of_mem_edges he, ← hid, h.kind?_of_mem hn, Option.any_some, htrigger]
    rfl
  · have hall : p.graph.edges.filter p.graph.isJoined = p.edges :=
      List.filter_eq_self.2 fun e he => isJoined_of_mem_edges he
    rw [hall] at hsource ⊢
    rw [Graph.mem_distinct] at hsource
    obtain ⟨e, he, rfl⟩ := List.mem_map.1 hsource
    obtain ⟨n, hn, hid, -⟩ := hadmits he
    -- the edges are among the exits, and exits of one node leave it by different handles
    have hapart := (List.pairwise_append.1 (pairwise_origins h.nodup)).1
    rw [← hid]
    refine Graph.branchingProblems_eq_nil hapart ?_ (fun f hf hsame => ?_)
      List.filter_sublist fun f hf => by simpa using (List.mem_filter.1 hf).2
    · rw [Graph.isConditionAt, h.kind?_of_mem hn, Option.any_some]
    · obtain ⟨m, hm, hid', hhandle⟩ := hadmits hf
      rw [List.inj_on_of_nodup_map h.nodup hn hm (hsame.symm.trans hid'.symm)]
      exact hhandle

end SectionsRead

end Program

end Automation
