import Automation.Proofs.Program.Standing

/-!
# The order of a program

The edges of a program lead forwards in the order in which its nodes are written
(`Program.sublist_of_mem_edges`): the open ends in front of a block are ends of nodes that are
written before it. So the place of a node in that order is a rank (`Program.ranked`), and a program
has no cycle. In a graph with its nodes and edges, its gates and its body stand in front of the end
of the run (`Program.standing`).
-/

namespace Automation

namespace Block

/-- An edge from a node written before to one written now leads forwards. -/
theorem sublist_join {front : List String} {ends : List OpenEnd} (hends : ∀ x ∈ ends, x.1 ∈ front)
    (id : String) : ∀ e ∈ join ends id, [e.source, e.target].Sublist (front ++ [id]) := by
  intro e he
  obtain ⟨horigin, htarget⟩ := mem_join he
  have hsource : [e.source].Sublist front := List.singleton_sublist.2 (hends e.origin horigin)
  rw [htarget]
  exact hsource.append (List.Sublist.refl [id])

/-- Nodes that are written behind do not change the order of those before. -/
theorem sublist_append {xs front ids : List String} (more : List String)
    (h : xs.Sublist (front ++ ids)) : xs.Sublist (front ++ (ids ++ more)) := by
  rw [← List.append_assoc]
  exact h.trans (List.sublist_append_left _ _)

mutual
/-- The edges into a block and inside it lead forwards, behind nodes that the ends are of. -/
theorem forward_wire (front : List String) (ends : List OpenEnd)
    (hends : ∀ x ∈ ends, x.1 ∈ front) : ∀ b : Block,
    (∀ e ∈ (wire ends b).1, [e.source, e.target].Sublist (front ++ b.nodes.map (·.id)))
      ∧ ∀ x ∈ (wire ends b).2, x.1 ∈ front ++ b.nodes.map (·.id)
  | step node => by
    rw [wire, nodes, List.map_singleton]
    refine ⟨sublist_join hends node.id, fun x hx => ?_⟩
    rw [List.mem_singleton.1 hx]
    exact List.mem_append_right _ (List.mem_singleton.2 rfl)
  | choice options otherwise => by
    obtain ⟨htried, hexits, hpending⟩ := forward_wireOptions front ends hends options
    -- what is pending behind the options is left to the other branch
    obtain ⟨hlast, hleft⟩ := forward_wireList (front ++ (optionNodes options).map (·.id)) _ hpending
      otherwise
    rw [List.append_assoc, ← List.map_append] at hlast hleft
    rw [wire, nodes]
    refine ⟨fun e he => (List.mem_append.1 he).elim (fun he => ?_) (hlast e),
      fun x hx => (List.mem_append.1 hx).elim (fun hx => ?_) (hleft x)⟩
    · rw [List.map_append]
      exact sublist_append _ (htried e he)
    · rw [List.map_append, ← List.append_assoc]
      exact List.mem_append_left _ (hexits x hx)
termination_by structural b => b

/-- The edges of a list lead on in the order of its nodes. -/
theorem forward_wireList (front : List String) (ends : List OpenEnd)
    (hends : ∀ x ∈ ends, x.1 ∈ front) : ∀ bs : List Block,
    (∀ e ∈ (wireList ends bs).1, [e.source, e.target].Sublist (front ++ (listNodes bs).map (·.id)))
      ∧ ∀ x ∈ (wireList ends bs).2, x.1 ∈ front ++ (listNodes bs).map (·.id)
  | [] => by
    rw [wireList]
    exact ⟨by simp, fun x hx => List.mem_append_left _ (hends x hx)⟩
  | b :: bs => by
    obtain ⟨hfirst, hleft⟩ := forward_wire front ends hends b
    obtain ⟨hrest, hlast⟩ := forward_wireList (front ++ b.nodes.map (·.id)) _ hleft bs
    rw [List.append_assoc, ← List.map_append] at hrest hlast
    rw [wireList, listNodes]
    refine ⟨fun e he => (List.mem_append.1 he).elim (fun he => ?_) (hrest e), hlast⟩
    rw [List.map_append]
    exact sublist_append _ (hfirst e he)
termination_by structural bs => bs

/-- The edges of options lead on in the order of their nodes. -/
theorem forward_wireOptions (front : List String) (ends : List OpenEnd)
    (hends : ∀ x ∈ ends, x.1 ∈ front) : ∀ options : List (Node × List Block),
    (∀ e ∈ (wireOptions ends options).edges,
        [e.source, e.target].Sublist (front ++ (optionNodes options).map (·.id)))
      ∧ (∀ x ∈ (wireOptions ends options).exits, x.1 ∈ front ++ (optionNodes options).map (·.id))
      ∧ ∀ x ∈ (wireOptions ends options).pending, x.1 ∈ front ++ (optionNodes options).map (·.id)
  | [] => by
    rw [wireOptions]
    exact ⟨by simp, by simp, fun x hx => List.mem_append_left _ (hends x hx)⟩
  | (node, body) :: rest => by
    have hone (handle : Option String) : ∀ x ∈ [(node.id, handle)], x.1 ∈ front ++ [node.id] :=
      fun x hx => by
        rw [List.mem_singleton.1 hx]
        exact List.mem_append_right _ (List.mem_singleton.2 rfl)
    obtain ⟨hinner, hexits⟩ := forward_wireList (front ++ [node.id]) _ (hone (some handleTrue)) body
    obtain ⟨hothers, hleft, hpending⟩ := forward_wireOptions
      (front ++ [node.id] ++ (listNodes body).map (·.id)) [(node.id, some handleFalse)]
      (fun x hx => List.mem_append_left _ (hone _ x hx)) rest
    -- all is written behind the same nodes
    have hall : front ++ (optionNodes ((node, body) :: rest)).map (·.id)
        = front ++ [node.id] ++ (listNodes body).map (·.id) ++ (optionNodes rest).map (·.id) := by
      simp [optionNodes]
    rw [wireOptions, hall]
    refine ⟨fun e he => ?_, fun x hx => ?_, hpending⟩
    · rcases List.mem_append.1 he with he | he
      · refine List.Sublist.trans ?_ (List.sublist_append_left _ _)
        rcases List.mem_append.1 he with he | he
        · exact (sublist_join hends node.id e he).trans (List.sublist_append_left _ _)
        · exact hinner e he
      · exact hothers e he
    · rcases List.mem_append.1 hx with hx | hx
      · exact List.mem_append_left _ (hexits x hx)
      · exact hleft x hx
termination_by structural options => options
end

/-- Each gate leads on to the next. -/
theorem forward_wireGates (front : List String) (ends : List OpenEnd)
    (hends : ∀ x ∈ ends, x.1 ∈ front) (gates : List Node) :
    (∀ e ∈ (wireGates ends gates).1, [e.source, e.target].Sublist (front ++ gates.map (·.id)))
      ∧ ∀ x ∈ (wireGates ends gates).2, x.1 ∈ front ++ gates.map (·.id) := by
  induction gates generalizing front ends with
  | nil =>
    rw [wireGates]
    exact ⟨by simp, fun x hx => List.mem_append_left _ (hends x hx)⟩
  | cons gate gates ih =>
    obtain ⟨hrest, hlast⟩ := ih (front ++ [gate.id]) [(gate.id, some handleTrue)] fun x hx => by
      rw [List.mem_singleton.1 hx]
      exact List.mem_append_right _ (List.mem_singleton.2 rfl)
    have hall : front ++ (gate :: gates).map (·.id) = front ++ [gate.id] ++ gates.map (·.id) := by
      simp
    rw [wireGates, hall]
    refine ⟨fun e he => (List.mem_append.1 he).elim (fun he => ?_) (hrest e), hlast⟩
    exact (sublist_join hends gate.id e he).trans (List.sublist_append_left _ _)

end Block

/-- What stands in a list behind something else has a later position. -/
theorem idxOf_lt_of_sublist {xs : List String} {a b : String} (hnodup : xs.Nodup)
    (h : [a, b].Sublist xs) : xs.idxOf a < xs.idxOf b := by
  induction xs with
  | nil => cases h
  | cons x xs ih =>
    obtain ⟨hx, hnodup⟩ := List.nodup_cons.1 hnodup
    cases h with
    | cons _ h =>
      have ha : x ≠ a := fun heq => hx (heq ▸ h.subset List.mem_cons_self)
      have hb : x ≠ b := fun heq => hx (heq ▸ h.subset (List.mem_cons_of_mem _ List.mem_cons_self))
      rw [List.idxOf_cons_ne _ ha, List.idxOf_cons_ne _ hb]
      exact Nat.succ_lt_succ (ih hnodup h)
    | cons_cons _ h =>
      have hb : a ≠ b := fun heq => hx (heq ▸ List.singleton_sublist.1 h)
      rw [List.idxOf_cons_self, List.idxOf_cons_ne _ hb]
      exact Nat.succ_pos _

namespace Program

variable {p : Program} {g : Graph}

/-- The edges of a program lead forwards in the order in which its nodes are written. -/
theorem sublist_of_mem_edges {e : Edge} (he : e ∈ p.edges) :
    [e.source, e.target].Sublist (p.nodes.map (·.id)) := by
  obtain ⟨hgates, hends⟩ := Block.forward_wireGates (p.triggers.map (·.id))
    (p.triggers.map fun t => (t.id, none)) (fun x hx => by
      obtain ⟨t, ht, rfl⟩ := List.mem_map.1 hx
      exact List.mem_map_of_mem ht) p.gates
  obtain ⟨hbody, -⟩ := Block.forward_wireList _ _ hends p.body
  rw [nodes, List.map_append, List.map_append]
  rcases List.mem_append.1 he with he | he
  · exact (hgates e he).trans (List.sublist_append_left _ _)
  · exact hbody e he

/-- The place of a node in the order in which a program is written. -/
def rank (p : Program) (id : String) : Nat := (p.nodes.map (·.id)).idxOf id

/-- A graph with the edges of a program has no cycle. -/
theorem ranked (hg : g.edges = p.edges) (h : (p.nodes.map (·.id)).Nodup) : g.Ranked p.rank :=
  fun _ he => idxOf_lt_of_sublist h (sublist_of_mem_edges (hg ▸ he))

/-- The nodes of a program are ranked in their order. -/
theorem pairwise_rank (h : (p.nodes.map (·.id)).Nodup) :
    p.nodes.Pairwise fun m n => p.rank m.id < p.rank n.id := by
  refine List.pairwise_iff_forall_sublist.2 fun {m n} hsub => ?_
  exact idxOf_lt_of_sublist h (hsub.map Node.id)

/-- The blocks of a program, with the gates in front as steps. -/
def blocks (p : Program) : List Block := p.gates.map .step ++ p.body

theorem listNodes_blocks (p : Program) :
    Block.listNodes p.blocks = p.gates ++ Block.listNodes p.body := by
  have hgates : ∀ gates : List Node, Block.listNodes (gates.map .step) = gates := by
    intro gates
    induction gates with
    | nil => rfl
    | cons gate gates ih => rw [List.map_cons, Block.listNodes_step, ih]
  rw [blocks, Block.listNodes_append, hgates]

/-- A program is its triggers, its gates and its body. -/
theorem nodes_eq (p : Program) : p.nodes = p.triggers ++ Block.listNodes p.blocks := by
  rw [listNodes_blocks, nodes, List.append_assoc]

/-- A program starts at its first gate, or without gates at its body. -/
theorem listFirst_blocks (p : Program) : Block.listFirst none p.blocks
    = Block.gatesFirst (Block.listFirst none p.body) p.gates := by
  unfold blocks
  cases p.gates <;> rfl

/-- The body of a program is what is left of its blocks behind the gates. -/
theorem within_body (p : Program) : Block.Within p.blocks none p.body none := by
  have hbehind : ∀ (gates : List Node) (bs : List Block),
      Block.Within bs none (gates.map .step ++ p.body) none → Block.Within bs none p.body none := by
    intro gates
    induction gates with
    | nil => exact fun bs h => h
    | cons gate gates ih => exact fun bs h => ih bs h.behind
  exact hbehind p.gates _ .refl

/-- The blocks of a program stand in a graph with its nodes and edges, in front of the end. -/
theorem standing (hnodes : g.nodes = p.nodes) (hedges : g.edges = p.edges)
    (h : (p.nodes.map (·.id)).Nodup) (hformed : Block.ListFormed p.body)
    (hgates : ∀ n ∈ p.gates, n.kind.isCondition = true ∧ n.label.truthy = false ∧ n.flags = []) :
    Block.Standing g p.rank p.blocks none := by
  have hfollowed := followedBy_of_edges_eq hedges h
  refine ⟨?_, ?_, fun n hn => ?_, ?_, by simp⟩
  · -- the gates in front are steps, the last of which leads to the first node of the body
    have hsteps : ∀ gates : List Node, (∀ n ∈ gates, n.kind.isCondition = true) →
        Block.GatesFollow g (Block.listFirst none p.body) gates →
        Block.ListFollows g none (gates.map .step ++ p.body) := by
      intro gates
      induction gates with
      | nil => exact fun _ _ => hfollowed.body
      | cons gate gates ih =>
        rintro hcondition ⟨⟨htrue, hfalse⟩, hrest⟩
        refine ⟨⟨?_, fun _ => hfalse⟩, ih (fun n hn => hcondition n (List.mem_cons_of_mem _ hn)) hrest⟩
        rw [Node.exit, if_pos (hcondition gate List.mem_cons_self)]
        refine htrue.trans ?_
        cases gates <;> rfl
    exact hsteps p.gates (fun n hn => (hgates n hn).1) hfollowed.gates
  · -- a gate has no label and no flags, as it stands in no block
    have hsteps : ∀ gates : List Node,
        (∀ n ∈ gates, n.kind.isCondition = true ∧ n.label.truthy = false ∧ n.flags = []) →
        Block.ListFormed (gates.map .step ++ p.body) := by
      intro gates
      induction gates with
      | nil => exact fun _ => hformed
      | cons gate gates ih =>
        intro hbare
        obtain ⟨hcondition, hgate⟩ := hbare gate List.mem_cons_self
        exact ⟨⟨NodeKind.isTrigger_of_isCondition hcondition, fun _ => hgate⟩,
          ih fun n hn => hbare n (List.mem_cons_of_mem _ hn)⟩
    exact hsteps p.gates hgates
  · refine Graph.kind?_of_nodup (by rw [hnodes]; exact h) ?_
    rw [hnodes, nodes_eq]
    exact List.mem_append_right _ hn
  · have hall := pairwise_rank h
    rw [nodes_eq] at hall
    exact (List.pairwise_append.1 hall).2.1

end Program

end Automation
