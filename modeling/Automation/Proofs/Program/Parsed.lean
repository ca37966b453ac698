import Automation.Proofs.Entry
import Automation.Proofs.Program.Numbering
import Automation.Proofs.Program.Order

/-!
# Programs that are read

What every graph that is made of a program that was read keeps to (`Program.Parsed`): its blocks
stand in the graph as a reading makes them, and no node is named for the end of a run. All triggers
lead to where the blocks start, from there edges lead to every block (`Program.Parsed.reaches`), and
every node of a block has a join, which is the nearest place that all runs behind it pass
(`Program.Parsed.exists_joins`).
-/

namespace Automation

namespace Program

variable {limits : Limits}

mutual
/-- A block that is read is as a reading makes it. -/
theorem EntryRead.formed {levels : Nat} {place : Place} {entry : Value}
    {created after : List NodeKind} {b : Block} :
    EntryRead limits levels place entry created b after → Block.Formed b
  | .step _ hkind _ => ⟨Entry.isTrigger_of_kind hkind, fun _ => ⟨rfl, rfl⟩⟩
  | .gate _ _ _ => ⟨rfl, fun _ => ⟨rfl, rfl⟩⟩
  | .ifBlock _ _ _ hthen helse => by
    refine ⟨by simp, ⟨rfl, ListRead.formed hthen, trivial⟩, ListRead.formed helse⟩
  | .chooseBlock _ _ hoptions hdefault => by
    obtain ⟨hformed, hflags, -⟩ := OptionsRead.formed hoptions
    exact ⟨hflags, hformed, ListRead.formed hdefault⟩

theorem ListRead.formed {levels : Nat} {place : Place} {i : Nat} {entries : List Value}
    {created after : List NodeKind} {bs : List Block} :
    ListRead limits levels place i entries created bs after → Block.ListFormed bs
  | .nil => trivial
  | .cons hentry hrest => ⟨EntryRead.formed hentry, ListRead.formed hrest⟩

/-- Options that are read have conditions, and none but the first has flags. -/
theorem OptionsRead.formed {levels : Nat} {place : Place} {i : Nat} {flags : Entries}
    {options : List Value} {created after : List NodeKind} {read : List (Node × List Block)} :
    OptionsRead limits levels place i flags options created read after →
    Block.OptionsFormed read ∧ (∀ o ∈ read.tail, o.1.flags = [])
      ∧ (flags = [] → ∀ o ∈ read, o.1.flags = [])
  | .nil => ⟨trivial, by simp, by simp⟩
  | .cons _ _ _ hbody hrest => by
    obtain ⟨hformed, -, hflags⟩ := OptionsRead.formed hrest
    exact ⟨⟨rfl, ListRead.formed hbody, hformed⟩, hflags rfl,
      fun h => List.forall_mem_cons.2 ⟨h, hflags rfl⟩⟩
end

/-- The first letter of a name that is given to a node is that of its kind. -/
theorem Numbered.ne_exitName {created : List NodeKind} {ns : List Node} (h : Numbered created ns)
    {n : Node} (hn : n ∈ ns) : n.id ≠ exitName := by
  obtain ⟨hknown, before, hid⟩ := h.exists_of_mem hn
  rw [hid]
  intro heq
  have hlist := congrArg String.toList heq
  unfold nameOf at hlist
  rw [String.toList_append, String.toList_append] at hlist
  cases hkind : n.kind <;> rw [hkind] at hlist hknown <;> first
    | (cases hknown; done)
    | exact absurd (List.cons.inj hlist).1 (by decide)

theorem mem_freshNodes {kind : NodeKind} {datas : List Entries} {created : List NodeKind} {n : Node}
    (h : n ∈ freshNodes kind created datas) : n.kind = kind ∧ n.label = .null ∧ n.flags = [] := by
  induction datas generalizing created with
  | nil => cases h
  | cons data datas ih =>
    rcases List.mem_cons.1 h with rfl | h
    · exact ⟨rfl, rfl, rfl⟩
    · exact ih h

theorem map_data_freshNodes (kind : NodeKind) (created : List NodeKind) (datas : List Entries) :
    (freshNodes kind created datas).map (·.data) = datas := by
  induction datas generalizing created with
  | nil => rfl
  | cons data datas ih => rw [freshNodes, List.map_cons, ih, fresh]

/-- A graph that is made of a program that was read, once it has been checked. -/
structure Parsed (p : Program) (g : Graph) : Prop where
  nodes : g.nodes = p.nodes
  edges : g.edges = p.edges
  wellFormed : g.WellFormed
  noExit : g.NoExit
  standing : Block.Standing g p.rank p.blocks none
  isTrigger : ∀ t ∈ p.triggers, t.kind.isTrigger = true
  gates : ∀ n ∈ p.gates, n.kind.isCondition = true

variable {p : Program} {g : Graph}

/-- A well-formed graph with the nodes and edges of a program that was read. -/
theorem SectionsRead.parsed {triggers actions : List Entries} {conditions : List Value}
    (h : SectionsRead limits triggers conditions actions p) (hnodes : g.nodes = p.nodes)
    (hedges : g.edges = p.edges) (hwf : g.WellFormed) : Parsed p g := by
  obtain ⟨after, hbody⟩ := h.body
  have hgates : ∀ n ∈ p.gates, n.kind.isCondition = true ∧ n.label.truthy = false ∧ n.flags = [] := by
    obtain ⟨tests, -, hgates⟩ := h.gates
    intro n hn
    rw [hgates] at hn
    obtain ⟨hkind, hlabel, hflags⟩ := mem_freshNodes hn
    rw [hkind, hlabel]
    exact ⟨rfl, rfl, hflags⟩
  refine ⟨hnodes, hedges, hwf, fun n hn => ?_,
    standing hnodes hedges h.nodup hbody.formed hgates, fun t ht => ?_, fun n hn => (hgates n hn).1⟩
  · rw [hnodes] at hn
    exact h.numbered.ne_exitName hn
  · rw [h.triggers] at ht
    rw [(mem_freshNodes ht).1]
    rfl

namespace Parsed

variable (h : Parsed p g)

include h

theorem ranked : g.Ranked p.rank :=
  Program.ranked h.edges (h.nodes ▸ h.wellFormed.nodup)

theorem triggers : g.triggers = p.triggers := by
  have hblocks : (Block.listNodes p.blocks).filter (·.kind.isTrigger) = [] :=
    List.filter_eq_nil_iff.2 fun n hn => by
      rw [Block.isTrigger_of_mem_listNodes h.standing.formed n hn]
      decide
  rw [Graph.triggers, h.nodes, nodes_eq, List.filter_append, hblocks, List.append_nil,
    List.filter_eq_self.2 h.isTrigger]

/-- All triggers lead to where the blocks start. -/
theorem successor? {t : Node} (ht : t ∈ p.triggers) :
    g.successor? t.id = Block.listFirst none p.blocks := by
  rw [listFirst_blocks]
  exact (followedBy_of_edges_eq h.edges (h.nodes ▸ h.wellFormed.nodup)).triggers t ht

/-- There is a path to every node. -/
theorem reaches {n : Node} (hn : n ∈ g.nodes) : g.Reaches n.id := by
  obtain ⟨t, ht, htrigger⟩ := h.wellFormed.exists_trigger
  have ht : t ∈ g.triggers := List.mem_filter.2 ⟨ht, htrigger⟩
  -- what is reached is closed under edges, and blocks start where a trigger leads
  have hall := (h.standing.closed (S := g.Reaches) (fun e he => .edge he) fun x hx => by
    rw [← h.successor? (h.triggers ▸ ht)] at hx
    obtain ⟨e, he, hsource, rfl⟩ := Graph.exists_edge_of_successor? hx
    exact .edge he (hsource ▸ .trigger ht)).1
  rw [h.nodes, nodes_eq] at hn
  rcases List.mem_append.1 hn with hn | hn
  · exact .trigger (h.triggers ▸ hn)
  · exact hall n hn

/-- Edges lead to nodes of the blocks. -/
theorem exists_target {e : Edge} (he : e ∈ g.edges) :
    ∃ n ∈ Block.listNodes p.blocks, n.id = e.target := by
  obtain ⟨-, -, -, n, hn, -, htarget, htrigger⟩ := h.wellFormed.edge he
  rw [h.nodes, nodes_eq] at hn
  refine ⟨n, (List.mem_append.1 hn).resolve_left fun hn => ?_, htarget.symm⟩
  rw [h.isTrigger n hn] at htrigger
  cases htrigger

/-- The nodes that a run goes through are those of the blocks. -/
theorem mem_body_iff {id : String} :
    (∃ n ∈ g.nodes, n.id = id ∧ n.kind.isTrigger = false ∧ g.Reaches id)
      ↔ id ∈ (Block.listNodes p.blocks).map (·.id) := by
  constructor
  · rintro ⟨n, hn, rfl, hno, -⟩
    rw [h.nodes, nodes_eq] at hn
    rcases List.mem_append.1 hn with hn | hn
    · rw [h.isTrigger n hn] at hno
      cases hno
    · exact List.mem_map_of_mem hn
  · intro hid
    obtain ⟨n, hn, rfl⟩ := List.mem_map.1 hid
    have hmem : n ∈ g.nodes := by
      rw [h.nodes, nodes_eq]
      exact List.mem_append_right _ hn
    exact ⟨n, hmem, rfl, Block.isTrigger_of_mem_listNodes h.standing.formed n hn, h.reaches hmem⟩

/-- The table of the joins: a row for each node of the blocks, with the nearest place that every run
behind the node passes. -/
theorem exists_joins : ∃ ids t, g.body = .ok ids ∧ g.joins ids = .ok t ∧ JoinTable.Exact g t
    ∧ ∀ id, id ∈ t.map (·.id) ↔ id ∈ (Block.listNodes p.blocks).map (·.id) := by
  obtain ⟨ids, t, hbody, ht, hexact, hids⟩ := h.ranked.exists_bodyJoins h.wellFormed h.noExit
  exact ⟨ids, t, hbody, ht, hexact, fun id => (hids id).trans h.mem_body_iff⟩

end Parsed

end Program

end Automation
