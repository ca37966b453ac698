import Automation.Proofs.Program.Classification
import Automation.Proofs.Simulation.Run
import Automation.Simulation.GraphRun

/-!
# Disabled blocks

Where a run over the graph of a program goes on when a block is disabled: behind the block
(`Program.Parsed.skips_disabled`), unless a gate stands in one of its branches, whatever the gate
does. Then the run ends, as nothing but the end is sure to come behind the block.
-/

namespace Automation

namespace Block

/-- Blocks start at the first of their nodes. -/
theorem listFirst_none (bs : List Block) : listFirst none bs = (listNodes bs).head?.map (·.id) := by
  have hall : ∀ next, listFirst next bs = ((listNodes bs).head?.map (·.id)).or next := by
    induction bs using Block.induction with
    | nil => exact fun _ => rfl
    | step n bs => exact fun _ => rfl
    | last otherwise bs ihOtherwise ih =>
      intro next
      rw [listNodes_last, List.head?_append]
      show listFirst (listFirst next bs) otherwise = _
      rw [ihOtherwise, ih]
      cases (listNodes otherwise).head? <;> rfl
    | option n body options otherwise bs =>
      intro next
      rw [listNodes_option]
      rfl
  rw [hall, Option.or_none]

end Block

namespace Graph

open Run

/-- At a condition whose block is disabled a run goes on at the join of the condition. -/
theorem start_runFrom_disabled {g : Graph} {joins : List (String × Option String)} {limit : Int}
    {steps : Nat} {n : Node} (hnode : g.lastNode? n.id = some n) (hcondition : n.kind.isCondition = true)
    (hdisabled : (n.flags.get "enabled").isFalse = true) (c : Context) :
    start (g.runFrom joins limit (steps + 1) (some n.id)) c
      = start (g.runFrom joins limit steps ((joins.find? (·.1 == n.id)).map (·.2)).join)
          { c with trace := c.trace ++ [.str n.id] } := by
  rw [runFrom_some hnode, runNode_disabled hcondition hdisabled, pure_bind]
  simp only [start_bind, start_visit]

end Graph

namespace Program.Parsed

open Block

variable {p : Program} {g : Graph} (h : Parsed p g)

include h

/-- The joins of a graph, which are none where the run ends. -/
theorem exists_blockJoins : ∃ joins t, g.blockJoins = .ok joins ∧ JoinTable.Exact g t
    ∧ ∀ n ∈ listNodes p.blocks, n.kind.isCondition = true → ∃ join, t.join? n.id = some join
      ∧ ((joins.find? (·.1 == n.id)).map (·.2)).join = Graph.place join := by
  obtain ⟨ids, t, hbody, hjoins, hexact, ht⟩ := h.exists_joins
  have hblock : g.blockJoins = .ok ((t.reverse.filter fun row => g.isConditionAt row.id).map
      fun row => (row.id, Graph.place row.join)) := by
    unfold Graph.blockJoins
    rw [h.ranked.forward_eq, hbody, Outcome.ok_bind, hjoins, Outcome.ok_bind]
    rfl
  refine ⟨_, t, hblock, hexact, fun n hn hcondition => ?_⟩
  obtain ⟨row, hrow, hid⟩ := List.mem_map.1 ((ht n.id).2 (List.mem_map_of_mem hn))
  refine ⟨row.join, hid ▸ JoinTable.join?_of_mem hexact.nodup hrow, ?_⟩
  have hat : g.isConditionAt row.id = true := by
    rw [hid, Graph.isConditionAt, h.standing.kinds n hn, Option.any_some, hcondition]
  -- the table has one row for a node, so the one that is found is that row
  rw [find?_eq_some_of_unique (x := (row.id, Graph.place row.join)) ?_ (by simpa using hid) ?_]
  · rfl
  · exact List.mem_map.2 ⟨row, List.mem_filter.2 ⟨List.mem_reverse.2 hrow, hat⟩, rfl⟩
  · intro other hother hsame
    obtain ⟨row', hrow', rfl⟩ := List.mem_map.1 hother
    have hmem := List.mem_reverse.1 (List.mem_filter.1 hrow').1
    rw [List.inj_on_of_nodup_map hexact.nodup hmem hrow ((beq_iff_eq.1 hsame).trans hid.symm)]

/-- At a choice that is disabled a run goes on behind the choice, and ends there when a gate stands
in one of the branches. -/
theorem skips_disabled {n : Node} {body otherwise rest : List Block}
    {options : List (Node × List Block)} {place : Option String}
    (hwithin : Within p.blocks none (.choice ((n, body) :: options) otherwise :: rest) place)
    (hdisabled : (n.flags.get "enabled").isFalse = true) :
    ∃ joins, g.blockJoins = .ok joins ∧ ∀ limit steps c,
      Run.start (g.runFrom joins limit (steps + 1) (some n.id)) c
        = Run.start (g.runFrom joins limit steps
          (if gated (.choice ((n, body) :: options) otherwise) then none else listFirst place rest))
          { c with trace := c.trace ++ [.str n.id] } := by
  obtain ⟨joins, t, hjoins, hexact, hfind⟩ := h.exists_blockJoins
  obtain ⟨hstanding, hend⟩ := hwithin.standing h.standing .here
  have hn : n ∈ listNodes p.blocks := hwithin.subset <| by
    rw [listNodes_option]
    exact List.mem_cons_self
  have hcondition := hstanding.head.of_option.2.1
  obtain ⟨join, hjoin, hskip⟩ := hfind n hn hcondition
  -- where the branches meet again is the join, which the table has for the condition
  have hplace := h.ranked.place_join hexact hjoin
    (hstanding.head.meetsAt h.ranked (hstanding.tail.passes (fun _ => rfl) hend))
  refine ⟨joins, hjoins, fun limit steps c => ?_⟩
  rw [Graph.start_runFrom_disabled (h.wellFormed.lastNode?_of_mem (h.mem_nodes hn)) hcondition
    hdisabled, hskip, hplace]

end Program.Parsed

end Automation
