import Automation.Graph.Sharing
import Automation.Proofs.Program.Fitting
import Automation.Proofs.Value.Origins

/-!
# Graphs with their payloads apart

Marking the payloads of a graph apart changes nothing that a walk over the graph looks at: the ids
and kinds of nodes (`Graph.kind?_apart`), the edges, and whether a condition is a gate
(`Graph.isGate_apart`). So the marked graph is well formed when the graph is, and what fits into
some levels of blocks still does (`Graph.Fits.apart`).
-/

namespace Automation

namespace Graph

variable {g : Graph}

/-- What a look-up gives in a graph and in the marked graph. -/
theorem exists_lastNode?_apart (g : Graph) (id : String) : ∃ o : Option (Node × Nat),
    g.lastNode? id = o.map (·.1) ∧ g.apart.lastNode? id = o.map fun n => n.1.apart n.2 := by
  refine ⟨g.nodes.zipIdx.reverse.find? fun n => n.1.id == id, ?_, ?_⟩
  · have hnodes : g.nodes = g.nodes.zipIdx.map (·.1) := (List.zipIdx_map_fst 0 g.nodes).symm
    unfold lastNode?
    conv_lhs => rw [hnodes]
    rw [← List.map_reverse, List.find?_map]
    rfl
  · unfold lastNode? apart
    dsimp only
    rw [← List.map_reverse, List.find?_map]
    rfl

/-- A node of the graph apart is found where the node was. -/
theorem lastNode?_apart {id : String} {n : Node} (h : g.lastNode? id = some n) :
    ∃ i, g.apart.lastNode? id = some (n.apart i) := by
  obtain ⟨o, hnode, hapart⟩ := g.exists_lastNode?_apart id
  rw [h] at hnode
  obtain ⟨⟨m, i⟩, rfl, rfl⟩ := Option.map_eq_some_iff.1 hnode.symm
  exact ⟨i, hapart⟩

@[simp] theorem kind?_apart (id : String) : g.apart.kind? id = g.kind? id := by
  obtain ⟨o, hnode, hapart⟩ := g.exists_lastNode?_apart id
  rw [kind?, hapart, kind?, hnode, Option.map_map, Option.map_map]
  rfl

/-- A node apart is a gate just if the node is. -/
theorem isGate_apart (n : Node) (i : Nat) : g.apart.isGate (n.apart i) = g.isGate n := by
  have hlabel : (n.apart i).label.truthy = n.label.truthy := Value.truthy_mapOrigin _ _
  have hflags : (n.apart i).flags.isEmpty = n.flags.isEmpty := by
    show (Value.mapEntries _ n.flags).isEmpty = _
    rw [Value.mapEntries_eq_map, List.isEmpty_map]
  unfold isGate
  rw [hlabel, hflags]
  rfl

/-- A marked graph is well formed when the graph is. -/
theorem WellFormed.apart (h : g.WellFormed) : g.apart.WellFormed := by
  have hids := g.apart_ids
  have hhas {id : String} (hid : ∃ n ∈ g.nodes, n.id = id) : id ∈ g.apart.nodes.map (·.id) := by
    obtain ⟨n, hn, rfl⟩ := hid
    rw [hids]
    exact List.mem_map_of_mem hn
  refine h.of_part ?_ (fun m hm => ?_) ?_ (List.Subperm.refl _) fun e he => ?_
  · rw [hids]
    exact h.nodup
  · obtain ⟨⟨n, i⟩, hn, rfl⟩ := List.mem_map.1 hm
    exact ⟨n, List.fst_mem_of_mem_zipIdx hn, rfl, rfl⟩
  · obtain ⟨n, hn, htrigger⟩ := h.exists_trigger
    obtain ⟨i, hi⟩ := lastNode?_apart (h.lastNode?_of_mem hn)
    exact ⟨n.apart i, (mem_of_lastNode?_eq_some hi).1, htrigger⟩
  · obtain ⟨-, m, hm, n, hn, hsource, htarget, -⟩ := h.edge he
    exact ⟨hhas ⟨m, hm, hsource.symm⟩, hhas ⟨n, hn, htarget.symm⟩⟩

theorem NoExit.apart (h : g.NoExit) : g.apart.NoExit := by
  intro n hn
  obtain ⟨⟨m, i⟩, hm, rfl⟩ := List.mem_map.1 hn
  exact h m (List.fst_mem_of_mem_zipIdx hm)

/-- A walk over the marked graph fits into the same levels. -/
theorem Fits.apart {t : JoinTable} {further : Bool} {levels : Nat} {current stop : Option String}
    {ids : List String} (h : Fits g t further levels current stop ids) :
    Fits g.apart t further levels current stop ids := by
  induction h with
  | ended => exact .ended _ _
  | stop => exact .stop _ _
  | @step _ n _ _ hstop hnode hcondition _ ih =>
    obtain ⟨i, hi⟩ := lastNode?_apart hnode
    exact .step (n := n.apart i) hstop hi hcondition ih
  | @gate _ n _ _ hnode hgate hjoin hend _ ih =>
    obtain ⟨i, hi⟩ := lastNode?_apart hnode
    exact .gate (n := n.apart i) hi ((isGate_apart n i).trans hgate) hjoin hend ih
  | @branch _ n _ _ _ _ _ hstop hnode hcondition hgate hjoin _ _ _ ihBehind ihTrue ihFalse =>
    obtain ⟨i, hi⟩ := lastNode?_apart hnode
    exact .branch (n := n.apart i) hstop hi hcondition ((isGate_apart n i).trans hgate) hjoin ihBehind
      ihTrue ihFalse
  | last _ ih => exact .last ih
  | @further _ n _ _ _ hstop hnode hcondition hflags hincoming hjoin _ _ ihTrue ihFalse =>
    obtain ⟨i, hi⟩ := lastNode?_apart hnode
    -- a copy of a mapping without entries has none
    have hflags : (n.apart i).flags = [] := by
      show Value.mapEntries _ n.flags = []
      rw [hflags]
      rfl
    exact .further (n := n.apart i) hstop hi hcondition hflags hincoming hjoin ihTrue ihFalse

end Graph

end Automation
