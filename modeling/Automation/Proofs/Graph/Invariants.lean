import Automation.Proofs.Graph.Structure
import Automation.Proofs.Text.Plain

/-!
# The invariants of a graph, one by one

What a graph has to keep is said here without the lists of problems (`Graph.Lawful`): how its nodes
are named, of which kinds they are, and where edges lead and how they branch. The check finds no
problem exactly in the graphs that keep all of it, where it takes a name with a line feed behind it
for a name (`Graph.problems_eq_nil_iff`). Names of id characters alone would leave out such a graph
(`Graph.problems_lineFeedLamp`).
-/

namespace Automation

/-- An id is a name of id characters, or such a name with a line feed behind it. -/
theorem Text.isId_iff {s : String} : isId s = true ↔
    IsName s.toList ∨ ∃ name, IsName name ∧ s.toList = name ++ ['\n'] := by
  have hname (cs : List Char) : (!cs.isEmpty && cs.all isIdChar) = true ↔ IsName cs := by
    simp [IsName]
  unfold isId dropFinalBreak
  dsimp only
  rw [hname]
  split
  · rename_i hlast
    obtain ⟨name, hsplit⟩ := List.getLast?_eq_some_iff.1 hlast
    rw [hsplit, List.dropLast_concat]
    refine ⟨fun h => .inr ⟨name, h, rfl⟩, ?_⟩
    rintro (h | ⟨name', h, heq⟩)
    · -- a line feed is no id character
      exact absurd (h.2 '\n' (by simp)) (by decide)
    · rwa [(List.append_inj' heq rfl).1]
  · rename_i hlast
    refine ⟨.inl, ?_⟩
    rintro (h | ⟨name, -, heq⟩)
    · exact h
    · exact absurd (by rw [heq, List.getLast?_concat]) hlast

namespace Graph

/-- What a graph keeps whose nodes are named as they may be: ids are told apart and none is the end
state, kinds are known, and there is a trigger; edges join nodes and enter no trigger; a condition
has edges of its two handles only, at most one of each, and any other node has at most one edge. -/
structure Lawful (legal : String → Prop) (g : Graph) : Prop where
  distinct : (g.nodes.map (·.id)).Nodup
  legal : ∀ n ∈ g.nodes, legal n.id
  unreserved : ∀ n ∈ g.nodes, n.id ≠ endState
  kind : ∀ n ∈ g.nodes, n.kind.isKnown = true
  trigger : ∃ n ∈ g.nodes, n.kind.isTrigger = true
  source : ∀ e ∈ g.edges, ∃ n ∈ g.nodes, n.id = e.source
  target : ∀ e ∈ g.edges, ∃ n ∈ g.nodes, n.id = e.target ∧ n.kind.isTrigger = false
  handle : ∀ n ∈ g.nodes, n.kind.isCondition = true → ∀ e ∈ g.outgoing n.id,
    e.handle = some handleTrue ∨ e.handle = some handleFalse
  outcome : ∀ n ∈ g.nodes, n.kind.isCondition = true → ∀ handle,
    (g.outgoing n.id).countP (·.handle == some handle) ≤ 1
  step : ∀ n ∈ g.nodes, n.kind.isCondition = false → (g.outgoing n.id).length ≤ 1

variable {g : Graph}

/-! ## Branching -/

/-- A condition branches without problems exactly when its edges have its two handles, each at most
once. -/
theorem branchingProblems_condition {id : String} (h : g.isConditionAt id = true)
    (edges : List Edge) : g.branchingProblems id (edges.map fun e => e.handle.getD "") = [] ↔
      (∀ e ∈ edges, e.handle = some handleTrue ∨ e.handle = some handleFalse)
        ∧ ∀ handle, edges.countP (·.handle == some handle) ≤ 1 := by
  -- a missing handle is read as the empty name, and neither of the two handles is empty
  have hcount (handle : String) (hne : handle ≠ "") :
      (edges.map fun e => e.handle.getD "").count handle
        = edges.countP (·.handle == some handle) := by
    rw [List.count, List.countP_map]
    refine List.countP_congr fun e _ => ?_
    cases hhandle : e.handle <;> simp [hhandle, Ne.symm hne]
  rw [branchingProblems, if_pos h, List.append_eq_nil_iff, List.map_eq_nil_iff,
    List.map_eq_nil_iff, List.filter_eq_nil_iff, List.filter_eq_nil_iff]
  constructor
  · rintro ⟨hforeign, hrepeated⟩
    have hhandles : ∀ e ∈ edges, e.handle = some handleTrue ∨ e.handle = some handleFalse := by
      intro e he
      have hknown := hforeign _ (List.mem_map_of_mem he)
      cases hhandle : e.handle with
      | none => exact absurd (by rw [hhandle]; decide) hknown
      | some handle =>
        rw [hhandle, Option.getD_some] at hknown
        rw [Option.some_inj, Option.some_inj]
        by_contra hne
        rw [not_or] at hne
        exact hknown (by simp [hne])
    refine ⟨hhandles, fun handle => ?_⟩
    by_cases hmem : handle ∈ [handleTrue, handleFalse]
    · have hfew := hrepeated handle hmem
      rw [hcount handle (by rintro rfl; exact absurd hmem (by decide))] at hfew
      simpa using hfew
    · -- no edge has a third handle
      rw [List.countP_eq_zero.2 fun e he heq => hmem ?_]
      · exact Nat.zero_le _
      · rcases hhandles e he with hhandle | hhandle <;> simp_all
  · rintro ⟨hhandles, hfew⟩
    refine ⟨fun handle hmem => ?_, fun handle hmem => ?_⟩
    · obtain ⟨e, he, rfl⟩ := List.mem_map.1 hmem
      rcases hhandles e he with heq | heq <;> simp [heq]
    · have hone := hfew handle
      rw [hcount handle (by rintro rfl; exact absurd hmem (by decide))]
      simpa using hone

/-- Any other node branches without problems exactly when it does not branch. -/
theorem branchingProblems_step {id : String} (h : g.isConditionAt id = false)
    (handles : List String) : g.branchingProblems id handles = [] ↔ handles.length ≤ 1 := by
  rw [branchingProblems, if_neg (by simp [h])]
  by_cases hlong : 1 < handles.length
  · simp [hlong]
  · simp [Nat.le_of_not_lt hlong]

/-! ## All invariants -/

theorem WellFormed.lawful (h : g.WellFormed) : g.Lawful fun id => Text.isId id = true := by
  have hbranching (n : Node) (hn : n ∈ g.nodes) :
      g.branchingProblems n.id ((g.outgoing n.id).map fun e => e.handle.getD "") = [] := by
    -- the check looks only at nodes that edges lead out of, and others have nothing to violate
    cases hout : g.outgoing n.id with
    | nil =>
      unfold branchingProblems
      split <;> rfl
    | cons e rest =>
      obtain ⟨he, hsource⟩ := mem_outgoing.1 (hout ▸ List.mem_cons_self)
      have hnone := h.branching he
      rwa [hsource, hout] at hnone
  have hcondition (n : Node) (hn : n ∈ g.nodes) (hkind : n.kind.isCondition = true) :=
    (branchingProblems_condition (h.isConditionAt_of_mem hn ▸ hkind) _).1 (hbranching n hn)
  refine ⟨h.nodup, fun n hn => h.isId hn, fun n hn => h.ne_endState hn, fun n hn => h.isKnown hn,
    h.exists_trigger, fun e he => ?_, fun e he => ?_, fun n hn hkind => (hcondition n hn hkind).1,
    fun n hn hkind => (hcondition n hn hkind).2, fun n hn hkind => ?_⟩
  · obtain ⟨-, m, hm, -, -, hsource, -⟩ := h.edge he
    exact ⟨m, hm, hsource.symm⟩
  · obtain ⟨-, -, -, n, hn, -, htarget, htrigger⟩ := h.edge he
    exact ⟨n, hn, htarget.symm, htrigger⟩
  · have hone := (branchingProblems_step (h.isConditionAt_of_mem hn ▸ hkind) _).1 (hbranching n hn)
    rwa [List.length_map] at hone

theorem Lawful.wellFormed (h : g.Lawful fun id => Text.isId id = true) : g.WellFormed := by
  have hhas {id : String} (hid : ∃ n ∈ g.nodes, n.id = id) : g.hasNode id = true := by
    obtain ⟨n, hn, rfl⟩ := hid
    exact List.any_eq_true.2 ⟨n, hn, beq_self_eq_true _⟩
  -- the check passes over edges whose ends are unknown, and there are none
  have hjoined : g.edges.filter g.isJoined = g.edges := List.filter_eq_self.2 fun e he => by
    obtain ⟨n, hn, htarget, -⟩ := h.target e he
    rw [isJoined, hhas (h.source e he), hhas ⟨n, hn, htarget⟩]
    rfl
  refine wellFormed_of_parts ?_ ?_ ?_ ?_
  · refine nodeProblems_eq_nil h.distinct fun n hn => ⟨List.not_mem_nil, ?_, h.unreserved n hn,
      h.legal n hn, h.kind n hn⟩
    -- the empty name is no legal id
    intro hempty
    have := h.legal n hn
    rw [hempty] at this
    exact absurd this (by decide)
  · obtain ⟨n, hn, htrigger⟩ := h.trigger
    refine List.any_eq_true.2 ⟨n, hn, ?_⟩
    rw [kind?_of_nodup h.distinct hn, Option.any_some, htrigger]
  · intro e he
    obtain ⟨n, hn, htarget, htrigger⟩ := h.target e he
    unfold edgeProblem
    rw [isJoined, hhas (h.source e he), hhas ⟨n, hn, htarget⟩, ← htarget,
      kind?_of_nodup h.distinct hn, Option.any_some, htrigger]
    rfl
  · intro source hsource
    rw [hjoined] at hsource ⊢
    rw [mem_distinct] at hsource
    obtain ⟨e, he, rfl⟩ := List.mem_map.1 hsource
    obtain ⟨n, hn, hid⟩ := h.source e he
    have hat : g.isConditionAt n.id = n.kind.isCondition := by
      rw [isConditionAt, kind?_of_nodup h.distinct hn, Option.any_some]
    rw [← hid]
    cases hkind : n.kind.isCondition with
    | true =>
      exact (branchingProblems_condition (hat.trans hkind) _).2
        ⟨h.handle n hn hkind, h.outcome n hn hkind⟩
    | false =>
      refine (branchingProblems_step (hat.trans hkind) _).2 ?_
      rw [List.length_map]
      exact h.step n hn hkind

/-- The check finds no problem exactly in the graphs that keep the invariants, a line feed behind
the name of a node apart. -/
theorem problems_eq_nil_iff : g.problems = [] ↔ g.Lawful fun id =>
    Text.IsName id.toList ∨ ∃ name, Text.IsName name ∧ id.toList = name ++ ['\n'] := by
  have hids : (fun id : String => Text.IsName id.toList
      ∨ ∃ name, Text.IsName name ∧ id.toList = name ++ ['\n']) = fun id => Text.isId id = true :=
    funext fun id => propext Text.isId_iff.symm
  rw [hids]
  exact ⟨WellFormed.lawful, Lawful.wellFormed⟩

/-- A graph with a line feed behind the name of a node. -/
def lineFeedLamp : Graph where
  nodes := [
    { id := "t1", kind := .trigger,
      data := [(.str "trigger", .str "time"), (.str "at", .str "07:00:00")] },
    { id := "lamp\n", kind := .action, data := [(.str "action", .str "light.turn_on")] }]
  edges := [.between "t1" "lamp\n"]

/-- The check finds nothing wrong with a line feed behind the name of a node. -/
theorem problems_lineFeedLamp : lineFeedLamp.problems = []
    ∧ ¬lineFeedLamp.Lawful fun id => Text.IsName id.toList := by
  refine ⟨by decide +kernel, fun h => ?_⟩
  have hname := h.legal _ (List.mem_cons_of_mem _ List.mem_cons_self)
  exact absurd (hname.2 '\n' (by simp)) (by decide)

end Graph

end Automation
