import Automation.Proofs.Topology.Acyclic
import Mathlib.Data.List.Count

/-!
# The order of release

The order of release holds all nodes of a set without cycles, each of them once
(`Graph.RankedOn.perm_releaseOrder`), and no edge leads from a node back to one in front of it
(`Graph.pairwise_releaseOrder`).

The invariant of the queue (`Graph.Released`) says what the counts are: how many edges lead to each
node from given nodes that have not been released. The nodes that were released and those that wait
in the queue are therefore the ones whose count has come down to nothing.
-/

namespace Automation

namespace Waiting

/-- The given nodes with their counts. -/
def counts (ids : List String) (f : String → Nat) : Waiting := ids.map fun id => (id, f id)

/-- One is taken off the count of one node. -/
theorem release_counts (id : String) {ids : List String} (h : ids.Nodup) (f : String → Nat) :
    release id (counts ids f)
      = (counts ids fun k => if k = id then f k - 1 else f k, decide (id ∈ ids ∧ f id = 1)) := by
  induction ids with
  | nil => rfl
  | cons key ids ih =>
    obtain ⟨hkey, hids⟩ := List.nodup_cons.1 h
    have hcounts (f : String → Nat) : counts (key :: ids) f = (key, f key) :: counts ids f := rfl
    rw [hcounts, hcounts]
    by_cases heq : key = id
    · subst heq
      -- the key is not among the others, so their counts stay
      have hrest : counts ids f = counts ids fun k => if k = key then f k - 1 else f k :=
        List.map_congr_left fun k hk => by
          have hne : k ≠ key := fun heq => hkey (heq ▸ hk)
          simp [hne]
      rw [← hrest]
      cases hcount : f key with
      | zero => simp [release]
      | succ n => by_cases hn : n = 0 <;> simp [release, hn]
    · simp [release, heq, Ne.symm heq, ih hids]

/-- What is taken off the counts of some nodes, and the nodes whose counts are thereby used up. -/
theorem releaseAll_counts {ids : List String} (h : ids.Nodup) (targets : List String)
    (f : String → Nat) :
    ((counts ids f).releaseAll targets).1 = counts ids (fun k => f k - targets.count k)
      ∧ ((counts ids f).releaseAll targets).2.Nodup
      ∧ ∀ k, k ∈ ((counts ids f).releaseAll targets).2
          ↔ k ∈ ids ∧ 0 < f k ∧ f k ≤ targets.count k := by
  induction targets generalizing f with
  | nil =>
    refine ⟨rfl, List.nodup_nil, fun k => ?_⟩
    simp only [releaseAll, List.not_mem_nil, List.count_nil, false_iff]
    omega
  | cons target targets ih =>
    -- the first target takes one off its count, and the others go on from there
    obtain ⟨hcounts, hnodup, hfree⟩ := ih fun k => if k = target then f k - 1 else f k
    rw [releaseAll, release_counts target h]
    dsimp only
    refine ⟨?_, ?_, fun k => ?_⟩
    · rw [hcounts]
      refine List.map_congr_left fun k _ => ?_
      dsimp only
      rw [List.count_cons]
      by_cases hk : k = target
      · subst hk
        simp only [if_true, beq_self_eq_true, Prod.mk.injEq, true_and]
        omega
      · simp [hk, Ne.symm hk]
    · split
      · -- a node is listed once, as its count is used up when it is
        rename_i hlast
        have hlast := of_decide_eq_true hlast
        refine List.nodup_cons.2 ⟨fun hmem => ?_, hnodup⟩
        have := ((hfree target).1 hmem).2.1
        rw [if_pos rfl] at this
        omega
      · exact hnodup
    · have hrest := hfree k
      rw [List.count_cons]
      by_cases hk : k = target
      · subst hk
        simp only [if_true, beq_self_eq_true] at hrest ⊢
        split
        · -- the count was one, and is used up with this target
          rename_i hlast
          have hlast := of_decide_eq_true hlast
          simp only [List.mem_cons, true_or, true_iff]
          exact ⟨hlast.1, by omega, by omega⟩
        · -- the count was not one, so the later targets decide
          rename_i hlast
          rw [hrest]
          have hlast : ¬ (k ∈ ids ∧ f k = 1) := fun h => hlast (decide_eq_true h)
          constructor
          · rintro ⟨hmem, hpos, hle⟩
            exact ⟨hmem, by omega, by omega⟩
          · rintro ⟨hmem, hpos, hle⟩
            have : f k ≠ 1 := fun hone => hlast ⟨hmem, hone⟩
            exact ⟨hmem, by omega, by omega⟩
      · simp only [if_neg hk, beq_eq_false_iff_ne.2 (Ne.symm hk), Bool.false_eq_true, if_false,
          Nat.add_zero] at hrest ⊢
        split
        · rw [List.mem_cons, hrest]
          simp [hk]
        · exact hrest

end Waiting

namespace Graph

variable {g : Graph} {rank : String → Nat} {ids done : List String}

/-- How many edges lead to a node from given nodes that have not been released. -/
def pending (g : Graph) (ids done : List String) (id : String) : Nat :=
  g.edges.countP fun e => e.target == id && ids.contains e.source && !done.contains e.source

theorem pending_eq_zero {id : String} : g.pending ids done id = 0
    ↔ ∀ e ∈ g.edges, e.target = id → e.source ∈ ids → e.source ∈ done := by
  simp [pending, List.countP_eq_zero]

/-- Releasing a node takes the edges out of it off the counts. -/
theorem pending_append {id : String} (hmem : id ∈ ids) (hnew : id ∉ done) (k : String) :
    g.pending ids (done ++ [id]) k
      = g.pending ids done k - ((g.outEdges id).map (·.target)).count k := by
  have hout : ((g.outEdges id).map (·.target)).count k
      = g.edges.countP fun e => e.source == id && e.target == k := by
    rw [List.count, List.countP_map, outEdges, List.countP_append, Nat.add_comm,
      ← List.countP_eq_countP_filter_add, outgoing, List.countP_filter]
    refine List.countP_congr fun e _ => ?_
    simp [and_comm]
  -- an edge to the node counts for the new node, or goes on counting
  have hsplit : g.pending ids (done ++ [id]) k + g.edges.countP (fun e => e.source == id
      && e.target == k) = g.pending ids done k := by
    unfold pending
    induction g.edges with
    | nil => rfl
    | cons e es ih =>
      simp only [List.countP_cons]
      by_cases hsource : e.source = id
      · by_cases htarget : e.target = k
        · simp_all
          omega
        · simp_all
      · by_cases hdone : e.source ∈ done
        · simp_all
        · simp_all
          omega
  rw [hout]
  omega

/-- The queue of free nodes once some have been released: the counts are those of the edges that are
pending, and the nodes that are free are those without any. -/
structure Released (g : Graph) (ids done : List String) (w : Waiting) (queue : List String) : Prop
    where
  counts : w = Waiting.counts ids (g.pending ids done)
  nodup : (done ++ queue).Nodup
  free : ∀ id, id ∈ done ++ queue ↔ id ∈ ids ∧ g.pending ids done id = 0

/-- Releasing the first free node keeps the invariant. -/
theorem Released.release (hids : ids.Nodup) {w : Waiting} {id : String} {queue : List String}
    (h : Released g ids done w (id :: queue)) :
    Released g ids (done ++ [id]) (w.releaseAll ((g.outEdges id).map (·.target))).1
      (queue ++ (w.releaseAll ((g.outEdges id).map (·.target))).2) := by
  obtain ⟨rfl, hnodup, hfree⟩ := h
  obtain ⟨hcounts, hnext, hmem⟩ := Waiting.releaseAll_counts hids ((g.outEdges id).map (·.target))
    (g.pending ids done)
  have hid := ((hfree id).1 (List.mem_append_right _ List.mem_cons_self)).1
  have hnew : id ∉ done := fun hdone =>
    (List.nodup_append'.1 hnodup).2.2 hdone List.mem_cons_self
  have happend : done ++ [id] ++ (queue ++ ((Waiting.counts ids (g.pending ids done)).releaseAll
      ((g.outEdges id).map (·.target))).2) = (done ++ id :: queue)
      ++ ((Waiting.counts ids (g.pending ids done)).releaseAll ((g.outEdges id).map (·.target))).2 := by
    simp
  refine ⟨?_, ?_, fun k => ?_⟩
  · rw [hcounts]
    exact List.map_congr_left fun k _ => by rw [pending_append hid hnew]
  · rw [happend]
    refine List.nodup_append'.2 ⟨hnodup, hnext, fun k hk hk' => ?_⟩
    -- what was free before has no edges left that could be taken off
    have := ((hfree k).1 hk).2
    have := ((hmem k).1 hk').2.1
    omega
  · rw [happend, List.mem_append, hfree, hmem, pending_append hid hnew]
    constructor
    · rintro (⟨hk, hzero⟩ | ⟨hk, -, hle⟩)
      · exact ⟨hk, by omega⟩
      · exact ⟨hk, by omega⟩
    · -- a node without pending edges was free before, or has just lost its last one
      rintro ⟨hk, hzero⟩
      by_cases hpending : g.pending ids done k = 0
      · exact .inl ⟨hk, hpending⟩
      · exact .inr ⟨hk, by omega, by omega⟩

/-- What the queue releases, behind what was released before: each node once, all nodes without
pending edges, and none in front of a node that leads to it. -/
theorem Released.of_releaseFrom (hids : ids.Nodup) (w : Waiting) (queue : List String) :
    ∀ done, Released g ids done w queue → Released g ids (done ++ g.releaseFrom w queue) (Waiting.counts ids
        (g.pending ids (done ++ g.releaseFrom w queue))) []
      ∧ (g.releaseFrom w queue).Pairwise fun a b => ∀ e ∈ g.edges, e.target = a → e.source ≠ b := by
  -- on the releases, with what was released before them
  induction w, queue using releaseFrom.induct g with
  | case1 w =>
    rintro done ⟨-, hnodup, hfree⟩
    rw [releaseFrom, List.append_nil]
    exact ⟨⟨rfl, hnodup, hfree⟩, .nil⟩
  | case2 w id queue next ih =>
    intro done h
    obtain ⟨hdone, hordered⟩ := ih _ (h.release hids)
    rw [releaseFrom]
    rw [List.append_assoc, List.singleton_append] at hdone
    refine ⟨hdone, List.pairwise_cons.2 ⟨fun b hb e he htarget hsource => ?_, hordered⟩⟩
    subst hsource
    obtain ⟨-, hnodup, hfree⟩ := hdone
    rw [List.append_nil] at hnodup hfree
    -- the source of an edge to the id that comes first would be waited for and not yet released
    have hmem := ((hfree e.source).1 (List.mem_append_right _ (List.mem_cons_of_mem _ hb))).1
    have hzero := ((h.free id).1 (List.mem_append_right _ List.mem_cons_self)).2
    exact (List.nodup_append'.1 hnodup).2.2 (pending_eq_zero.1 hzero e he htarget hmem)
      (List.mem_cons_of_mem _ hb)

/-- The queue that the order of release starts with. -/
theorem released_releaseOrder (hids : ids.Nodup) :
    Released g ids (g.releaseOrder ids) (Waiting.counts ids (g.pending ids (g.releaseOrder ids))) []
      ∧ (g.releaseOrder ids).Pairwise fun a b => ∀ e ∈ g.edges, e.target = a → e.source ≠ b := by
  -- at the start all edges are pending, which is what the counts begin with
  have hpending (id : String) : (g.edges.filter fun e => e.target == id
      && ids.contains e.source).length = g.pending ids [] id := by
    rw [pending, ← List.countP_eq_length_filter]
    exact List.countP_congr fun e _ => by simp
  have hfree (id : String) : id ∈ (((Waiting.counts ids (g.pending ids [])).filter (·.2 == 0)).map
      (·.1)) ↔ id ∈ ids ∧ g.pending ids [] id = 0 := by
    simp [Waiting.counts]
  have hnodup : (((Waiting.counts ids (g.pending ids [])).filter (·.2 == 0)).map (·.1)).Nodup := by
    refine (List.filter_sublist.map _).nodup ?_
    rw [Waiting.counts, List.map_map]
    exact (List.map_id ids).symm ▸ hids
  have hstart : Released g ids [] (Waiting.counts ids (g.pending ids []))
      ((((Waiting.counts ids (g.pending ids [])).filter (·.2 == 0)).map (·.1)).mergeSort
        fun a b => decide (a ≤ b)) := by
    refine ⟨rfl, (List.mergeSort_perm _ _).nodup_iff.2 hnodup, fun id => ?_⟩
    rw [List.nil_append, List.mem_mergeSort, hfree]
  have horder := Released.of_releaseFrom hids _ _ [] hstart
  unfold releaseOrder
  dsimp only
  simp only [hpending]
  exact horder

/-- No edge leads from a node back to one that is released in front of it. -/
theorem pairwise_releaseOrder (hids : ids.Nodup) :
    (g.releaseOrder ids).Pairwise fun a b => ∀ e ∈ g.edges, e.target = a → e.source ≠ b :=
  (released_releaseOrder hids).2

/-- All nodes of a set without cycles are released, each of them once. -/
theorem RankedOn.perm_releaseOrder (hg : g.RankedOn ids rank) (hids : ids.Nodup) :
    (g.releaseOrder ids).Perm ids := by
  obtain ⟨⟨-, hnodup, hfree⟩, -⟩ := released_releaseOrder (g := g) hids
  rw [List.append_nil] at hnodup hfree
  have hall : ∀ n id, rank id < n → id ∈ ids → id ∈ g.releaseOrder ids := by
    intro n
    induction n with
    | zero => exact fun id hlt => absurd hlt (Nat.not_lt_zero _)
    | succ n ih =>
      intro id hlt hid
      refine (hfree id).2 ⟨hid, pending_eq_zero.2 fun e he htarget hsource => ?_⟩
      have := hg e he hsource
      rw [htarget] at this
      exact ih e.source (by omega) hsource
  exact (List.perm_ext_iff_of_nodup hnodup hids).2 fun id =>
    ⟨fun h => ((hfree id).1 h).1, hall _ id (Nat.lt_succ_self _)⟩

end Graph

end Automation
