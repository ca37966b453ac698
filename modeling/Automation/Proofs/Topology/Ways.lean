import Automation.Proofs.Topology.Nearest
import Mathlib.Data.Finset.Card
import Mathlib.Logic.Relation

/-!
# Joins and the ways to the end

A way lists the places that one run goes through, up to its end (`Graph.Way`). In a set of nodes
without cycles that no edge leaves, what every run passes lies on all ways (`Graph.Passes.mem_way`),
and what lies on all ways every run passes (`Graph.RankedOn.passes_of_way`). So the table of joins
holds for each node the nearest place that lies on all ways from it (`Graph.exists_nearest_joins`).
-/

namespace Automation

namespace Graph

variable {g : Graph} {ids : List String} {rank : String → Nat}

/-! ## Sets without cycles -/

open Classical in
/-- The nodes of a set without cycles can be ranked: by how many of them lead to each. -/
theorem exists_rankedOn (hacyclic : ∀ id ∈ ids, ¬Relation.TransGen g.Leads id id) :
    ∃ rank : String → Nat, g.RankedOn ids rank ∧ ∀ id, rank id ≤ ids.length := by
  let leading (id : String) : Finset String := ids.toFinset.filter fun x => Relation.TransGen g.Leads x id
  refine ⟨fun id => (leading id).card, fun e he hsource => ?_, fun id => ?_⟩
  · have hedge : g.Leads e.source e.target := ⟨e, he, rfl, rfl⟩
    have hsubset : leading e.source ⊆ leading e.target := by
      intro x hx
      obtain ⟨hx, hleads⟩ := Finset.mem_filter.1 hx
      exact Finset.mem_filter.2 ⟨hx, hleads.tail hedge⟩
    -- the source leads to the target and not to itself
    have hnew : e.source ∈ leading e.target :=
      Finset.mem_filter.2 ⟨List.mem_toFinset.2 hsource, .single hedge⟩
    exact Finset.card_lt_card ((Finset.ssubset_iff_of_subset hsubset).2
      ⟨e.source, hnew, fun hback => hacyclic e.source hsource (Finset.mem_filter.1 hback).2⟩)
  · exact Nat.le_trans (Finset.card_filter_le _ _) (List.toFinset_card_le ids)

/-- So have all nodes of a well-formed graph without cycles, with ranks up to the number of
nodes. -/
theorem WellFormed.exists_ranked_le (hwf : g.WellFormed)
    (hacyclic : ∀ id, ¬Relation.TransGen g.Leads id id) :
    ∃ rank : String → Nat, g.Ranked rank ∧ ∀ id, rank id ≤ g.nodes.length := by
  obtain ⟨rank, hrank, hbound⟩ : ∃ rank : String → Nat, g.RankedOn (g.nodes.map (·.id)) rank
      ∧ ∀ id, rank id ≤ (g.nodes.map (·.id)).length := exists_rankedOn fun id _ => hacyclic id
  refine ⟨rank, fun e he => hrank e he ?_, fun id => by simpa using hbound id⟩
  obtain ⟨-, m, hm, -, -, hsource, -⟩ := hwf.edge he
  exact List.mem_map.2 ⟨m, hm, hsource.symm⟩

/-- What holds of a node when it holds of all nodes that edges lead to from it holds of a whole set
without cycles. -/
theorem RankedOn.induction (hg : g.RankedOn ids rank) {bound : Nat} (hbound : ∀ id, rank id ≤ bound)
    {P : String → Prop} (h : ∀ id ∈ ids, (∀ e ∈ g.edges, e.source = id → P e.target) → P id)
    (hclosed : ∀ e ∈ g.edges, e.source ∈ ids → e.target ∈ ids) : ∀ id ∈ ids, P id := by
  have hall : ∀ n id, bound - rank id < n → id ∈ ids → P id := by
    intro n
    induction n with
    | zero => exact fun id hlt => absurd hlt (Nat.not_lt_zero _)
    | succ n ih =>
      intro id hlt hid
      refine h id hid fun e he hsource => ?_
      subst hsource
      have := hg e he hid
      have := hbound e.target
      exact ih e.target (by omega) (hclosed e he hid)
  exact fun id => hall _ id (Nat.lt_succ_self _)

/-- In a set that no edge leaves and whose edges lead to higher ranks, a node is lower than all that
come behind it. -/
theorem RankedOn.lt_of_transGen (hg : g.RankedOn ids rank)
    (hclosed : ∀ e ∈ g.edges, e.source ∈ ids → e.target ∈ ids) {a b : String} (ha : a ∈ ids)
    (hab : Relation.TransGen g.Leads a b) : b ∈ ids ∧ rank a < rank b := by
  induction hab with
  | single hedge =>
    obtain ⟨e, he, rfl, rfl⟩ := hedge
    exact ⟨hclosed e he ha, hg e he ha⟩
  | tail _ hedge ih =>
    obtain ⟨e, he, rfl, rfl⟩ := hedge
    exact ⟨hclosed e he ih.1, Nat.lt_trans ih.2 (hg e he ih.1)⟩

/-! ## Ways -/

/-- A way of a run from a place on: the places that it goes through, up to the end, which is none. A
node without an edge, and a condition without an edge for an outcome, leads to the end. -/
inductive Way (g : Graph) : Option String → List (Option String) → Prop
  | stop : Way g none [none]
  | step {id : String} {way : List (Option String)} (hcondition : g.isConditionAt id = false)
    (h : Way g (g.successor? id) way) : Way g (some id) (some id :: way)
  | whenTrue {id : String} {way : List (Option String)} (hcondition : g.isConditionAt id = true)
    (h : Way g (g.whenTrue? id) way) : Way g (some id) (some id :: way)
  | whenFalse {id : String} {way : List (Option String)} (hcondition : g.isConditionAt id = true)
    (h : Way g (g.whenFalse? id) way) : Way g (some id) (some id :: way)

theorem isConditionAt_of_kind? {id : String} {kind : NodeKind} (hkind : g.kind? id = some kind) :
    g.isConditionAt id = kind.isCondition := by
  rw [isConditionAt, hkind, Option.any_some]

/-- A way begins where it is from. -/
theorem Way.mem_start {current : Option String} {way : List (Option String)} (h : g.Way current way) :
    current ∈ way := by
  cases h <;> exact List.mem_cons_self

/-- What every run passes lies on every way. -/
theorem Passes.mem_way {goal current : Option String} (h : Passes g goal current) :
    ∀ way, g.Way current way → goal ∈ way := by
  induction h with
  | here => exact fun way hway => hway.mem_start
  | step hkind hcondition _ ih =>
    intro way hway
    cases hway with
    | step _ hway => exact List.mem_cons_of_mem _ (ih _ hway)
    | whenTrue hc => rw [isConditionAt_of_kind? hkind, hcondition] at hc; cases hc
    | whenFalse hc => rw [isConditionAt_of_kind? hkind, hcondition] at hc; cases hc
  | branch hkind hcondition _ _ ihtrue ihfalse =>
    intro way hway
    cases hway with
    | step hc => rw [isConditionAt_of_kind? hkind, hcondition] at hc; cases hc
    | whenTrue _ hway => exact List.mem_cons_of_mem _ (ihtrue _ hway)
    | whenFalse _ hway => exact List.mem_cons_of_mem _ (ihfalse _ hway)

section Closed

variable (hg : g.RankedOn ids rank) {bound : Nat} (hbound : ∀ id, rank id ≤ bound)
  (hclosed : ∀ e ∈ g.edges, e.source ∈ ids → e.target ∈ ids)

include hg hbound hclosed

/-- From every node of the set there is a way. -/
theorem RankedOn.exists_way : ∀ id ∈ ids, ∃ way, g.Way (some id) way := by
  refine hg.induction hbound (fun id _ ih => ?_) hclosed
  have hnext {next : Option String} (h : ∀ target ∈ next, ∃ e ∈ g.edges, e.source = id
      ∧ e.target = target) : ∃ way, g.Way next way := by
    cases next with
    | none => exact ⟨_, .stop⟩
    | some target =>
      obtain ⟨e, he, hsource, rfl⟩ := h target rfl
      exact ih e he hsource
  cases hcondition : g.isConditionAt id with
  | false =>
    obtain ⟨way, hway⟩ := hnext fun target htarget => exists_edge_of_successor? htarget
    exact ⟨_, .step hcondition hway⟩
  | true =>
    obtain ⟨way, hway⟩ : ∃ way, g.Way (g.whenTrue? id) way :=
      hnext fun _ => exists_target_of_branch?
    exact ⟨_, .whenTrue hcondition hway⟩

/-- What lies on every way, every run passes. -/
theorem RankedOn.passes_of_way (hkinds : ∀ id ∈ ids, ∃ kind, g.kind? id = some kind)
    {goal : Option String} : ∀ id ∈ ids, (∀ way, g.Way (some id) way → goal ∈ way) →
      Passes g goal (some id) := by
  refine hg.induction hbound (fun id hid ih => ?_) hclosed
  intro hgoal
  by_cases heq : goal = some id
  · exact heq ▸ .here
  obtain ⟨kind, hkind⟩ := hkinds id hid
  -- the goal lies behind the node, on every way that goes on from it
  have hnext {next : Option String} (h : ∀ target ∈ next, ∃ e ∈ g.edges, e.source = id
      ∧ e.target = target) (hways : ∀ way, g.Way next way → g.Way (some id) (some id :: way)) :
      Passes g goal next := by
    have hlies : ∀ way, g.Way next way → goal ∈ way := fun way hway =>
      (List.mem_cons.1 (hgoal _ (hways way hway))).resolve_left heq
    cases next with
    | none =>
      rw [List.mem_singleton.1 (hlies _ .stop)]
      exact .here
    | some target =>
      obtain ⟨e, he, hsource, rfl⟩ := h target rfl
      exact ih e he hsource hlies
  cases hcondition : kind.isCondition with
  | false =>
    refine .step hkind hcondition (hnext (fun _ => exists_edge_of_successor?) fun _ => .step ?_)
    rw [isConditionAt_of_kind? hkind, hcondition]
  | true =>
    have hc : g.isConditionAt id = true := by rw [isConditionAt_of_kind? hkind, hcondition]
    exact .branch hkind hcondition
      (hnext (fun _ => exists_target_of_branch?) fun _ => .whenTrue hc)
      (hnext (fun _ => exists_target_of_branch?) fun _ => .whenFalse hc)

end Closed

/-- A place other than a node that lies on all ways from there, and before all other places that lie
on all of these ways. -/
structure NearestOnWays (g : Graph) (id : String) (place : Option String) : Prop where
  other : place ≠ some id
  lies : ∀ way, g.Way (some id) way → place ∈ way
  nearest : ∀ goal, goal ≠ some id → (∀ way, g.Way (some id) way → goal ∈ way) →
    ∀ way, g.Way place way → goal ∈ way

/-- What lies on a way, the way goes on from. -/
theorem Way.exists_suffix {current place : Option String} {way : List (Option String)}
    (h : g.Way current way) (hplace : place ∈ way) : ∃ rest, g.Way place rest
      ∧ rest.length ≤ way.length ∧ (place ≠ current → rest.length < way.length) := by
  have hhere {current : Option String} {way : List (Option String)} (h : g.Way current way)
      (heq : place = current) : ∃ rest, g.Way place rest ∧ rest.length ≤ way.length
        ∧ (place ≠ current → rest.length < way.length) :=
    ⟨way, heq ▸ h, Nat.le_refl _, fun hne => absurd heq hne⟩
  -- a place further on is where a shorter way starts
  have hbehind {id : String} {next : Option String} {way : List (Option String)}
      (ih : place ∈ way → ∃ rest, g.Way place rest ∧ rest.length ≤ way.length
        ∧ (place ≠ next → rest.length < way.length)) (hmem : place ∈ way) :
      ∃ rest, g.Way place rest ∧ rest.length ≤ (some id :: way).length
        ∧ (place ≠ some id → rest.length < (some id :: way).length) := by
    obtain ⟨rest, hrest, hle, -⟩ := ih hmem
    exact ⟨rest, hrest, Nat.le_succ_of_le hle, fun _ => Nat.lt_succ_of_le hle⟩
  induction h with
  | stop => exact hhere .stop (List.mem_singleton.1 hplace)
  | step hcondition h ih =>
    rcases List.mem_cons.1 hplace with heq | hmem
    · exact hhere (.step hcondition h) heq
    · exact hbehind ih hmem
  | whenTrue hcondition h ih =>
    rcases List.mem_cons.1 hplace with heq | hmem
    · exact hhere (.whenTrue hcondition h) heq
    · exact hbehind ih hmem
  | whenFalse hcondition h ih =>
    rcases List.mem_cons.1 hplace with heq | hmem
    · exact hhere (.whenFalse hcondition h) heq
    · exact hbehind ih hmem

/-- There is one nearest place, if there is a way at all. -/
theorem NearestOnWays.eq {id : String} {a b : Option String} (ha : g.NearestOnWays id a)
    (hb : g.NearestOnWays id b) (hway : ∃ way, g.Way (some id) way) : a = b := by
  obtain ⟨way, hway⟩ := hway
  obtain ⟨way, hway, -⟩ := hway.exists_suffix (ha.lies way hway)
  have hba := ha.nearest b hb.other hb.lies
  have hab := hb.nearest a ha.other ha.lies
  -- were they two, each way from one of them would hold a shorter one
  have hall : ∀ n, ∀ way : List (Option String), way.length < n → g.Way a way → a = b := by
    intro n
    induction n with
    | zero => exact fun way hlt => absurd hlt (Nat.not_lt_zero _)
    | succ n ih =>
      intro way hlt hway
      by_contra hne
      obtain ⟨rest, hrest, -, hshort⟩ := hway.exists_suffix (hba way hway)
      obtain ⟨rest', hrest', hle, -⟩ := hrest.exists_suffix (hab rest hrest)
      have := hshort (Ne.symm hne)
      exact hne (ih rest' (by omega) hrest')
  exact hall _ way (Nat.lt_succ_self _) hway

/-! ## The joins of a set -/

section Joins

variable (hwf : g.WellFormed) (hexit : g.NoExit) (hids : ids.Nodup)
  (hnodes : ∀ id ∈ ids, ∃ n ∈ g.nodes, n.id = id)
  (hclosed : ∀ e ∈ g.edges, e.source ∈ ids → e.target ∈ ids)
  (hacyclic : ∀ id ∈ ids, ¬Relation.TransGen g.Leads id id)

include hwf hexit hids hnodes hclosed hacyclic

/-- The rows of the table of a set hold the nearest places. -/
theorem exists_joins_rows : ∃ t, g.joins ids = .ok t ∧ (t.map (·.id)).Perm ids
    ∧ ∀ row ∈ t, (∃ way, g.Way (some row.id) way) ∧ g.NearestOnWays row.id (place row.join) := by
  obtain ⟨rank, hg, hbound⟩ := exists_rankedOn hacyclic
  have hkinds : ∀ id ∈ ids, ∃ kind, g.kind? id = some kind := by
    intro id hid
    obtain ⟨n, hn, rfl⟩ := hnodes id hid
    exact ⟨n.kind, hwf.kind?_of_mem hn⟩
  obtain ⟨t, ht, hexact, hperm⟩ := hg.exists_joins hwf hexit hids hkinds hclosed
  refine ⟨t, ht, hperm, fun row hrow => ?_⟩
  have hid : row.id ∈ ids := hperm.mem_iff.1 (List.mem_map_of_mem hrow)
  have hmeets := hexact.meets row hrow
  obtain ⟨kind, hkind⟩ := hkinds row.id hid
  refine ⟨hg.exists_way hbound hclosed row.id hid, fun heq => ?_, hmeets.passes.passes.mem_way,
    fun goal hne hgoal => ?_⟩
  · -- the depth of a join is less than that of the node
    obtain ⟨level, hlevel, hdepth⟩ := hexact.depth row hrow
    rw [← eq_of_mem_place heq, JoinTable.depth?_of_mem hexact.nodup hrow] at hlevel
    have := Option.some.inj hlevel
    omega
  · have hpasses := hg.passes_of_way hbound hclosed hkinds row.id hid hgoal
    exact (hmeets.nearest goal (.of_passes hkind hpasses hne)).mem_way

/-- The joins of a set of nodes that holds no cycle and that no edge leaves: there is one for each
node of the set and no other, and it is the nearest place that lies on all ways from the node. -/
theorem exists_nearest_joins : ∃ t, g.joins ids = .ok t ∧ (t.map (·.id)).Perm ids
    ∧ ∀ id ∈ ids, ∃ join, t.join? id = some join ∧ join ≠ id
      ∧ (∃ way, g.Way (some id) way) ∧ g.NearestOnWays id (place join) := by
  obtain ⟨t, ht, hperm, hrows⟩ :=
    exists_joins_rows hwf hexit hids hnodes hclosed hacyclic
  refine ⟨t, ht, hperm, fun id hid => ?_⟩
  obtain ⟨row, hrow, rfl⟩ := List.mem_map.1 (hperm.mem_iff.2 hid)
  obtain ⟨hway, hnearest⟩ := hrows row hrow
  obtain ⟨n, hn, hname⟩ := hnodes row.id hid
  refine ⟨row.join, JoinTable.join?_of_mem (hperm.nodup_iff.2 hids) hrow, fun heq => ?_, hway, hnearest⟩
  exact hnearest.other (by rw [heq, place_of_ne (hname ▸ hexit n hn)])

end Joins

/-- Two conditions whose branches share a lamp, and a loop in another part. -/
def stairLamps : Graph where
  nodes := [
    { id := "dusk", kind := .trigger },
    { id := "home", kind := .condition },
    { id := "late", kind := .condition },
    { id := "lamp", kind := .action },
    { id := "dim", kind := .action },
    { id := "rest", kind := .delay },
    { id := "tick", kind := .delay },
    { id := "tock", kind := .delay }]
  edges := [.between "dusk" "home", .between "home" "lamp" (some handleTrue),
    .between "home" "late" (some handleFalse), .between "late" "lamp" (some handleTrue),
    .between "late" "dim" (some handleFalse), .between "lamp" "rest", .between "dim" "rest",
    .between "tick" "tock", .between "tock" "tick"]

theorem exists_nearest_joins_stairLamps : ∃ t,
    stairLamps.joins ["home", "late", "lamp", "dim", "rest"] = .ok t
    ∧ t.join? "home" = some "rest" ∧ (∃ way, stairLamps.Way (some "home") way)
    ∧ stairLamps.NearestOnWays "home" (some "rest") := by
  -- no edge leads back, as the nodes are listed in the order of their ranks
  have hranked : stairLamps.RankedOn ["home", "late", "lamp", "dim", "rest"]
      fun id => ["home", "late", "lamp", "dim"].idxOf id := by
    unfold RankedOn
    decide
  have hclosed : ∀ e ∈ stairLamps.edges, e.source ∈ ["home", "late", "lamp", "dim", "rest"] →
      e.target ∈ ["home", "late", "lamp", "dim", "rest"] := by decide
  obtain ⟨t, ht, -, hjoins⟩ := exists_nearest_joins (g := stairLamps)
    (List.isEmpty_iff.1 (by decide +kernel))
    (by unfold NoExit; decide) (by decide) (by decide) hclosed fun id hid hback =>
      Nat.lt_irrefl _ (hranked.lt_of_transGen hclosed hid hback).2
  obtain ⟨join, hjoin, -, hway, hnearest⟩ := hjoins "home" (by decide)
  have hrest : (stairLamps.joins ["home", "late", "lamp", "dim", "rest"]).toOption.bind
      (·.join? "home") = some "rest" := by decide +kernel
  rw [ht] at hrest
  obtain rfl : join = "rest" := Option.some.inj (hjoin.symm.trans hrest)
  exact ⟨t, ht, hjoin, hway, hnearest⟩

end Graph

end Automation
