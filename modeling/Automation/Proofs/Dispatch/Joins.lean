import Automation.Proofs.Dispatch.RoundTrip
import Automation.Proofs.Topology.Blocks
import Automation.Proofs.Topology.Listing

/-!
# Joins of a dispatch document

Where a run goes on behind a skipped block depends on the ends and the handles of edges, as long as
no edge is taken for a back edge by its id (`Document.blockJoins_of_ends`). A dispatch document that
is read back gives every edge the id that its ends determine, so the joins stay; but these ids do
not always tell edges apart (`Document.blockJoins_doorLoop`).
-/

namespace Automation

namespace Graph

variable {g g' : Graph}

/-- The nodes that paths lead to. -/
theorem mem_reached {n : Node} : n ∈ g.reached ↔ n ∈ g.nodes ∧ g.Reaches n.id := by
  let r : TopologyReport := { reachable := g.reachable }
  rw [← keptNodes_eq (r := r) rfl]
  exact Dispatch.mem_keptNodes rfl

theorem nodup_reached (hwf : g.WellFormed) : (g.reached.map (·.id)).Nodup := by
  let r : TopologyReport := { reachable := g.reachable }
  rw [← keptNodes_eq (r := r) rfl]
  exact Dispatch.nodup_keptNodes hwf

/-- The edges out of a node that triggers lead to are all kept. -/
theorem filter_kept_ends (hwf : g.WellFormed) {id : String} (hid : g.Reaches id)
    (P : String × String × Option String → Bool) :
    (((g.edges.filter fun e => (g.reached.map (·.id)).contains e.source
        && (g.reached.map (·.id)).contains e.target).map Edge.ends).filter fun x => P x && x.1 == id)
      = (g.edges.map Edge.ends).filter fun x => P x && x.1 == id := by
  have hmem {x : String} (hx : g.Reaches x) : (g.reached.map (·.id)).contains x = true := by
    obtain ⟨n, hn, rfl⟩ := hwf.exists_of_reaches hx
    exact List.contains_iff_mem.2 (List.mem_map_of_mem (mem_reached.2 ⟨hn, hx⟩))
  rw [List.filter_map, List.filter_map, List.filter_filter]
  refine congrArg (List.map Edge.ends) (List.filter_congr fun e he => ?_)
  by_cases hsource : e.source = id
  · subst hsource
    rw [hmem hid, hmem (.edge he hid), Bool.and_self, Bool.and_true]
  · simp [Edge.ends, hsource]

section Reached

variable (hwf : g.WellFormed) (hnodes : List.Forall₂ Node.Same g'.nodes g.reached)
  (hedges : (g'.edges.map Edge.ends).Perm ((g.edges.filter fun e =>
    (g.reached.map (·.id)).contains e.source && (g.reached.map (·.id)).contains e.target).map
      Edge.ends))

include hnodes

/-- The nodes that are read back have the ids of those that triggers lead to. -/
theorem ids_of_same : g'.nodes.map (·.id) = g.reached.map (·.id) := by
  rw [← List.forall₂_eq_eq_eq, List.forall₂_map_left_iff, List.forall₂_map_right_iff]
  exact hnodes.imp fun _ _ h => h.id

/-- The triggers that are read back have the ids of those of the graph. -/
theorem map_id_triggers_of_same : g'.triggers.map (·.id) = g.triggers.map (·.id) := by
  have hpairs : g'.nodes.map (fun n => (n.id, n.kind.isTrigger))
      = g.reached.map fun n => (n.id, n.kind.isTrigger) := by
    rw [← List.forall₂_eq_eq_eq, List.forall₂_map_left_iff, List.forall₂_map_right_iff]
    exact hnodes.imp fun m n h => by rw [h.id, h.kind]
  have htriggers (ns : List Node) : (ns.filter (·.kind.isTrigger)).map (·.id)
      = ((ns.map fun n => (n.id, n.kind.isTrigger)).filter (·.2)).map (·.1) := by
    rw [List.filter_map, List.map_map]
    rfl
  have hall : g.triggers.filter (·.kind.isTrigger) = g.triggers :=
    List.filter_eq_self.2 fun n hn => (List.mem_filter.1 hn).2
  have hnone : (g.nodes.filter fun n => !n.kind.isTrigger && g.reachable.contains n.id).filter
      (·.kind.isTrigger) = [] := by
    refine List.filter_eq_nil_iff.2 fun n hn => ?_
    have hno := (List.mem_filter.1 hn).2
    rw [Bool.and_eq_true, Bool.not_eq_true'] at hno
    simp [hno.1]
  rw [triggers, htriggers, hpairs, ← htriggers, reached, List.filter_append, hall, hnone,
    List.append_nil]

include hwf hedges

theorem wellFormed_of_reached : g'.WellFormed := by
  have hids := ids_of_same hnodes
  refine hwf.of_part (hids ▸ nodup_reached hwf) (fun m hm => ?_) ?_
    (hedges.subperm.trans (List.filter_sublist.map _).subperm) fun e he => ?_
  · obtain ⟨n, hn, hsame⟩ := exists_match_of_mem hnodes hm
    exact ⟨n, (mem_reached.1 hn).1, hsame.id.symm, hsame.kind.symm⟩
  · obtain ⟨n, hn, htrigger⟩ := hwf.exists_trigger
    obtain ⟨m, hm, hsame⟩ := exists_match_of_mem hnodes.flip
      (List.mem_append_left _ (List.mem_filter.2 ⟨hn, htrigger⟩))
    exact ⟨m, hm, hsame.kind ▸ htrigger⟩
  · have hmem := hedges.subset (List.mem_map_of_mem he)
    obtain ⟨f, hf, heq⟩ := List.mem_map.1 hmem
    have hkept := (List.mem_filter.1 hf).2
    rw [Bool.and_eq_true, List.contains_iff_mem, List.contains_iff_mem] at hkept
    rw [← show f.source = e.source from congrArg Prod.fst heq,
      ← show f.target = e.target from congrArg (·.2.1) heq, hids]
    exact hkept

/-- Both graphs are the same wherever triggers lead. -/
theorem sameReach_of_reached : SameReach g g' := by
  have hwf' := wellFormed_of_reached hwf hnodes hedges
  refine ⟨fun id hid => ?_, map_id_triggers_of_same hnodes, fun id hid => ?_⟩
  · obtain ⟨n, hn, rfl⟩ := hwf.exists_of_reaches hid
    obtain ⟨m, hm, hsame⟩ := exists_match_of_mem hnodes.flip (mem_reached.2 ⟨hn, hid⟩)
    rw [hwf.kind?_of_mem hn, ← hsame.id, hwf'.kind?_of_mem hm, hsame.kind]
  · rw [map_ends_outEdges, map_ends_outEdges]
    -- at most one edge leads out of a node for each outcome, so the order does not show
    have hsame (failed : Bool) : ((g'.edges.map Edge.ends).filter fun x =>
          ((x.2.2 == some handleFalse) == failed) && x.1 == id)
        = (g.edges.map Edge.ends).filter fun x => ((x.2.2 == some handleFalse) == failed) && x.1 == id := by
      have hkept := filter_kept_ends hwf hid fun x => (x.2.2 == some handleFalse) == failed
      refine eq_of_perm_of_length_le_one (hkept ▸ hedges.filter _) ?_
      rw [List.filter_map, List.length_map]
      have hone := hwf'.length_outcome_le_one id failed
      rw [outgoing, List.filter_filter] at hone
      exact hone
    have htrue := hsame false
    have hfalse := hsame true
    simp only [beq_false, beq_true] at htrue hfalse
    rw [htrue, hfalse]

end Reached

end Graph

namespace Document

open Automation.Graph

variable {g g' : Graph}

/-- The joins behind skipped blocks depend on the structure of a graph alone, as long as no edge is
taken for a back edge by its id. They are the nearest places on all ways once exactly the back edges
are left out, and they are still the same when the graph is read back from a dispatch document. -/
theorem blockJoins_of_ends (hwf : g.WellFormed) (hapart : g.BackApart) (hnodes : g'.nodes = g.nodes)
    (hends : g'.edges.map Edge.ends = g.edges.map Edge.ends) (hapart' : g'.BackApart) :
    ∃ joins, g.blockJoins = .ok joins ∧ g'.blockJoins = .ok joins
      ∧ (g.NoExit → (joins.map (·.1)).Nodup ∧ ∀ id place, (id, place) ∈ joins
        ↔ (∃ n ∈ g.nodes, n.id = id ∧ n.kind.isCondition = true ∧ g.Reaches id)
          ∧ g.withoutBackEdges.NearestOnWays id place)
      ∧ ∀ (limits : Limits) (w : Written) (freshId : String) (reading : Nat), g.Restorable limits →
          (∀ n ∈ g.nodes, n.kind.isTrigger = true → n.data.Keyed) →
          (∀ n ∈ g.nodes, ∀ c ∈ n.id.toList, Text.isIdChar c = true) → (dispatch limits g).1 = .ok w →
          ∃ read notices, parse limits freshId (.ofEntries w.config) reading = (.ok read, notices)
            ∧ (read.BackApart → read.blockJoins = .ok joins) := by
  obtain ⟨joins, hjoins⟩ := hwf.exists_blockJoins
  have hwf' : g'.WellFormed := by
    refine hwf.of_part (hnodes ▸ hwf.nodup) (fun n hn => ⟨n, hnodes ▸ hn, rfl, rfl⟩)
      (hnodes ▸ hwf.exists_trigger) (hends ▸ List.Subperm.refl _) fun e he => ?_
    have hmem : e.ends ∈ g.edges.map Edge.ends := hends ▸ List.mem_map_of_mem he
    obtain ⟨f, hf, heq⟩ := List.mem_map.1 hmem
    obtain ⟨-, m, hm, n, hn, hsource, htarget, -⟩ := hwf.edge hf
    rw [← show f.source = e.source from congrArg Prod.fst heq,
      ← show f.target = e.target from congrArg (·.2.1) heq, hsource, htarget, hnodes]
    exact ⟨List.mem_map_of_mem hm, List.mem_map_of_mem hn⟩
  -- joins depend on what the graphs have in common: kinds, triggers and ends
  have hsame : SameReach g g' := by
    refine ⟨fun id _ => ?_, ?_, fun id _ => ?_⟩
    · rw [kind?, lastNode?, hnodes]
      rfl
    · rw [triggers, hnodes]
      rfl
    · rw [map_ends_outEdges, hends, map_ends_outEdges]
  refine ⟨joins, hjoins, (hsame.blockJoins_eq hwf hwf' hapart hapart').trans hjoins,
    fun hexit => ?_, fun limits w freshId reading hg hkeyed hids hw => ?_⟩
  · obtain ⟨_, hjoins', hnearest⟩ := hapart.blockJoins_nearest hwf hexit
    rw [hjoins] at hjoins'
    cases hjoins'
    exact hnearest
  -- a graph that was decoded has the edges behind the triggers, under ids of its own
  · obtain ⟨read, notices, hparse, -, -, hread, hedges⟩ :=
      parse_dispatch hg hkeyed hids hw freshId reading
    refine ⟨read, notices, hparse, fun hback => ?_⟩
    have hwfread := wellFormed_of_reached hwf hread hedges
    exact ((sameReach_of_reached hwf hread hedges).blockJoins_eq hwf hwfread hapart hback).trans hjoins

/-- The loop of the lamp with its edges named for where they come from. -/
def namedLampLoop : Graph :=
  { lampLoop with edges := lampLoop.edges.map fun e => { e with id := e.source } }

theorem blockJoins_of_ends_lampLoop :
    lampLoop.blockJoins = .ok [("c1", none)] ∧ namedLampLoop.blockJoins = .ok [("c1", none)]
      ∧ lampLoop.withoutBackEdges.NearestOnWays "c1" none
      ∧ ∃ w read notices, (dispatch {} lampLoop).1 = .ok w
        ∧ parse {} "new" (.ofEntries w.config) 0 = (.ok read, notices)
        ∧ (read.BackApart → read.blockJoins = .ok [("c1", none)]) := by
  obtain ⟨joins, hjoins, hjoins', hnearest, hread⟩ := blockJoins_of_ends (g := lampLoop)
    (List.isEmpty_iff.1 (by decide +kernel)) (backApart_of_nodup (by decide +kernel))
    (show namedLampLoop.nodes = lampLoop.nodes from rfl) (by decide +kernel)
    (backApart_of_nodup (by decide +kernel))
  have hfound : lampLoop.blockJoins.toOption = some [("c1", none)] := by decide +kernel
  obtain rfl := Except.ok.inj (hjoins.symm.trans (Outcome.toOption_eq_some.1 hfound))
  have hwritten : ((dispatch {} lampLoop).1).toOption.isSome = true := by decide +kernel
  obtain ⟨w, hw⟩ := Outcome.isSome_toOption.1 hwritten
  obtain ⟨read, notices, hparse, hback⟩ := hread {} w "new" 0
    (restorable_lampLoop ⟨_, rfl, by decide +kernel⟩) keyed_lampLoop (by decide +kernel) hw
  exact ⟨hjoins, hjoins', (((hnearest (by unfold NoExit; decide)).2 "c1" none).1
    List.mem_cons_self).2, w, read, notices, hw, hparse, hback⟩

/-- A door that is closed again and again. The ids of two nodes with a hyphen between them can be
those of two other nodes. -/
def doorLoop (id : Edge → String) : Graph where
  nodes := [
    { id := "t1", kind := .trigger, data := [(.str "trigger", .str "time")] },
    { id := "door-open", kind := .condition, data := brightTest, flags := [(.str "enabled", .bool false)] },
    { id := "hall-door", kind := .action, data := [(.str "action", .str "light.turn_on")] },
    { id := "open", kind := .action, data := [(.str "action", .str "light.turn_off")] },
    { id := "hall", kind := .delay, data := [(.str "delay", .int 5)] }]
  edges := ([.between "t1" "door-open", .between "door-open" "hall-door" (some handleTrue),
    .between "door-open" "open" (some handleFalse), .between "hall-door" "open",
    .between "open" "hall", .between "hall" "door-open"] : List Edge).map fun e =>
      { e with id := id e }

/-- The ids of edges show in the joins, also when a document is read back: an edge that has the id
of a back edge is left out with it. -/
theorem blockJoins_doorLoop :
    (doorLoop (·.source)).WellFormed ∧ (doorLoop (·.id)).WellFormed ∧ (doorLoop (·.source)).NoExit
    ∧ (doorLoop (·.id)).nodes = (doorLoop (·.source)).nodes
    ∧ (doorLoop (·.id)).edges.map Edge.ends = (doorLoop (·.source)).edges.map Edge.ends
    ∧ (doorLoop (·.source)).blockJoins = .ok [("door-open", some "open")]
    ∧ (doorLoop (·.id)).blockJoins = .ok [("door-open", none)]
    ∧ ∃ w read notices, (dispatch {} (doorLoop (·.source))).1 = .ok w
      ∧ parse {} "new" (.ofEntries w.config) 0 = (.ok read, notices)
      ∧ read.blockJoins = .ok [("door-open", none)] := by
  have hfound : (doorLoop (·.source)).blockJoins.toOption = some [("door-open", some "open")]
      ∧ (doorLoop (·.id)).blockJoins.toOption = some [("door-open", none)] := by decide +kernel
  -- the ids that a decoded graph gets are those that two edges share
  have hread : (do
      let w ← ((dispatch {} (doorLoop (·.source))).1).toOption
      let read ← ((parse {} "new" (.ofEntries w.config) 0).1).toOption
      read.blockJoins.toOption) = some [("door-open", none)] := by decide +kernel
  obtain ⟨w, hw, hread⟩ := Option.bind_eq_some_iff.1 hread
  obtain ⟨read, hparse, hjoins⟩ := Option.bind_eq_some_iff.1 hread
  exact ⟨List.isEmpty_iff.1 (by decide +kernel), List.isEmpty_iff.1 (by decide +kernel),
    by unfold NoExit; decide, rfl, rfl, Outcome.toOption_eq_some.1 hfound.1,
    Outcome.toOption_eq_some.1 hfound.2, w, read, _, Outcome.toOption_eq_some.1 hw,
    Prod.ext (Outcome.toOption_eq_some.1 hparse) rfl, Outcome.toOption_eq_some.1 hjoins⟩

end Document

end Automation
