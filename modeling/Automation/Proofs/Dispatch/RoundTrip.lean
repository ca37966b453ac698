import Automation.Proofs.Condition.Fixed
import Automation.Proofs.Dispatch.LoopGraph
import Automation.Proofs.Document.Reading
import Mathlib.Data.List.Forall2
import Mathlib.Data.List.Perm.Subperm

/-!
# Dispatch documents read back

A document that was written with a dispatch loop is read back as the part of the graph that paths
lead to (`Document.parse_dispatch`), whatever the shape of the graph. The nodes come in the order in
which the loop lists them; their payloads are the same, conditions being in their normal form
already.
-/

namespace Automation

namespace Graph

/-- The nodes that paths lead to: the triggers, and behind them the others in their order. -/
def reached (g : Graph) : List Node :=
  g.triggers ++ g.nodes.filter fun n => !n.kind.isTrigger && g.reachable.contains n.id

theorem keptNodes_eq {r : TopologyReport} {g : Graph} (hr : r.reachable = g.reachable) :
    Dispatch.keptNodes r g = g.reached := by
  unfold Dispatch.keptNodes Document.loopNodes reached
  rw [hr]

variable {limits : Limits} {g : Graph}

/-- A node that is read back is the same. -/
theorem Restorable.same_reread (hg : g.Restorable limits) {n : Node} (hn : n ∈ g.nodes) :
    (Dispatch.reread limits n).Same n := by
  -- the data of a condition is normalized again, that of a step is taken over
  cases hkind : n.kind.isCondition with
  | true =>
    obtain ⟨data, hdata, hsame⟩ := hg.normal n hn hkind
    refine ⟨rfl, rfl, (hg.label n hn hkind).getD_ifTruthy, ?_, ?_⟩
    · show (Value.ofEntries (Dispatch.rereadData limits n)).same _ = true
      rw [Dispatch.rereadData, if_pos hkind, hdata]
      exact hsame
    · exact Value.same_ofEntries_of_perm
        (Entry.perm_flagsOf (hg.distinct n hn) (hg.flags n hn hkind))
  | false =>
    obtain ⟨hlabel, hflags⟩ := hg.bare n hn hkind
    refine ⟨rfl, rfl, Block.IsLabel.getD_ifTruthy (.inl hlabel), ?_, ?_⟩
    · show (Value.ofEntries (Dispatch.rereadData limits n)).same _ = true
      rw [Dispatch.rereadData, if_neg (by simp [hkind])]
      exact Value.same_ofEntries_self _
    · show (Value.ofEntries (Entry.flagsOf n.flags)).same _ = true
      rw [hflags]
      rfl

/-- A node of the loop is one that the decoder takes for what it is. -/
theorem Restorable.of_mem (hg : g.Restorable limits)
    (hids : ∀ n ∈ g.nodes, ∀ c ∈ n.id.toList, Text.isIdChar c = true) {n : Node} (hn : n ∈ g.nodes)
    (htrigger : n.kind.isTrigger = false) : Dispatch.Restorable limits n where
  id := ⟨by simpa using hg.wellFormed.ne_empty hn, hids n hn⟩
  kind := htrigger
  normal hkind := (hg.normal n hn hkind).imp fun _ h => h.1
  whole hkind := (hg.normal n hn hkind).isFixed.expose_conditions (hg.once n hn)
  flags := by
    cases hkind : n.kind.isCondition with
    | true => exact hg.flags n hn hkind
    | false =>
      rw [(hg.bare n hn hkind).2]
      exact fun _ h => nomatch h
  distinct := hg.distinct n hn
  step hkind := ⟨hg.step n hn htrigger hkind, hg.bare n hn hkind⟩

/-- What there is to say about a node can be said about it when it is read back. -/
theorem Restorable.exists_issues (hg : g.Restorable limits) {n : Node} (hn : n ∈ g.nodes)
    {issues : List NodeIssue} (h : n.issues limits = .ok issues) :
    ∃ issues, (Dispatch.reread limits n).issues limits = .ok issues := by
  cases hkind : n.kind.isCondition with
  | true =>
    obtain ⟨data, hdata, -⟩ := hg.normal n hn hkind
    have hcondition := NodeKind.isCondition_iff.1 hkind
    obtain ⟨c, hcanonical, rfl⟩ := Condition.exists_of_normalize_eq_ok hdata
    obtain ⟨found, hfound⟩ := hcanonical.exists_issues (limits.maxConditionDepth + 1).toNat
    refine ⟨found, ?_⟩
    unfold Node.issues Dispatch.reread Dispatch.rereadData
    simp only [hcondition, hdata]
    exact hfound
  | false =>
    refine ⟨issues, ?_⟩
    have hdata : Dispatch.rereadData limits n = n.data := if_neg (by simp [hkind])
    unfold Node.issues Dispatch.reread at *
    rwa [hdata]

end Graph

namespace Document

open Automation.Graph Reads

/-- The loop of a document that was written is decoded without a complaint. -/
theorem proceed_readGraph_dispatch {limits : Limits} {g : Graph} {r : TopologyReport}
    {record : AutomationRecord} {m : Metadata} {actions : List Entries}
    (hdecode : Dispatch.decode limits (g.triggers.map (·.data)) (actions.map .ofEntries)
      (g.triggers.map (·.id)) = .ok (Dispatch.loopGraph limits r g))
    (hwf : (Dispatch.loopGraph limits r g).WellFormed)
    (hconditions : record.conditions = []) (hactions : record.actions = actions)
    (hids : m.nodeIds = (Dispatch.keptNodes r g).map (·.id))
    (hstrategy : m.strategy = some Strategy.dispatch.name) (s : Intake) :
    proceed (readGraph limits (some m) (g.triggers.map (·.data)) record) s
      = (.ok { Dispatch.loopGraph limits r g with strategy := some Strategy.dispatch.name }, s) := by
  -- the ids of the triggers come first in the metadata, one for each trigger
  have htake : (if m.nodeIds.length ≥ (g.triggers.map (·.data)).length then
      m.nodeIds.take (g.triggers.map (·.data)).length else []) = g.triggers.map (·.id) := by
    rw [hids, Dispatch.keptNodes, List.map_append, if_pos]
    · rw [List.length_map, ← List.length_map (f := (·.id)), List.take_left]
    · simp
  have hloop : decodeLoop limits m (g.triggers.map (·.data)) record
      = .ok (Dispatch.loopGraph limits r g) :=
    decodeLoop_eq_ok.2 ⟨hconditions, by rw [htake, hactions, hdecode], hwf⟩
  unfold readGraph
  dsimp only
  rw [if_pos hstrategy, hloop]
  dsimp only
  rw [hstrategy]
  rfl

section Restorable

variable {limits : Limits} {g : Graph} {r : TopologyReport}

/-- The loop of a graph that can be restored is decoded as the loop that is read back. -/
theorem decode_actions_of_restorable (hg : g.Restorable limits)
    (hids : ∀ n ∈ g.nodes, ∀ c ∈ n.id.toList, Text.isIdChar c = true)
    (hr : r.reachable = g.reachable) (joins : List (String × Option String)) :
    Dispatch.decode limits (g.triggers.map (·.data)) (Dispatch.actions limits g joins (loopNodes r g))
      (g.triggers.map (·.id)) = .ok (Dispatch.loopGraph limits r g) := by
  refine Dispatch.decode_actions hg.wellFormed hids hr (fun n hn => ?_) fun n hn => ?_
  · obtain ⟨hn, htrigger⟩ := List.mem_filter.1 hn
    exact hg.bare n hn (NodeKind.isCondition_of_isTrigger htrigger)
  · obtain ⟨hn, htrigger, -⟩ := (mem_loopNodes hr).1 hn
    exact hg.of_mem hids hn htrigger

/-- The loop that is read back has no more nodes than the graph. -/
theorem length_loopGraph_le (hwf : g.WellFormed) (hr : r.reachable = g.reachable) :
    (Dispatch.loopGraph limits r g).nodes.length ≤ g.nodes.length := by
  rw [Dispatch.loopGraph, List.length_map]
  exact (List.Nodup.subperm (Dispatch.nodup_keptNodes hwf).of_map fun n hn =>
    ((Dispatch.mem_keptNodes hr).1 hn).1).length_le

/-- What there is to say about the nodes of the loop that is read back can be said, as it can be said
about the nodes of the graph. -/
theorem exists_issues_loopGraph (hg : g.Restorable limits) (hr : r.reachable = g.reachable)
    {told : List Notice} (htold : g.notices limits = .ok told) :
    ∀ n ∈ (Dispatch.loopGraph limits r g).nodes, ∃ issues, n.issues limits = .ok issues := by
  intro n hn
  obtain ⟨n, hkept, rfl⟩ := List.mem_map.1 hn
  obtain ⟨hn, -⟩ := (Dispatch.mem_keptNodes hr).1 hkept
  obtain ⟨issues, hissues⟩ := Graph.of_notices_eq_ok htold n hn
  exact hg.exists_issues hn hissues

end Restorable

/-- A document that was written with a dispatch loop is read back as the part of the graph that
paths lead to: the same nodes in the order of the loop, exactly the edges between them, and nothing
to say but about the fields of nodes. -/
theorem parse_dispatch {limits : Limits} {g : Graph} (hg : g.Restorable limits)
    (hkeyed : ∀ n ∈ g.nodes, n.kind.isTrigger = true → n.data.Keyed)
    (hids : ∀ n ∈ g.nodes, ∀ c ∈ n.id.toList, Text.isIdChar c = true) {w : Written}
    (hw : (dispatch limits g).1 = .ok w) (freshId : String) (reading : Nat) :
    ∃ g' notices, parse limits freshId (.ofEntries w.config) reading = (.ok g', notices)
      ∧ (∀ notice ∈ notices, ∃ id issue, notice = .node id issue)
      ∧ g'.strategy = some Strategy.dispatch.name
      ∧ List.Forall₂ Node.Same g'.nodes g.reached
      ∧ (g'.edges.map Edge.ends).Perm ((g.edges.filter fun e =>
          (g.reached.map (·.id)).contains e.source
            && (g.reached.map (·.id)).contains e.target).map Edge.ends) := by
  obtain ⟨r, told, joins, hanalyze, htold, -, hconfig⟩ := of_dispatch_eq_ok hw
  obtain ⟨hcheck, hr⟩ := of_analyze_eq_ok hanalyze
  obtain ⟨hsize, hwf⟩ := Graph.check_eq_ok_iff.1 hcheck
  have hkept := keptNodes_eq hr
  have hdecoded : (Dispatch.loopGraph limits r g).WellFormed :=
    Dispatch.wellFormed_loopGraph hwf hr
  obtain ⟨actions, hactions, hentries⟩ :=
    Dispatch.exists_actions_eq_map limits g joins (loopNodes r g)
  have hdecode := decode_actions_of_restorable hg hids hr joins
  rw [hactions] at hdecode
  -- what stands in front of the loop is read as it was written, and then the loop is decoded
  obtain ⟨hpayloads, hplatforms⟩ := payloads_triggers hkeyed hg.platform
  obtain ⟨record, m, hconditions, hrecord, hid, hnodeIds, hstrategy, hparse⟩ :=
    parse_assemble hg.headed .dispatch ((Dispatch.keptNodes r g).map (·.id)) hpayloads hplatforms
      hwf.payloads_ne_nil [] hentries
  have hread := proceed_readGraph_dispatch hdecode hdecoded hconditions hrecord hnodeIds hstrategy {}
  have hfits : ((Dispatch.loopGraph limits r g).nodes.length : Int) ≤ limits.maxGraphNodes := by
    have hlength : (Dispatch.loopGraph limits r g).nodes.length ≤ g.nodes.length :=
      length_loopGraph_le hwf hr
    omega
  obtain ⟨g', notices, hsettle, hnodes, hedges, hstrategy', -, hnotices⟩ :=
    exists_proceed_settle freshId
      (g := { Dispatch.loopGraph limits r g with strategy := some Strategy.dispatch.name })
      hdecoded hfits (exists_issues_loopGraph hg hr htold) m hid {}
  refine ⟨g', notices, ?_, ?_, hstrategy', ?_, ?_⟩
  · rw [hconfig, hactions, ← Dispatch.keptNodes, Program.payloads_eq_map, hparse, start_eq_proceed,
      proceed_bind_of_ok hread, hsettle]
    rfl
  · intro notice hnotice
    obtain ⟨n, -, issue, rfl⟩ := hnotices notice hnotice
    exact ⟨_, _, rfl⟩
  · have hsame : List.Forall₂ (fun n m' => (m.place (Dispatch.reread limits n)).Same m')
        (Dispatch.keptNodes r g) (Dispatch.keptNodes r g) :=
      List.forall₂_same.2 fun n hn =>
        (hg.same_reread ((Dispatch.mem_keptNodes hr).1 hn).1).place m
    rw [hnodes, ← hkept, Dispatch.loopGraph, List.map_map]
    exact List.forall₂_map_left_iff.2 hsame
  · rw [hedges, ← hkept]
    have hperm : ((Dispatch.loopGraph limits r g).edges.map Edge.ends).Perm _ :=
      Dispatch.perm_ends_loopGraph hwf hr hg.handle
    exact hperm

/-- A condition in its normal form. -/
def brightTest : Entries := [(.str "condition", .str "template"),
  (.str "value_template", .str "\x7b\x7b level == 1 \x7d\x7d")]

/-- A graph with a cycle through a named condition whose block is skipped. -/
def lampLoop : Graph where
  nodes := [
    { id := "t1", kind := .trigger,
      data := [(.str "trigger", .str "state"), (.str "entity_id", .str "lamp.hall")] },
    { id := "c1", kind := .condition, data := brightTest, label := .str "Bright",
      flags := [(.str "enabled", .bool false)] },
    { id := "a1", kind := .action, data := [(.str "action", .str "light.turn_on")] }]
  edges := [.between "t1" "c1", .between "c1" "a1" (some handleTrue), .between "a1" "c1"]

theorem restorable_lampLoop {limits : Limits} (hnormal : Condition.IsNormal limits brightTest) :
    lampLoop.Restorable limits := by
  have hall {P : Node → Prop} : (∀ n ∈ lampLoop.nodes, P n)
      ↔ P lampLoop.nodes[0] ∧ P lampLoop.nodes[1] ∧ P lampLoop.nodes[2] := by
    simp [lampLoop]
  refine {
    wellFormed := List.isEmpty_iff.1 (by decide +kernel)
    headed := ⟨⟨1, rfl⟩, hall.2 ⟨nofun, nofun, nofun⟩, nofun, nofun, nofun, Entries.keyed_nil⟩
    once := by decide +kernel
    distinct := hall.2 ⟨.nil, List.pairwise_singleton _ _, .nil⟩
    platform := by decide +kernel
    normal := hall.2 ⟨nofun, fun _ => hnormal, nofun⟩
    step := hall.2 ⟨nofun, nofun, fun _ _ => rfl⟩
    label := hall.2 ⟨nofun, fun _ => .inr ⟨_, by decide, rfl⟩, nofun⟩
    flags := hall.2 ⟨nofun, fun _ e he => ?_, nofun⟩
    bare := hall.2 ⟨fun _ => ⟨rfl, rfl⟩, nofun, fun _ => ⟨rfl, rfl⟩⟩
    handle := by decide +kernel }
  rw [List.mem_singleton.1 he]
  exact ⟨"enabled", by decide, rfl⟩

theorem keyed_lampLoop : ∀ n ∈ lampLoop.nodes, n.kind.isTrigger = true → n.data.Keyed := by
  rintro n hn htrigger
  rcases List.mem_cons.1 hn with rfl | hn
  · exact (Entries.keyed_nil.cons rfl _).cons rfl _
  · rcases List.mem_cons.1 hn with rfl | hn
    · cases htrigger
    · rw [List.mem_singleton.1 hn] at htrigger
      cases htrigger

/-- That graph is read back whole: no path leaves a node out. -/
theorem parse_dispatch_lampLoop :
    ∃ w g' notices, (dispatch {} lampLoop).1 = .ok w
      ∧ parse {} "new" (.ofEntries w.config) 0 = (.ok g', notices)
      ∧ List.Forall₂ Node.Same g'.nodes lampLoop.nodes
      ∧ (g'.edges.map Edge.ends).Perm (lampLoop.edges.map Edge.ends) := by
  have hwritten : ((dispatch {} lampLoop).1).toOption.isSome = true := by decide +kernel
  rcases hw : (dispatch {} lampLoop).1 with _ | w
  · rw [hw] at hwritten
    cases hwritten
  have hnormal : Condition.IsNormal {} brightTest := ⟨_, rfl, by decide +kernel⟩
  obtain ⟨g', notices, hparse, -, -, hnodes, hedges⟩ :=
    parse_dispatch (restorable_lampLoop hnormal) keyed_lampLoop (by decide +kernel) hw "new" 0
  have hreached : lampLoop.reached = lampLoop.nodes := by
    unfold reached
    rw [show lampLoop.reachable = ["t1", "c1", "a1"] by decide +kernel]
    rfl
  rw [hreached] at hnodes hedges
  refine ⟨w, g', notices, rfl, hparse, hnodes, ?_⟩
  exact hedges

/-- A graph whose trigger names its platform by a list. -/
def listedPlatform : Graph where
  nodes := [
    { id := "t1", kind := .trigger, data := [(.str "trigger", .ofTexts ["x"])] },
    { id := "a1", kind := .action, data := [(.str "action", .str "light.turn_on")] }]
  edges := [.between "t1" "a1"]

theorem restorable_listedPlatform : listedPlatform.Restorable {} := by
  have hall {P : Node → Prop} : (∀ n ∈ listedPlatform.nodes, P n)
      ↔ P listedPlatform.nodes[0] ∧ P listedPlatform.nodes[1] := by
    simp [listedPlatform]
  exact {
    wellFormed := List.isEmpty_iff.1 (by decide +kernel)
    headed := ⟨⟨1, rfl⟩, hall.2 ⟨nofun, nofun⟩, nofun, nofun, nofun, Entries.keyed_nil⟩
    once := by decide +kernel
    distinct := hall.2 ⟨.nil, .nil⟩
    platform := by decide +kernel
    normal := hall.2 ⟨nofun, nofun⟩
    step := hall.2 ⟨nofun, fun _ _ => rfl⟩
    label := hall.2 ⟨nofun, nofun⟩
    flags := hall.2 ⟨nofun, nofun⟩
    bare := hall.2 ⟨fun _ => ⟨rfl, rfl⟩, fun _ => ⟨rfl, rfl⟩⟩
    handle := by decide +kernel }

/-- A graph may have no document to read back, because it is larger than what is written, or because
the platform of a trigger cannot be looked up. -/
theorem exists_restorable_not_dispatched :
    (lampLoop.Restorable { maxGraphNodes := 1 }
      ∧ (∀ n ∈ lampLoop.nodes, ∀ c ∈ n.id.toList, Text.isIdChar c = true)
      ∧ ∀ w, (dispatch { maxGraphNodes := 1 } lampLoop).1 ≠ .ok w)
    ∧ listedPlatform.Restorable {}
      ∧ (∀ n ∈ listedPlatform.nodes, ∀ c ∈ n.id.toList, Text.isIdChar c = true)
      ∧ ∀ w, (dispatch {} listedPlatform).1 ≠ .ok w := by
  have hnormal : Condition.IsNormal { maxGraphNodes := 1 } brightTest :=
    ⟨_, rfl, by decide +kernel⟩
  have hnone : ((dispatch { maxGraphNodes := 1 } lampLoop).1).toOption.isSome = false
      ∧ ((dispatch {} listedPlatform).1).toOption.isSome = false := by
    decide +kernel
  refine ⟨⟨restorable_lampLoop hnormal, by decide +kernel, fun w hw => ?_⟩,
    restorable_listedPlatform, by decide +kernel, fun w hw => ?_⟩
  · rw [hw] at hnone
    cases hnone.1
  · rw [hw] at hnone
    cases hnone.2

end Document

end Automation
