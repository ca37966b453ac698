import Automation.Proofs.Document.Fresh
import Automation.Proofs.Program.Silence

/-!
# Fresh graphs come back

The document that is written for a fresh graph is read back as a graph that has returned: the same
nodes, as a reader makes them again, the same edges, and whatever else a document is headed with
(`Graph.Returned`). The reading has nothing to say but about the fields of nodes. That holds for
branching blocks (`Document.returned_of_native`), when the keys of the actions are no byte strings,
and for a dispatch loop (`Document.returned_of_dispatch`), in which the nodes keep their order.
-/

namespace Automation

open Entries Reads

/-- A node that comes back under its name. -/
structure Node.Returned (m n : Node) : Prop extends m.Remade n where
  id : n.id = m.id

/-- Two graphs of which a document says the same apart from its sections. -/
structure Graph.SameFront (g g' : Graph) : Prop where
  assemble : ∀ strategy order triggers conditions actions,
    Document.assemble g' strategy order triggers conditions actions
      = Document.assemble g strategy order triggers conditions actions
  title : Dispatch.titleOf g' = Dispatch.titleOf g

/-- A graph and what its document is read back as. -/
structure Graph.Returned (limits : Limits) (g g' : Graph) : Prop extends Graph.SameFront g g',
    Graph.Counterpart (Equiv.refl String) Node.Returned g g' where
  check : g'.check limits = .ok ()
  told : ∃ notices, g'.notices limits = .ok notices
  drawn : ∀ e ∈ g'.edges, e.Drawn

theorem Node.Returned.counterpart {m n : Node} (h : m.Returned n) :
    m.Counterpart (Equiv.refl String) n where
  id := h.id
  kind := h.kind
  label := by
    have hlabel := congrArg Option.isSome h.label
    unfold Value.ifTruthy at hlabel
    cases hm : m.label.truthy <;> cases hn : n.label.truthy <;> simp_all
  flags := by rw [h.flags]

namespace Document

variable {limits : Limits} {g g' : Graph} {strategy : Strategy} {order : List String}

/-! ## What a document is headed with -/

theorem positionEntries_eq_nil {nodes : List Node} (h : ∀ n ∈ nodes, n.position = none) :
    Metadata.positionEntries nodes = [] := by
  unfold Metadata.positionEntries
  refine List.foldlRecOn (motive := fun acc : Entries => acc = []) _ _ rfl fun acc hacc n hn => ?_
  rw [h n hn]
  exact hacc

/-- An id that was written is read as it was, an empty one as none. -/
theorem bind_ifNotEmpty_of_mapM {o id : Option String}
    (h : (o.bind ifNotEmpty).mapM Value.written = .ok id) :
    id.bind ifNotEmpty = o.bind ifNotEmpty := by
  cases o with
  | none =>
    cases h
    rfl
  | some s =>
    by_cases hs : s = ""
    · subst hs
      cases h
      rfl
    · have hsome : (some s).bind ifNotEmpty = some (.str s) := if_neg hs
      rw [hsome] at h ⊢
      cases h
      exact if_neg hs

/-- Two graphs have one front when their names, versions and settings agree. -/
theorem sameFront_of_eq (hid : g'.id = g.id) (hversion : g'.version = g.version)
    (hname : g'.name = g.name) (hdescription : g'.description = g.description)
    (hsettings : g'.settings = { g.settings with automationId := g'.settings.automationId })
    (hautomation : g'.settings.automationId.bind ifNotEmpty
      = g.settings.automationId.bind ifNotEmpty)
    (hpositions : Metadata.positionEntries g'.nodes = Metadata.positionEntries g.nodes) :
    g.SameFront g' where
  assemble strategy order triggers conditions actions := by
    have hvars : vars g' strategy order = vars g strategy order := by
      unfold vars Metadata.encode
      rw [hsettings, hid, hversion, hpositions]
    unfold assemble
    dsimp only
    rw [hvars, hname, hdescription, hautomation, hsettings]
  title := by
    unfold Dispatch.titleOf
    rw [hname, hid]

/-- A graph that is settled with what was written of a fresh graph has its front. -/
theorem sameFront_of_settle {document : Entries} {r : AutomationRecord} {m : Metadata}
    {freshId : String} {made : Graph} {s s' : Intake} (hg : g.Fresh limits) (hid : g.id ≠ "")
    (hr : Recovers g strategy order document r m) (hmade : ∀ n ∈ made.nodes, n.position = none)
    (h : proceed (settle limits freshId (some m) r made) s = (.ok g', s')) :
    g'.nodes = made.nodes ∧ g'.edges = made.edges ∧ g'.strategy = made.strategy
      ∧ g.SameFront g' ∧ g'.check limits = .ok ()
      ∧ ∃ notices, g'.notices limits = .ok notices ∧ s'.notices = s.notices ++ notices := by
  obtain ⟨automationId, notices, hautomation, heq, hcheck, hnotices, hs⟩ := eq_of_settle_eq_ok h
  have hunplaced : Metadata.positionEntries g.nodes = [] :=
    positionEntries_eq_nil fun n hn => (hg.settled n hn).position
  have hpositions : m.positions = [] := by
    have hread := hr.positions
    rw [hunplaced] at hread
    exact (Reading.value.inj hread).symm
  -- without positions in the metadata no node is placed
  have hplace (n : Node) : m.place n = n := by
    unfold Metadata.place Metadata.position?
    rw [hpositions]
    rfl
  have hnodes : g'.nodes = made.nodes := by
    rw [heq]
    exact (List.map_congr_left fun n _ => hplace n).trans (List.map_id _)
  obtain ⟨version, hversion, hgraphVersion⟩ := hr.graphVersion
  obtain ⟨k, hk⟩ := hg.version
  rw [hk] at hversion
  cases hversion
  have hgraphId : m.graphId = some g.id := by rw [hr.graphId, if_neg hid]
  rw [Option.bind_some, Option.bind_some, hgraphId, hgraphVersion, Option.filter_some,
    if_pos (by simpa using hid)] at heq
  refine ⟨hnodes, by rw [heq], by rw [heq], ?_, hcheck, notices, hnotices, hs⟩
  refine sameFront_of_eq ?_ ?_ (by rw [heq, hr.name]) (by rw [heq, hr.description]) ?_ ?_ ?_
  · rw [heq]
    rfl
  · rw [heq, hk]
    rfl
  · rw [heq, hr.settings]
    dsimp only
    rw [vars, erase_set_self, hg.vars]
  · rw [heq]
    rw [hr.id] at hautomation
    exact bind_ifNotEmpty_of_mapM hautomation
  · rw [hunplaced, hnodes]
    exact positionEntries_eq_nil hmade

/-! ## What is written of a fresh graph -/

/-- The triggers that are written of a fresh graph. -/
theorem payloads_triggers_of_fresh (hg : g.Fresh limits) :
    (∀ es ∈ g.triggers.map (·.data), es.Keyed)
      ∧ (∀ es ∈ g.triggers.map (·.data), es.has "platform" = false)
      ∧ g.triggers.map (·.data) ≠ [] := by
  have htrigger {n : Node} (hn : n ∈ g.triggers) :
      n.data.Keyed ∧ n.data.has "platform" = false := by
    obtain ⟨hn, htrigger⟩ := List.mem_filter.1 hn
    exact (hg.settled n hn).trigger htrigger
  obtain ⟨t, ht, hkind⟩ := hg.wellFormed.exists_trigger
  refine ⟨List.forall_mem_map.2 fun n hn => (htrigger hn).1,
    List.forall_mem_map.2 fun n hn => (htrigger hn).2, ?_⟩
  exact List.ne_nil_of_mem (List.mem_map_of_mem (List.mem_filter.2 ⟨ht, hkind⟩))

/-- The triggers among nodes that have returned. -/
theorem filter_of_returned {ms ns : List Node} (h : List.Forall₂ Node.Returned ms ns)
    (p : NodeKind → String → Bool) : List.Forall₂ Node.Returned
      (ms.filter fun n => p n.kind n.id) (ns.filter fun n => p n.kind n.id) := by
  induction h with
  | nil => exact .nil
  | cons hmn _ ih =>
    rw [List.filter_cons, List.filter_cons, hmn.kind, hmn.id]
    split
    · exact .cons hmn ih
    · exact ih

/-! ## Reading it back -/

section Reading

variable {freshId : String} {reading : Nat} {notices : List Notice} {w : Written}

/-- A node that the decoder of a loop reads back has returned. -/
theorem returned_reread {n : Node} (hn : n.Settled limits) :
    n.Returned (Dispatch.reread limits n) where
  id := rfl
  kind := rfl
  data := by
    show (Dispatch.rereadData limits n).stripped = _
    unfold Dispatch.rereadData
    split
    · rw [hn.normal ‹_›]
      rfl
    · rfl
  label := Value.ifTruthy_getD_ifTruthy _
  flags := by
    obtain ⟨es, heq⟩ := hn.flags
    show Entry.flagsOf n.flags = _
    rw [heq, Entry.flagsOf_flagsOf]

/-- Edges between the nodes of a graph that all are kept are all edges. -/
theorem filter_edges_eq (hwf : g.WellFormed) {ids : List String}
    (hids : ∀ n ∈ g.nodes, n.id ∈ ids) :
    (g.edges.filter fun e => ids.contains e.source && ids.contains e.target) = g.edges := by
  refine List.filter_eq_self.2 fun e he => ?_
  obtain ⟨-, m, hm, n, hn, hsource, htarget, -⟩ := hwf.edge he
  rw [Bool.and_eq_true, List.contains_iff_mem, List.contains_iff_mem, hsource, htarget]
  exact ⟨hids m hm, hids n hn⟩

/-- The loop of a fresh graph is decoded as the loop that is read back. -/
theorem decode_actions_of_fresh (hg : g.Fresh limits) {r : TopologyReport}
    (hr : r.reachable = g.reachable) (joins : List (String × Option String)) :
    Dispatch.decode limits (g.triggers.map (·.data)) (Dispatch.actions limits g joins (loopNodes r g))
      (g.triggers.map (·.id)) = .ok (Dispatch.loopGraph limits r g) := by
  refine Dispatch.decode_actions hg.wellFormed hg.named hr (fun n hn => ?_) fun n hn => ?_
  · obtain ⟨hn, htrigger⟩ := List.mem_filter.1 hn
    exact (hg.settled n hn).bare (NodeKind.isCondition_of_isTrigger htrigger)
  · obtain ⟨hn, htrigger, -⟩ := (mem_loopNodes hr).1 hn
    exact hg.restorable hn htrigger

/-- All nodes of a fresh graph are kept in its loop. -/
theorem nodes_loopGraph_of_fresh (hg : g.Fresh limits) {r : TopologyReport}
    (hr : r.reachable = g.reachable) :
    (Dispatch.loopGraph limits r g).nodes = g.nodes.map (Dispatch.reread limits) := by
  rw [Dispatch.loopGraph, hg.keptNodes_eq hr]

/-- The edges that are read out of a loop have the ids that their ends determine. -/
theorem drawn_loopGraph (limits : Limits) (r : TopologyReport) (g : Graph) :
    ∀ e ∈ (Dispatch.loopGraph limits r g).edges, e.Drawn := by
  intro e he
  obtain ⟨n, -, he⟩ := List.mem_flatMap.1 he
  obtain ⟨x, -, hx⟩ := List.mem_filterMap.1 he
  split at hx
  · cases hx
  · cases hx
    rfl

/-- The edges of a fresh graph are those that are read out of its loop. -/
theorem perm_ends_loopGraph_of_fresh (hg : g.Fresh limits) {r : TopologyReport}
    (hr : r.reachable = g.reachable) :
    (g.edges.map Edge.ends).Perm ((Dispatch.loopGraph limits r g).edges.map Edge.ends) := by
  have hperm : ((Dispatch.loopGraph limits r g).edges.map Edge.ends).Perm _ :=
    Dispatch.perm_ends_loopGraph hg.wellFormed hr hg.handle
  rw [hg.keptNodes_eq hr, filter_edges_eq hg.wellFormed fun n hn => List.mem_map_of_mem hn] at hperm
  exact hperm.symm

/-- The document of a fresh graph with a dispatch loop is read back as the graph. -/
theorem returned_of_dispatch (hg : g.Fresh limits) (hid : g.id ≠ "")
    (hw : (dispatch limits g).1 = .ok w)
    (h : parse limits freshId (.ofEntries w.config) reading = (.ok g', notices)) :
    g.Returned limits g' ∧ List.Forall₂ Node.Returned g.nodes g'.nodes
      ∧ g'.strategy = some Strategy.dispatch.name
      ∧ ∀ notice ∈ notices, ∃ id issue, notice = .node id issue := by
  obtain ⟨r, told, joins, hanalyze, -, -, hconfig⟩ := of_dispatch_eq_ok hw
  obtain ⟨-, hr⟩ := of_analyze_eq_ok hanalyze
  obtain ⟨actions, hactions, hkeyed⟩ :=
    Dispatch.exists_actions_eq_map limits g joins (loopNodes r g)
  have hdecode := decode_actions_of_fresh hg hr joins
  rw [hactions] at hdecode
  -- what stands in front of the loop is read as it was written, and then the loop is decoded
  obtain ⟨htriggers, hplatforms, hne⟩ := payloads_triggers_of_fresh hg
  obtain ⟨document, record, m, hrecovers, hconditions, hrecord, hparse⟩ :=
    exists_parse_assemble hg.headed .dispatch ((Dispatch.keptNodes r g).map (·.id)) htriggers
      hplatforms hne [] hkeyed
  have hread := proceed_readGraph_dispatch hdecode (Dispatch.wellFormed_loopGraph hg.wellFormed hr)
    hconditions hrecord hrecovers.nodeIds hrecovers.strategy {}
  rw [hconfig, hactions, ← Dispatch.keptNodes, Program.payloads_eq_map, hparse, start_eq_proceed,
    proceed_bind_of_ok hread] at h
  obtain ⟨hgraph, hnotices⟩ := Prod.mk.inj h
  have hloop := nodes_loopGraph_of_fresh hg hr
  obtain ⟨hnodes, hedges, hstrategy, hfront, hcheck, issues, hissues, hsaid⟩ :=
    sameFront_of_settle hg hid hrecovers (fun n hn => by
      rw [hloop] at hn
      obtain ⟨n, -, rfl⟩ := List.mem_map.1 hn
      rfl) (Prod.ext hgraph rfl)
  have hreturned : List.Forall₂ Node.Returned g.nodes g'.nodes := by
    rw [hnodes, hloop, List.forall₂_map_right_iff, List.forall₂_same]
    exact fun n hn => returned_reread (hg.settled n hn)
  refine ⟨⟨hfront, ⟨hg.wellFormed, (Graph.check_eq_ok_iff.1 hcheck).2, (·.counterpart),
    ⟨_, hreturned, .refl _⟩, filter_of_returned hreturned fun kind _ => kind.isTrigger, ?_⟩,
    hcheck, ⟨issues, hissues⟩, ?_⟩, hreturned, hstrategy, fun notice hnotice => ?_⟩
  · rw [hedges]
    exact perm_ends_loopGraph_of_fresh hg hr
  · rw [hedges]
    exact drawn_loopGraph limits r g
  · rw [← hnotices, hsaid] at hnotice
    obtain ⟨n, -, issue, rfl⟩ := Graph.mem_notices_of_eq_ok hissues notice hnotice
    exact ⟨_, _, rfl⟩

/-- Nodes that a reader makes and then gives their old names have returned. -/
theorem forall₂_returned_of_renamed {ms ns : List Node} (hsettled : ∀ n ∈ ns, n.Settled limits)
    (h : List.Forall₂ (fun m n => m.id = n.id ∧ ∃ name, { m with id := name }.Rereads limits n)
      ms ns) : List.Forall₂ Node.Returned ns ms := by
  induction h with
  | nil => exact .nil
  | cons hmn _ ih =>
    obtain ⟨hid, name, hrereads⟩ := hmn
    obtain ⟨hhead, htail⟩ := List.forall_mem_cons.1 hsettled
    have hremade := hhead.remade hrereads
    exact .cons ⟨⟨hremade.kind, hremade.data, hremade.label, hremade.flags⟩, hid⟩ (ih htail)

/-- The document of a fresh graph with branching blocks is read back as the graph, when its
conditions cannot be taken for blocks and the keys of its actions are no byte strings. -/
theorem returned_of_native (hg : g.Fresh limits) (hid : g.id ≠ "") (happarent : g.Apparent)
    (hw : (native limits g).1 = .ok w)
    (hbytes : ∀ v ∈ (w.config.get "actions").asItems, ∀ es, v.entries? = some es →
      ∀ e ∈ es, ∀ bs, e.1 ≠ .bytes bs)
    (h : parse limits freshId (.ofEntries w.config) reading = (.ok g', notices)) :
    g.Returned limits g' ∧ g'.strategy = some Strategy.native.name
      ∧ ∀ notice ∈ notices, ∃ id issue, notice = .node id issue := by
  obtain ⟨r, p, hanalyze, hnative, hprogram, hconfig⟩ := of_native_eq_ok hw
  have hp := Graph.programmed_of_program hg.wellFormed hg.exit hanalyze hnative hprogram
  have hactions := p.actions_eq_map
  obtain ⟨htriggers, hplatforms, hne⟩ := payloads_triggers_of_fresh hg
  rw [← hp.triggers] at htriggers hplatforms hne
  rw [hconfig, hactions, Program.payloads_eq_map p.triggers] at hbytes h
  have hkeyed := keyed_entries_of_parse happarent.toTold
    (fun n hn _ => (hg.settled n hn).keyed_flags) (fun n hn => (hg.settled n hn).distinct) hp hne
    (fun es hes => hbytes (.ofEntries es) (by
      rw [Entries.get, get?_assemble_actions]
      exact List.mem_map_of_mem hes) es rfl) (congrArg Prod.fst h)
  obtain ⟨document, record, m, hrecovers, hconditions, hrecord, hparse⟩ :=
    exists_parse_assemble hg.headed .native (p.nodes.map (·.id)) htriggers hplatforms hne
      (Program.payloads p.gates) hkeyed
  rw [hparse, start_eq_proceed] at h
  obtain ⟨hgraph, hnotices⟩ := Prod.mk.inj h
  obtain ⟨made, s, hmade, hsettle⟩ := proceed_bind_eq_ok (Prod.ext hgraph rfl :
    proceed (readGraph limits (some m) (p.triggers.map (·.data)) record
      >>= settle limits freshId (some m) record) {} = (.ok g', _))
  obtain ⟨q, t, hq, heq, hsaid⟩ := exists_read_of_readGraph hrecovers.strategy hmade
  rw [hconditions, hrecord] at hq
  have hread := Program.sectionsRead_of_read rfl hq
  have hrereads := hp.rereads happarent hactions hread
  have hkind (m n : Node) (hmn : m.Rereads limits n) := hmn.kind
  have hids := hrecovers.nodeIds
  have hrestored := restoreIds_of_related hkind hg.wellFormed hg.handle hp hrereads hread.nodup hids
  obtain ⟨hnamed, hwired⟩ := renameNodes_of_related hkind hrereads hread.nodup
  rw [hrestored, hids] at heq
  obtain ⟨hnodes, hedges, hstrategy, hfront, hcheck, issues, hissues, hmore⟩ :=
    sameFront_of_settle hg hid hrecovers (fun n hn => by
      rw [heq] at hn
      obtain ⟨n', -, -, name, hmn⟩ := exists_match_of_mem hnamed hn
      exact hmn.position) hsettle
  have hreturned : List.Forall₂ Node.Returned p.nodes g'.nodes := by
    rw [hnodes, heq]
    refine forall₂_returned_of_renamed (fun n hn => ?_) hnamed
    exact hg.settled n ((hp.mem_iff n).1 hn).1
  -- the program holds the nodes of the graph in another order, as paths lead to all of them
  have hperm : g.nodes.Perm p.nodes :=
    (List.perm_ext_iff_of_nodup hg.wellFormed.nodup.of_map hp.nodup.of_map).2 fun n => by
      rw [hp.mem_iff, and_iff_left_of_imp (hg.reaches n)]
  refine ⟨⟨hfront, ⟨hg.wellFormed, (Graph.check_eq_ok_iff.1 hcheck).2, (·.counterpart),
    List.perm_comp_forall₂ hperm hreturned, ?_, ?_⟩, hcheck, ⟨issues, hissues⟩, ?_⟩, ?_,
    fun notice hnotice => ?_⟩
  · rw [← hp.filter_isTrigger]
    exact filter_of_returned hreturned fun kind _ => kind.isTrigger
  · have hends := hp.perm_ends hg.wellFormed hg.handle
    rw [filter_edges_eq hg.wellFormed fun n hn =>
      List.mem_map_of_mem ((hp.mem_iff n).2 ⟨hn, hg.reaches n hn⟩)] at hends
    rw [hedges, heq]
    exact (hwired ▸ hends).symm
  · rw [hedges, heq]
    exact hwired ▸ p.drawn_edges
  · rw [hstrategy, heq]
    exact hrecovers.strategy
  · have hsilent := (Program.silent_read happarent (fun n hn htrigger hcondition =>
      ((hg.settled n hn).step htrigger hcondition).2) hp hactions _ _).notices_eq hq
    rw [← hnotices, hmore, hsaid, hsilent, hrestored] at hnotice
    obtain ⟨n, -, issue, rfl⟩ := Graph.mem_notices_of_eq_ok hissues notice hnotice
    exact ⟨_, _, rfl⟩

end Reading

end Document

end Automation
