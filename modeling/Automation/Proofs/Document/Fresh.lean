import Automation.Proofs.Dispatch.RoundTrip
import Automation.Proofs.Document.Regular
import Automation.Proofs.Program.Formation
import Automation.Proofs.Program.Remade

/-!
# Graphs of documents without metadata

The graph of a document without metadata is fresh (`Document.fresh_of_parse`): its nodes are settled
and stand in the order in which they were created, its edges are drawn between them, all of them can
be reached, and nothing in it was written by an editor. This takes a document in which each mapping
has its keys once.

What is written of a fresh graph can be told for what it is (`Graph.Fresh.apparent`), and a dispatch
loop has all of its nodes in their order (`Graph.Fresh.keptNodes_eq`).
-/

namespace Automation

open Entries Reads

/-- A graph as a document without metadata gives it. -/
structure Graph.Fresh (limits : Limits) (g : Graph) : Prop where
  wellFormed : g.WellFormed
  exit : g.NoExit
  reaches : ∀ n ∈ g.nodes, g.Reaches n.id
  /-- the triggers come first -/
  order : ∃ body, g.nodes = g.triggers ++ body ∧ ∀ n ∈ body, n.kind.isTrigger = false
  settled : ∀ n ∈ g.nodes, n.Settled limits
  named : ∀ n ∈ g.nodes, ∀ c ∈ n.id.toList, Text.isIdChar c = true
  drawn : ∀ e ∈ g.edges, e.Drawn
  handle : ∀ e ∈ g.edges, g.isConditionAt e.source = false → e.handle = none
  version : ∃ n, g.version = .int n
  strategy : g.strategy = none
  settings : g.settings.Valid
  /-- no metadata is left among the variables -/
  vars : g.settings.vars.erase Metadata.key = g.settings.vars

namespace Reader

/-- A mapping that is read out of a value whose mappings have each key once. -/
theorem keysOnce_of_entries {v : Value} {es : Entries} (hv : v.keysOnce = true)
    (h : entries v = .value es) : (Value.ofEntries es).keysOnce = true := by
  unfold entries at h
  split at h
  · rename_i o source hexpose
    have hsource := Value.keysOnce_expose hv
    rw [hexpose] at hsource
    obtain ⟨keys, -, rfl⟩ := Reading.map_eq_value.1 h
    refine List.foldlRecOn (motive := fun acc : Entries => (Value.ofEntries acc).keysOnce = true)
      _ _ rfl fun acc hacc e he => ?_
    rw [insert_str]
    exact keysOnce_set hacc _ (Value.keysOnce_of_mem_entries hsource (List.of_mem_zip he).2)
  · cases h

theorem keysOnce_of_sequence? {v : Value} {items : List Value} (hv : v.keysOnce = true)
    (h : sequence? v = some items) : ∀ item ∈ items, item.keysOnce = true := by
  have hexpose := Value.keysOnce_expose hv
  unfold sequence? at h
  split at h <;> cases h <;> rename_i heq <;> rw [heq] at hexpose <;>
    exact Value.haveKeysOnce_iff.1 hexpose

end Reader

namespace Document

variable {limits : Limits} {freshId : String} {document : Value} {reading : Nat}
  {raw found : Entries} {r : AutomationRecord} {g : Graph}

/-! ## Records -/

/-- The sections of a document in which each mapping has its keys once. -/
theorem keysOnce_of_sections (hraw : (Value.ofEntries raw).keysOnce = true)
    (h : (sections raw).1 = .ok found) : ∀ e ∈ found, e.2.keysOnce = true := by
  refine forall_of_sections (P := fun v => v.keysOnce = true) rfl (fun v hv => ?_)
    (fun e he => ?_) h
  · exact Value.keysOnce_list_iff.2 (List.forall_mem_singleton.2 hv)
  · exact Value.keysOnce_of_mem_entries hraw he

/-- The conditions and actions of such a document. -/
theorem keysOnce_of_ofEntries (hfound : ∀ e ∈ found, e.2.keysOnce = true)
    (h : AutomationRecord.ofEntries found = .ok r) :
    (∀ v ∈ r.conditions, v.keysOnce = true)
      ∧ ∀ es ∈ r.actions, (Value.ofEntries es).keysOnce = true := by
  obtain ⟨-, -, hconditions, hactions, -⟩ := foundIn_of_ofEntries h
  have hsection {name : String} {w : Value} (hget : found.get? name = some w) : w.keysOnce = true :=
    hfound _ (mem_of_get?_eq_some hget)
  refine ⟨fun v hv => ?_, fun es hes => ?_⟩
  · obtain ⟨w, items, hget, hitems, hmem⟩ := hconditions v hv
    exact Reader.keysOnce_of_sequence? (hsection hget) hitems v hmem
  · obtain ⟨w, items, hget, hitems, item, hitem, hread⟩ := hactions es hes
    exact Reader.keysOnce_of_entries
      (Reader.keysOnce_of_sequence? (hsection hget) hitems item hitem) hread

/-- Triggers with present names. -/
theorem settled_modernTriggers {triggers : List Entries} (h : ∀ es ∈ triggers, es.Keyed) :
    ∀ es ∈ (modernTriggers triggers).1, es.Keyed ∧ es.has "platform" = false := by
  intro es hes
  obtain ⟨t, ht, rfl⟩ := List.mem_map.1 hes
  obtain ⟨source, hsource, rfl⟩ := List.mem_map.1 ht
  exact ⟨Entry.keyed_modernKey (h _ (List.fst_mem_of_mem_zipIdx hsource)),
    Entry.has_modernKey (by decide)⟩

/-! ## Graphs -/

/-- The graph of a document without metadata is fresh, when each mapping has its keys once. -/
theorem fresh_of_parse (hload : load document reading = .ok raw)
    (honce : (Value.ofEntries raw).keysOnce = true)
    (hrecord : outline document reading = .ok (r, none))
    (h : (parse limits freshId document reading).1 = .ok g) : g.Fresh limits := by
  obtain ⟨p, automationId, hread, -, hg, hcheck, -⟩ := exists_program hrecord h
  obtain ⟨-, hwf⟩ := Graph.check_eq_ok_iff.1 hcheck
  obtain ⟨raw', hload', hrecord⟩ := Outcome.bind_eq_ok.1 hrecord
  rw [hload] at hload'
  cases hload'
  obtain ⟨found, hsections, hrecord⟩ := Outcome.bind_eq_ok.1 hrecord
  obtain ⟨record, hrecorded, hrecord⟩ := Outcome.bind_eq_ok.1 hrecord
  obtain ⟨rfl, -⟩ := Prod.mk.inj (Except.ok.inj hrecord)
  -- what is fresh about the graph was so in the record, or comes with reading the entries
  obtain ⟨hsettings, htriggers, -⟩ := foundIn_of_ofEntries hrecorded
  obtain ⟨hconditions, hactions⟩ :=
    keysOnce_of_ofEntries (keysOnce_of_sections honce hsections) hrecorded
  have hsettled := hread.settled (settled_modernTriggers htriggers) hconditions hactions
  have hparsed : p.Parsed g := hread.parsed (by rw [hg]; rfl) (by rw [hg]; rfl) hwf
  refine ⟨hwf, hparsed.noExit, fun n hn => hparsed.reaches hn, ?_, hparsed.nodes ▸ hsettled, ?_,
    hparsed.edges ▸ p.drawn_edges, fun e he hsource => ?_, ⟨1, by rw [hg]⟩, by rw [hg]; rfl, ?_, ?_⟩
  · refine ⟨Block.listNodes p.blocks, ?_, Block.isTrigger_of_mem_listNodes hparsed.standing.formed⟩
    rw [hparsed.triggers, hparsed.nodes, Program.nodes_eq]
  · intro n hn
    obtain ⟨hknown, before, hid⟩ := hread.numbered.exists_of_mem (hparsed.nodes ▸ hn)
    rw [hid]
    exact Program.isIdChar_nameOf hknown _
  · obtain ⟨n, hn, hid, hadmits⟩ :=
      hread.exists_admits (Program.origin_mem_exits (hparsed.edges ▸ he))
    refine hadmits.2 ?_
    rw [← hwf.isConditionAt_of_mem (hparsed.nodes ▸ hn), hid]
    exact hsource
  · rw [hg]
    exact ⟨hsettings.mode, hsettings.maxExceeded, hsettings.trace, hsettings.vars.erase _⟩
  · rw [hg]
    exact erase_of_not_has (has_erase _ _)

end Document

namespace Graph.Fresh

variable {limits : Limits} {g : Graph} {n : Node}

theorem headed (h : g.Fresh limits) : g.Headed where
  version := by
    obtain ⟨n, hn⟩ := h.version
    exact ⟨n, by rw [hn]; rfl⟩
  positions n hn p hp := by
    rw [(h.settled n hn).position] at hp
    cases hp
  settings := h.settings

/-- What is written of a fresh graph can be told for what it is, when its conditions cannot be taken
for blocks. -/
theorem apparent (h : g.Fresh limits) (hunblocked : ∀ n ∈ g.nodes, n.kind.isCondition = true →
    n.data.has "if" = false ∧ n.data.has "choose" = false) : g.Apparent where
  named n hn hcondition := Condition.has_condition_of_normalize ((h.settled n hn).normal hcondition)
  unblocked := hunblocked
  step n hn htrigger hcondition := ((h.settled n hn).step htrigger hcondition).1
  distinct n hn _ := ⟨(h.settled n hn).keyed_flags.distinct,
    (h.settled n hn).areFlags.has_eq_false (by decide)⟩
  whole n hn hcondition :=
    Condition.expose_conditions_of_normalize ((h.settled n hn).normal hcondition)
  flags n hn _ := (h.settled n hn).areFlags

/-- The decoder of a loop takes a node of a fresh graph for what it is. -/
theorem restorable (h : g.Fresh limits) (hn : n ∈ g.nodes) (htrigger : n.kind.isTrigger = false) :
    Dispatch.Restorable limits n where
  id := ⟨by simpa using h.wellFormed.ne_empty hn, h.named n hn⟩
  kind := htrigger
  normal hcondition := ⟨n.data, (h.settled n hn).normal hcondition⟩
  whole hcondition :=
    Condition.expose_conditions_of_normalize ((h.settled n hn).normal hcondition)
  flags := (h.settled n hn).areFlags
  distinct := (h.settled n hn).keyed_flags.distinct
  step hcondition :=
    ⟨((h.settled n hn).step htrigger hcondition).1, (h.settled n hn).bare hcondition⟩

/-- A loop over a fresh graph has all of its nodes, in their order. -/
theorem keptNodes_eq (h : g.Fresh limits) {r : TopologyReport} (hr : r.reachable = g.reachable) :
    Dispatch.keptNodes r g = g.nodes := by
  obtain ⟨body, hnodes, hbody⟩ := h.order
  have htriggers :
      g.triggers.filter (fun n => !n.kind.isTrigger && g.reachable.contains n.id) = [] :=
    List.filter_eq_nil_iff.2 fun n hn => by
      rw [(List.mem_filter.1 hn).2]
      simp
  have hall : body.filter (fun n => !n.kind.isTrigger && g.reachable.contains n.id) = body :=
    List.filter_eq_self.2 fun n hn => by
      have hreaches := h.reaches n (hnodes ▸ List.mem_append_right _ hn)
      rw [hbody n hn, Bool.not_false, Bool.true_and, List.contains_iff_mem]
      exact mem_reachable_iff.2 hreaches
  rw [Graph.keptNodes_eq hr, reached, hnodes, List.filter_append, htriggers, hall, List.nil_append]

end Graph.Fresh

end Automation
