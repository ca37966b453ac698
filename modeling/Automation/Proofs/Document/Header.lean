import Automation.Proofs.Dispatch.Accepting
import Automation.Proofs.Document.Reordering
import Automation.Proofs.Document.Tolerance
import Automation.Proofs.Program.Creation

/-!
# The header of a document

What a document says of a graph besides its nodes and edges is written by both strategies alike: who
the automation is, how it runs, its variables, and where its nodes are drawn. All of it is read back
as it was (`Graph.SameHead`), whatever becomes of the rest of the document, and so is the strategy,
unless the document announces a dispatch loop that cannot be decoded
(`Document.sameHead_of_generate`).

Positions come from the metadata alone: a reader of the structure of a document, or of a dispatch
loop, makes nodes without any (`Document.unplotted_of_readGraph`).
-/

namespace Automation

open Entries Reads

/-! ## Positions -/

namespace Reader

/-- A mapping in which every text stands once is read pair by pair. -/
theorem mapping_ofEntries {α : Type} {read : Reader α} {write : α → Value}
    {pairs : List (String × α)} (hnodup : (pairs.map (·.1)).Nodup)
    (hread : ∀ a ∈ pairs, read (write a.2) = .value a.2) :
    mapping read (.ofEntries (pairs.map fun a => (.str a.1, write a.2))) = .value pairs := by
  have hcollect : Reading.collect ((pairs.map fun a => (Value.str a.1, write a.2)).map fun e =>
      Prod.mk <$> (text e.1).under [keyStep e.1, "[key]"] <*> (read e.2).under [keyStep e.1])
        = .value pairs := by
    rw [List.map_map, Reading.collect_of_forall (g := id), List.map_id]
    intro a ha
    rw [Function.comp_apply]
    dsimp only
    rw [hread a ha]
    rfl
  -- no pair takes the place of an earlier one
  have hfold : ∀ pairs acc : List (String × α), ((acc ++ pairs).map (·.1)).Nodup →
      pairs.foldl (fun acc e => acc.filter (·.1 != e.1) ++ [e]) acc = acc ++ pairs := by
    intro pairs
    induction pairs with
    | nil => exact fun acc _ => (List.append_nil acc).symm
    | cons pair pairs ih =>
      intro acc hnodup
      have hkept : acc.filter (·.1 != pair.1) = acc := by
        refine List.filter_eq_self.2 fun a ha => ?_
        rw [List.map_append, List.map_cons] at hnodup
        have hne : a.1 ≠ pair.1 := (List.nodup_append.1 hnodup).2.2 _ (List.mem_map_of_mem ha) _
          List.mem_cons_self
        simpa using hne
      rw [List.foldl_cons, hkept, ih _ (by rwa [List.append_assoc, List.singleton_append]),
        List.append_assoc, List.singleton_append]
  refine (congrArg (fun r => (fun as : List (String × α) =>
    as.foldl (fun acc e => acc.filter (·.1 != e.1) ++ [e]) []) <$> r) hcollect).trans ?_
  rw [Reading.map_value, hfold pairs [] hnodup, List.nil_append]

end Reader

/-- A point of the plane is read as it was written. -/
theorem Record.position_float (x y : Binary64) :
    Record.position (Position.toValue { x := .float x, y := .float y })
      = .value { x := .float x, y := .float y } := rfl

/-- A graph with an id, whose nodes are drawn at points of the plane and whose settings are as their
schema has them. The metadata has a variable of its own. -/
structure Graph.PlainHead (g : Graph) : Prop where
  id : g.id ≠ ""
  version : ∃ n, g.version = .int n
  positions : ∀ n ∈ g.nodes, ∀ p ∈ n.position, ∃ x y, p = { x := .float x, y := .float y }
  settings : g.settings.Valid
  automationId : g.settings.automationId ≠ some ""
  vars : g.settings.vars.has Metadata.key = false

theorem Graph.PlainHead.headed {g : Graph} (h : g.PlainHead) : g.Headed where
  version := by
    obtain ⟨n, hn⟩ := h.version
    exact ⟨n, by rw [hn]; rfl⟩
  positions n hn p hp := by
    obtain ⟨x, y, rfl⟩ := h.positions n hn p hp
    exact ⟨_, Record.position_float x y⟩
  settings := h.settings

/-- In the metadata of a graph each node has the position that it has in the graph. -/
theorem Metadata.position?_of_mem {g : Graph} {m : Metadata} (hwf : g.WellFormed) (h : g.PlainHead)
    (hm : Reader.mapping Record.position (.ofEntries (positionEntries g.nodes))
      = .value m.positions) {n : Node} (hn : n ∈ g.nodes) : m.position? n.id = n.position := by
  let pairs := g.nodes.filterMap fun n => n.position.map fun p => (n.id, p)
  have hentries : positionEntries g.nodes
      = pairs.map fun a => (.str a.1, Position.toValue a.2) := by
    rw [positionEntries_eq_filterMap hwf.nodup, List.map_filterMap]
    simp only [Option.map_map]
    rfl
  -- the ids are pairwise different, so no position takes the place of another
  have hkeys : (pairs.map (·.1)).Nodup := by
    refine List.pairwise_map.2 (List.pairwise_filterMap.2
      ((List.pairwise_map.1 hwf.nodup).imp fun {m n} hne a ha b hb => ?_))
    obtain ⟨p, -, rfl⟩ := Option.map_eq_some_iff.1 ha
    obtain ⟨q, -, rfl⟩ := Option.map_eq_some_iff.1 hb
    exact hne
  have hpairs : m.positions = pairs := by
    rw [hentries, Reader.mapping_ofEntries hkeys fun a ha => ?_] at hm
    · exact (Reading.value.inj hm).symm
    · obtain ⟨n, hn, ha⟩ := List.mem_filterMap.1 ha
      obtain ⟨p, hp, rfl⟩ := Option.map_eq_some_iff.1 ha
      obtain ⟨x, y, rfl⟩ := h.positions n hn p hp
      exact Record.position_float x y
  have hposition : m.position? n.id = (pairs.find? (·.1 == n.id)).map (·.2) := by
    rw [← hpairs]
    rfl
  -- a node that is not found in the metadata has no position
  rcases hfind : pairs.find? (·.1 == n.id) with _ | a
  · rw [hposition, hfind]
    cases hp : n.position with
    | none => rfl
    | some p =>
      have hmem : (n.id, p) ∈ pairs := List.mem_filterMap.2 ⟨n, hn, by rw [hp]; rfl⟩
      exact absurd (beq_self_eq_true n.id) (List.find?_eq_none.1 hfind _ hmem)
  · rw [hposition, hfind]
    obtain ⟨k, hk, ha⟩ := List.mem_filterMap.1 (List.mem_of_find?_eq_some hfind)
    obtain ⟨p, hp, rfl⟩ := Option.map_eq_some_iff.1 ha
    have hid : k.id = n.id := by simpa using List.find?_some hfind
    obtain rfl := hwf.eq_of_id_eq hk hn hid
    exact hp.symm

/-- Two graphs of which a document says the same besides their nodes and edges. -/
structure Graph.SameHead (g g' : Graph) : Prop where
  id : g'.id = g.id
  version : g'.version = g.version
  name : g'.name = g.name
  description : g'.description = g.description
  settings : g'.settings = g.settings

/-! ## Graphs that are made of documents -/

/-- Nodes that are created have no positions. -/
theorem Program.Made.position {created : List NodeKind} {ds : List Draft} {ns : List Node}
    (h : Made created ds ns) : ∀ n ∈ ns, n.position = none := by
  induction h with
  | nil => nofun
  | cons hdata _ ih => exact List.forall_mem_cons.2 ⟨rfl, ih⟩

namespace Dispatch

/-- Nodes that are decoded have no positions. -/
theorem position_of_decode {limits : Limits} {triggers : List Entries} {actions : List Value}
    {ids : List String} {g : Graph} (h : decode limits triggers actions ids = .ok g) :
    ∀ n ∈ g.nodes, n.position = none := by
  intro n hn
  obtain ⟨id, es, -, rfl⟩ | ⟨start, options, -, v, -, d, hread, rfl⟩ := of_mem_decode h hn
  · rfl
  · obtain ⟨o, es, -, -, ⟨block, -, hblock⟩ | ⟨p, next, target, -, -, -, -, hnode⟩⟩ :=
      of_readOption_eq_ok hread
    · obtain ⟨data, whenTrue, whenFalse, -, -, -, hnode, -⟩ := of_readCondition_eq_ok hblock
      rw [hnode]
    · rw [hnode]

end Dispatch

/-- A reading loses nothing that there was to say before it. -/
theorem Reads.Keeps.subset {α : Type} {r : Reads α} (h : Keeps r) {s s' : Intake} {a : Outcome α}
    (hr : proceed r s = (a, s')) : s.notices ⊆ s'.notices := by
  have hkept := h s.notices { s with notices := [] }
  rw [List.append_nil, hr] at hkept
  rw [(Prod.mk.inj hkept).2]
  exact List.subset_append_left _ _

namespace Document

variable {limits : Limits} {g g' : Graph} {triggers : List Entries} {r : AutomationRecord}
  {m : Metadata} {strategy : Strategy} {s s' : Intake}

theorem keeps_readStructure (limits : Limits) (m : Option Metadata) (triggers : List Entries)
    (r : AutomationRecord) : Keeps (readStructure limits m triggers r) := by
  unfold readStructure
  refine .bind (Program.keeps_read limits _ _ _) fun p => ?_
  cases m with
  | none => exact .pure _
  | some m => exact .bind (.note _) fun _ => .pure _

/-- A graph that is made of the structure of a document tells no strategy and no positions. -/
theorem unplotted_of_readStructure (hs : s.created = [])
    (h : proceed (readStructure limits (some m) triggers r) s = (.ok g, s')) :
    g.strategy = none ∧ ∀ n ∈ g.nodes, n.position = none := by
  unfold readStructure at h
  obtain ⟨p, t, hp, h⟩ := proceed_bind_eq_ok h
  dsimp only at h
  obtain ⟨_, t', -, h⟩ := proceed_bind_eq_ok h
  cases h
  have hposition : ∀ n ∈ p.graph.nodes, n.position = none :=
    (Program.sectionsRead_of_read hs hp).made.position
  -- ids are put back, if at all, and positions are not
  unfold restoreIds
  split
  · exact ⟨rfl, hposition⟩
  · split
    · exact ⟨rfl, hposition⟩
    · dsimp only
      split
      · refine ⟨rfl, List.forall_mem_map.2 fun n hn => ?_⟩
        exact hposition n.1 (List.of_mem_zip hn).1
      · exact ⟨rfl, hposition⟩

/-- A graph that is made of a document with metadata has the strategy that this announces, unless it
announces a dispatch loop that cannot be decoded, and no positions. -/
theorem unplotted_of_readGraph (hs : s.created = []) (hm : m.strategy = some strategy.name)
    (h : proceed (readGraph limits (some m) triggers r) s = (.ok g, s')) :
    (∀ n ∈ g.nodes, n.position = none)
      ∧ (g.strategy = some strategy.name ∨ strategy = .dispatch ∧ g.strategy = none
        ∧ ∃ cause, Notice.notDispatch cause ∈ s'.notices) := by
  unfold readGraph at h
  dsimp only at h
  split at h
  · split at h
    · rename_i loop hloop
      cases h
      refine ⟨fun n hn => ?_, .inl hm⟩
      obtain ⟨-, hdecoded, -⟩ := decodeLoop_eq_ok.1 hloop
      exact Dispatch.position_of_decode hdecoded n hn
    -- a loop that cannot be decoded is read as blocks, with a notice that says so
    · rename_i hdispatch _ cause _
      obtain ⟨_, t, hnote, h⟩ := proceed_bind_eq_ok h
      have ht := of_proceed_note_eq_ok hnote
      obtain ⟨hstrategy, hposition⟩ := unplotted_of_readStructure (by rw [ht, hs]) h
      refine ⟨hposition, .inr ⟨?_, hstrategy, cause, ?_⟩⟩
      · rw [hm] at hdispatch
        cases strategy with
        | native => exact absurd hdispatch (by decide)
        | dispatch => rfl
      · refine Keeps.subset (keeps_readStructure limits (some m) triggers r) h ?_
        rw [ht]
        exact List.mem_append_right _ (List.mem_singleton_self _)
    · cases h
  · obtain ⟨made, t, hmade, h⟩ := proceed_bind_eq_ok h
    cases h
    exact ⟨(unplotted_of_readStructure hs hmade).2, .inl hm⟩

/-! ## The header -/

/-- What the generator of a strategy writes for a graph. -/
def generate : Strategy → Limits → Graph → Outcome Written × List Notice
  | .native => native
  | .dispatch => dispatch

/-- Either generator writes the header of the graph and the payloads of its triggers in front of
what the strategy makes of the other nodes. -/
theorem exists_assemble_of_generate {w : Written} (h : (generate strategy limits g).1 = .ok w) :
    ∃ order conditions actions, w.config
      = assemble g strategy order (Program.payloads g.triggers) conditions actions := by
  cases strategy with
  | native =>
    obtain ⟨r, p, -, -, hprogram, hconfig⟩ := of_native_eq_ok h
    obtain ⟨_, -, hprogram⟩ := Outcome.bind_eq_ok.1 hprogram
    dsimp only at hprogram
    split at hprogram
    · obtain ⟨_, htoo, -⟩ := Outcome.bind_eq_ok.1 hprogram
      cases htoo
    · obtain ⟨body, -, hprogram⟩ := Outcome.bind_eq_ok.1 hprogram
      cases hprogram
      exact ⟨_, _, _, hconfig⟩
  | dispatch =>
    obtain ⟨r, notices, joins, -, -, -, hconfig⟩ := of_dispatch_eq_ok h
    exact ⟨_, _, _, hconfig⟩

/-- A record that was found in a written document says of the automation as a whole what was
written. -/
theorem exists_recordOf {document : Entries} {conditions actions : List Value} {order : List String}
    {listed : List Value} (hs : g.settings.Valid) (hfields : ∀ e ∈ document, IsField e.1)
    (hother : ∀ name, name ≠ "conditions" → document.get? name
      = (assemble g strategy order listed conditions actions).get? name)
    (hr : AutomationRecord.ofEntries document = .ok r) :
    ∃ triggers conditions actions, r = recordOf g strategy order triggers conditions actions := by
  unfold AutomationRecord.ofEntries at hr
  rw [automation_of_get? hs hfields hother] at hr
  split at hr
  · rename_i r' hread
    cases hr
    obtain ⟨_, actions, h₁, -, rfl⟩ := Reading.seq_eq_value.1 hread
    obtain ⟨_, conditions, h₂, -, rfl⟩ := Reading.seq_eq_value.1 h₁
    obtain ⟨triggers, -, rfl⟩ := Reading.map_eq_value.1 h₂
    exact ⟨triggers, conditions, actions, rfl⟩
  · cases hr

/-- The id of an automation that is not empty is read as it was written. -/
theorem eq_of_mapM_ifNotEmpty {o id : Option String} (ho : o ≠ some "")
    (h : (o.bind ifNotEmpty).mapM Value.written = .ok id) : id = o := by
  cases o with
  | none =>
    cases h
    rfl
  | some s =>
    have hsome : (some s).bind ifNotEmpty = some (.str s) := if_neg fun hs => ho (congrArg some hs)
    rw [hsome] at h
    cases h
    rfl

/-- A graph that was settled with the record and the metadata of another has its head, and where the
two have a node in common they have it in the same place. -/
theorem sameHead_of_settle {freshId : String} {order : List String} {conditions : List Value}
    {actions : List Entries} {made : Graph} (hwf : g.WellFormed) (hg : g.PlainHead)
    (hpositions : Reader.mapping Record.position (.ofEntries (Metadata.positionEntries g.nodes))
      = .value m.positions)
    (hgraphId : m.graphId = some g.id) (hversion : m.graphVersion.map Number.int = some g.version)
    (hmade : ∀ n ∈ made.nodes, n.position = none)
    (h : proceed (settle limits freshId (some m)
      (recordOf g strategy order triggers conditions actions) made) s = (.ok g', s')) :
    g.SameHead g' ∧ g'.strategy = made.strategy ∧ s.notices ⊆ s'.notices
      ∧ ∀ n ∈ g.nodes, ∀ n' ∈ g'.nodes, n'.id = n.id → n'.position = n.position := by
  obtain ⟨automationId, issues, hid, rfl, -, -, hs⟩ := eq_of_settle_eq_ok h
  obtain rfl := eq_of_mapM_ifNotEmpty hg.automationId hid
  obtain ⟨version, hversion, hnumber⟩ := Option.map_eq_some_iff.1 hversion
  refine ⟨⟨?_, ?_, rfl, rfl, ?_⟩, rfl, hs ▸ List.subset_append_left _ _, ?_⟩
  -- the id and the version of the graph come out of the metadata, the variables without it
  · show ((m.graphId).filter (· != "")).getD freshId = g.id
    rw [hgraphId, Option.filter_some, if_pos (by simpa using hg.id)]
    rfl
  · show Number.int (m.graphVersion.getD 1) = g.version
    rw [hversion]
    exact hnumber
  · show { g.settings with vars := (vars g strategy order).erase Metadata.key } = g.settings
    rw [vars, erase_set_self, erase_of_not_has hg.vars]
  · intro n hn n' hn' hsame
    obtain ⟨n₀, hn₀, rfl⟩ := List.mem_map.1 hn'
    rw [Option.elim_some, m.place_id] at hsame
    have hposition := Metadata.position?_of_mem hwf hg hpositions hn
    rw [Option.elim_some, Metadata.place, hsame, hposition]
    cases hp : n.position with
    | none => exact hmade n₀ hn₀
    | some p => rfl

theorem exists_proceed_of_parse {freshId : String} {document : Value} {reading : Nat}
    {notices : List Notice} (h : parse limits freshId document reading = (.ok g, notices)) :
    ∃ s, proceed (read limits freshId document reading) {} = (.ok g, s) ∧ s.notices = notices := by
  have hgraph : (parse limits freshId document reading).1 = .ok g := congrArg Prod.fst h
  have hnotices : (parse limits freshId document reading).2 = notices := congrArg Prod.snd h
  exact ⟨_, Prod.ext hgraph rfl, hnotices⟩

/-- The header of a document that either generator writes: its metadata can be used, and however the
document is read, the graph has the head of the graph that was written, and its nodes where that
has them. The strategy is that of the generator, unless the document is read by its structure
because its dispatch loop cannot be decoded. -/
theorem sameHead_of_generate {w : Written} (hwf : g.WellFormed) (hg : g.PlainHead)
    (hw : (generate strategy limits g).1 = .ok w) :
    (∃ m, Metadata.find w.config = (some m, []))
      ∧ ∀ limits freshId reading g' notices,
        parse limits freshId (.ofEntries w.config) reading = (.ok g', notices) →
        g.SameHead g'
          ∧ (∀ n ∈ g.nodes, ∀ n' ∈ g'.nodes, n'.id = n.id → n'.position = n.position)
          ∧ (g'.strategy = some strategy.name ∨ strategy = .dispatch ∧ g'.strategy = none
            ∧ ∃ cause, Notice.notDispatch cause ∈ notices) := by
  obtain ⟨order, conditions, actions, hconfig⟩ := exists_assemble_of_generate hw
  rw [hconfig]
  have hne : Program.payloads g.triggers ≠ [] := by
    obtain ⟨t, ht, htrigger⟩ := hwf.exists_trigger
    exact List.ne_nil_of_mem (List.mem_map_of_mem (List.mem_filter.2 ⟨ht, htrigger⟩))
  constructor
  · obtain ⟨_, _, -, -, hfind⟩ := exists_find_of_get? hg.headed
      (get?_assemble_variables g strategy order _ conditions actions)
    exact ⟨_, hfind⟩
  intro limits freshId reading g' notices h
  have hload (es : Entries) : load (.ofEntries es) reading = .ok es := rfl
  -- what is read is the record that was written, and the metadata that was stored in it
  obtain ⟨found, told, r, hsections, hr, hcheck⟩ := of_parse_eq_ok (hload _) (congrArg Prod.fst h)
  obtain ⟨document, hdocument, -, hother, hfields⟩ :=
    exists_sections_assemble g strategy order conditions actions hne
  rw [hdocument] at hsections
  cases hsections
  obtain ⟨_, _, _, rfl⟩ := exists_recordOf hg.headed.settings hfields hother hr
  obtain ⟨version, positions, hversion, hpositions, hfind⟩ := exists_find_of_get? hg.headed
    ((hother _ (by decide)).trans (get?_assemble_variables ..))
  obtain ⟨s', hread, rfl⟩ := exists_proceed_of_parse h
  rw [proceed_read (hload _) hdocument hr hcheck limits freshId, hfind] at hread
  obtain ⟨made, s, hmade, hsettle⟩ := proceed_bind_eq_ok hread
  obtain ⟨hposition, hstrategy⟩ := unplotted_of_readGraph rfl rfl hmade
  obtain ⟨k, hk⟩ := hg.version
  rw [hk] at hversion
  cases hversion
  -- whichever way the graph is made, it is settled with that metadata
  obtain ⟨hhead, hsame, hsubset, hplaces⟩ := sameHead_of_settle hwf hg hpositions (if_neg hg.id)
    (by rw [hk]; rfl) hposition hsettle
  refine ⟨hhead, hplaces, ?_⟩
  rw [hsame]
  exact hstrategy.imp_right fun ⟨hdispatch, hnone, cause, hmem⟩ =>
    ⟨hdispatch, hnone, cause, hsubset hmem⟩

/-- A lamp over the stairs, about which a document says much that counts as nothing: zero, false, no
text and no entries. -/
def stairLamp : Graph where
  id := "0"
  version := .int 0
  nodes := [
    { id := "dusk", kind := .trigger, data := [(.str "trigger", .str "sun")]
      position := some {
        x := .float (Binary64.ofInt 0), y := .float (Binary64.ofRatio true 1 2) } },
    { id := "lamp", kind := .action, data := [(.str "action", .str "light.turn_on")] }]
  edges := [.between "dusk" "lamp"]
  settings := {
    automationId := some "0", mode := some "queued", max := some 0, maxExceeded := some "silent"
    initialState := some false, hideEntity := some false, trace := some []
    vars := [(.str "level", .int 0), (.str "", .null)] }

theorem plainHead_stairLamp : stairLamp.PlainHead where
  id := by decide
  version := ⟨0, rfl⟩
  positions := by
    intro n hn p hp
    rcases List.mem_cons.1 hn with rfl | hn
    · cases hp
      exact ⟨_, _, rfl⟩
    · rcases List.mem_singleton.1 hn with rfl
      cases hp
  settings := {
    mode := by decide
    maxExceeded := by decide
    trace := fun es hes => by
      cases hes
      exact keyed_nil
    vars := (keyed_nil.cons (by decide) _).cons (by decide) _ }
  automationId := by decide
  vars := by decide

theorem sameHead_stairLamp : ∃ w g', (generate .dispatch {} stairLamp).1 = .ok w
    ∧ (parse {} "new" (.ofEntries w.config)).1 = .ok g' ∧ stairLamp.SameHead g'
    ∧ ∀ n ∈ stairLamp.nodes, ∀ n' ∈ g'.nodes, n'.id = n.id → n'.position = n.position := by
  have hwf : stairLamp.WellFormed := List.isEmpty_iff.1 (by decide +kernel)
  have hwritten : ((generate .dispatch {} stairLamp).1).toOption.any (fun w =>
      (parse {} "new" (.ofEntries w.config)).1.toOption.isSome) = true := by
    decide +kernel
  obtain ⟨w, hw, hread⟩ := (Option.any_eq_true _ _).1 hwritten
  have hw := Outcome.toOption_eq_some.1 hw
  obtain ⟨g', hg'⟩ := Outcome.isSome_toOption.1 hread
  obtain ⟨-, hall⟩ := sameHead_of_generate hwf plainHead_stairLamp hw
  obtain ⟨hhead, hplaces, -⟩ := hall {} "new" 0 g' _ (Prod.ext hg' rfl)
  exact ⟨w, g', hw, hg', hhead, hplaces⟩

end Document

end Automation
