import Automation.Proofs.Document.Sections
import Automation.Proofs.Graph.Fields
import Automation.Proofs.Graph.Structure
import Automation.Proofs.Program.Parsed
import Automation.Proofs.Record.Fields

/-!
# The steps of reading a document

A reading finds the record and the metadata of a document, makes a graph of them, and settles what
belongs to the automation as a whole. `Document.parse_assemble` gives the first part for a written
document, and `Document.exists_proceed_settle` the last: a well-formed graph comes out with its
nodes placed and nothing else changed, and all there is to say is about fields of nodes.

What a document says about an automation is its record and the metadata that it holds
(`Document.outline`). The graph of a document without metadata is that of the program that its
sections are read as (`Document.exists_program`).
-/

namespace Automation

open Entries Reads

namespace Metadata

/-- A node at its position in the metadata, if it has one there. -/
def place (m : Metadata) (n : Node) : Node :=
  match m.position? n.id with
  | some p => { n with position := some p }
  | none => n

/-- Placing a node changes nothing but its position. -/
theorem place_eq (m : Metadata) (n : Node) :
    m.place n = { n with position := (m.place n).position } := by
  unfold place
  split <;> rfl

theorem place_id (m : Metadata) (n : Node) : (m.place n).id = n.id := by rw [place_eq]

theorem place_kind (m : Metadata) (n : Node) : (m.place n).kind = n.kind := by rw [place_eq]

theorem place_data (m : Metadata) (n : Node) : (m.place n).data = n.data := by rw [place_eq]

theorem place_label (m : Metadata) (n : Node) : (m.place n).label = n.label := by rw [place_eq]

theorem place_flags (m : Metadata) (n : Node) : (m.place n).flags = n.flags := by rw [place_eq]

end Metadata

namespace Document

variable {limits : Limits} (freshId : String)

/-- The loop of a document is decoded when it stands alone and the graph keeps the invariants. -/
theorem decodeLoop_eq_ok {m : Metadata} {triggers : List Entries} {r : AutomationRecord} {g : Graph} :
    decodeLoop limits m triggers r = .ok g ↔ r.conditions = []
      ∧ Dispatch.decode limits triggers (r.actions.map .ofEntries)
        (if m.nodeIds.length ≥ triggers.length then m.nodeIds.take triggers.length else []) = .ok g
      ∧ g.WellFormed := by
  -- a loop is emitted without conditions
  cases hconditions : r.conditions with
  | cons v vs =>
    simp only [decodeLoop, hconditions, List.isEmpty_cons, Bool.not_false, if_true, reduceCtorEq,
      false_and, iff_false]
    intro h
    obtain ⟨_, hrefused, -⟩ := Outcome.bind_eq_ok.1 h
    cases hrefused
  | nil =>
    simp only [decodeLoop, hconditions, List.isEmpty_nil, Bool.not_true, Bool.false_eq_true, if_false,
      true_and]
    refine Outcome.bind_eq_ok.trans ⟨?_, fun ⟨hdecoded, hwf⟩ => ⟨g, hdecoded, by rw [hwf]; rfl⟩⟩
    rintro ⟨loop, hdecoded, h⟩
    split at h
    · rename_i hwf
      cases h
      exact ⟨hdecoded, hwf⟩
    · cases h

/-- Triggers without an old name for their platform are left alone. -/
theorem modernTriggers_of_forall {triggers : List Entries}
    (h : ∀ es ∈ triggers, es.has "platform" = false) : modernTriggers triggers = (triggers, []) := by
  have hmap : (triggers.zipIdx.map fun t =>
      Entry.modernTrigger (Place.item { root := "triggers" } t.2) t.1)
      = triggers.zipIdx.map fun t => (t.1, []) :=
    List.map_congr_left fun t ht =>
      Entry.modernKey_of_not_has (h t.1 (List.fst_mem_of_mem_zipIdx ht))
  unfold modernTriggers
  dsimp only
  rw [hmap, List.map_map, List.flatMap_map]
  have hfst : (Prod.fst ∘ fun t : Entries × Nat => (t.1, ([] : List Notice))) = Prod.fst := rfl
  rw [hfst, List.zipIdx_map_fst]
  simp

/-- What a reading does with the graph of a document. -/
def settle (limits : Limits) (freshId : String) (m : Option Metadata) (r : AutomationRecord)
    (g : Graph) : Reads Graph := do
  let g := match m with
    | some m => placeNodes g m
    | none => g
  let g ← Reads.lift (describe g m r freshId)
  Reads.lift (g.check limits)
  let issues ← Reads.lift (g.notices limits)
  Reads.note issues
  return g

/-- A graph is settled in three steps: it is placed and described, checked, and talked about. -/
theorem settle_eq (freshId : String) (m : Option Metadata) (r : AutomationRecord) (g : Graph) :
    settle limits freshId m r g = (do
      let g ← Reads.lift (describe (m.elim g (placeNodes g)) m r freshId)
      Reads.lift (g.check limits)
      let issues ← Reads.lift (g.notices limits)
      Reads.note issues
      return g) := by
  cases m <;> rfl

/-! ## Readings of whole documents -/

section Whole

variable {limits : Limits} {freshId : String} {document : Value} {reading : Nat}
  {raw found : Entries} {notices : List Notice} {r : AutomationRecord} {g : Graph}

/-- What there is to say about a document before its graph is read. -/
def front (notices : List Notice) (r : AutomationRecord) (found : Entries) : List Notice :=
  notices ++ (modernTriggers r.triggers).2 ++ r.others.map .ignoredSection
    ++ (Metadata.find found).2

theorem check_append {first more : List Notice} :
    Notice.check (first ++ more) = .ok ()
      ↔ Notice.check first = .ok () ∧ Notice.check more = .ok () := by
  unfold Notice.check
  rw [List.flatMap_append, List.all_append]
  cases (first.flatMap (·.values)).all (·.hasText)
    <;> cases (more.flatMap (·.values)).all (·.hasText) <;> simp [Outcome.fault]

/-- A reading makes a graph of the record of a document, behind what there is to say before it, and
settles the graph. -/
theorem proceed_read (hload : load document reading = .ok raw)
    (hsections : sections raw = (.ok found, notices))
    (hrecord : AutomationRecord.ofEntries found = .ok r)
    (hcheck : Notice.check (front notices r found) = .ok ()) (limits : Limits) (freshId : String) :
    proceed (read limits freshId document reading) {}
      = proceed (readGraph limits (Metadata.find found).1 (modernTriggers r.triggers).1 r
          >>= settle limits freshId (Metadata.find found).1 r)
        { notices := front notices r found } := by
  unfold front at hcheck ⊢
  rw [check_append, check_append, check_append] at hcheck
  obtain ⟨⟨⟨hnotices, htriggers⟩, hothers⟩, hfind⟩ := hcheck
  unfold read
  rw [proceed_bind, proceed_lift, hload]
  dsimp only
  rw [hsections]
  dsimp only
  -- four times notices are taken down, and none of them fails
  rw [proceed_bind_of_ok (proceed_note hnotices _), proceed_bind, proceed_lift]
  dsimp only
  rw [proceed_bind, proceed_lift, hrecord]
  dsimp only
  rw [proceed_bind_of_ok (proceed_note htriggers _), proceed_bind_of_ok (proceed_note hothers _),
    proceed_bind_of_ok (proceed_note hfind _)]
  rfl

/-- What there is to say about a document that is read can be written. -/
theorem of_parse_eq_ok (hload : load document reading = .ok raw)
    (h : (parse limits freshId document reading).1 = .ok g) :
    ∃ found notices r, sections raw = (.ok found, notices)
      ∧ AutomationRecord.ofEntries found = .ok r
      ∧ Notice.check (front notices r found) = .ok () := by
  have hcheck {notices : List Notice} {s s' : Intake} {u : Unit}
      (hnote : proceed (note notices) s = (.ok u, s')) : Notice.check notices = .ok () := by
    obtain ⟨_, t, hlift, -⟩ := proceed_bind_eq_ok hnote
    exact (Prod.mk.inj hlift).1
  have hproceed : ∃ s, proceed (read limits freshId document reading) {} = (.ok g, s) :=
    ⟨_, Prod.ext h rfl⟩
  obtain ⟨s, hread⟩ := hproceed
  unfold read at hread
  obtain ⟨raw', hload', hread⟩ := proceed_lift_bind_eq_ok hread
  rw [hload] at hload'
  cases hload'
  dsimp only at hread
  -- step by step: whatever failed would have been the outcome
  obtain ⟨_, s₁, hnotices, hread⟩ := proceed_bind_eq_ok hread
  obtain ⟨found, hfound, hread⟩ := proceed_lift_bind_eq_ok hread
  obtain ⟨r, hrecord, hread⟩ := proceed_lift_bind_eq_ok hread
  obtain ⟨_, s₂, htriggers, hread⟩ := proceed_bind_eq_ok hread
  obtain ⟨_, s₃, hothers, hread⟩ := proceed_bind_eq_ok hread
  obtain ⟨_, s₄, hfind, hread⟩ := proceed_bind_eq_ok hread
  refine ⟨found, (sections raw).2, r, Prod.ext hfound rfl, hrecord, ?_⟩
  unfold front
  rw [check_append, check_append, check_append]
  exact ⟨⟨⟨hcheck hnotices, hcheck htriggers⟩, hcheck hothers⟩, hcheck hfind⟩

/-- A graph that a document is parsed as was made of the record of the document, behind what there
is to say before it, and then settled. -/
theorem exists_settle_of_parse (hload : load document reading = .ok raw)
    (h : (parse limits freshId document reading).1 = .ok g) :
    ∃ found notices r made s, sections raw = (.ok found, notices)
      ∧ AutomationRecord.ofEntries found = .ok r ∧ Notice.check (front notices r found) = .ok ()
      ∧ proceed (readGraph limits (Metadata.find found).1 (modernTriggers r.triggers).1 r)
          { notices := front notices r found } = (.ok made, s)
      ∧ proceed (settle limits freshId (Metadata.find found).1 r made) s
          = (.ok g, (proceed (read limits freshId document reading) {}).2) := by
  obtain ⟨found, notices, r, hsections, hr, hcheck⟩ := of_parse_eq_ok hload h
  have hread := proceed_read hload hsections hr hcheck limits freshId
  obtain ⟨made, s, hmade, hsettle⟩ := proceed_bind_eq_ok (hread.symm.trans (Prod.ext h rfl))
  exact ⟨found, notices, r, made, s, hsections, hr, hcheck, hmade, hsettle⟩

end Whole

/-- The keys of the triggers and of the actions of a document that is read are texts, unless they are
byte strings. -/
theorem isStr_of_parse {g g' : Graph} {limits : Limits} {freshId : String} {strategy : Strategy}
    {order : List String} {reading : Nat} {triggers actions : List Entries}
    {conditions : List Value} (hne : triggers ≠ [])
    (h : (parse limits freshId (.ofEntries (assemble g strategy order (triggers.map .ofEntries)
      conditions (actions.map .ofEntries))) reading).1 = .ok g') :
    ∀ es ∈ triggers ++ actions, (∀ e ∈ es, ∀ bs, e.1 ≠ .bytes bs) → ∀ e ∈ es, e.1.isStr = true := by
  have hload (es : Entries) : load (.ofEntries es) reading = .ok es := rfl
  obtain ⟨found, notices, r, hsections, hr, -⟩ := of_parse_eq_ok (hload _) h
  obtain ⟨document, hdocument, -, hget, -⟩ := exists_sections_assemble g strategy order conditions
    (actions.map .ofEntries) (List.map_eq_nil_iff.not.2 hne)
  rw [hdocument] at hsections
  cases hsections
  have hfields := AutomationRecord.ofEntries_eq_ok_iff.1 hr
  -- each mapping of a section was read, and with it its keys
  have hlisted {name : String} {listed read : List Entries}
      (hread : Reader.field found name (Reader.list Reader.entries) = .value read)
      (hsection : found.get? name = some (.ofItems (listed.map .ofEntries))) :
      ∀ es ∈ listed, ∃ read, Reader.entries (.ofEntries es) = .value read := by
    intro es hes
    obtain ⟨v, hv, hlist⟩ := Reader.of_field_eq_value hread
    cases hsection.symm.trans hv
    exact Reader.exists_of_list_eq_value hlist rfl (List.mem_map_of_mem hes)
  have hall : ∀ es ∈ triggers ++ actions, ∃ read, Reader.entries (.ofEntries es) = .value read :=
    List.forall_mem_append.2
      ⟨hlisted hfields.triggers ((hget "triggers" (by decide)).trans (get?_assemble_triggers ..)),
        hlisted hfields.actions ((hget "actions" (by decide)).trans (get?_assemble_actions ..))⟩
  intro es hes hbytes e he
  obtain ⟨s, hs⟩ := (Reader.exists_entries_iff (o := {}) rfl).1 (hall es hes) e he
  have hkey := hbytes e he
  generalize e.1 = key at hs hkey
  cases key with
  | str s => rfl
  | bytes bs => exact absurd rfl (hkey bs)
  | _ => cases hs

/-- A reading of a written document makes a graph of what was written, and settles it. -/
theorem exists_parse_assemble {g : Graph} (hg : g.Headed) (strategy : Strategy)
    (order : List String)
    {triggers : List Entries} (htriggers : ∀ es ∈ triggers, es.Keyed)
    (hplatform : ∀ es ∈ triggers, es.has "platform" = false) (hne : triggers ≠ [])
    (conditions : List Value) {actions : List Entries} (hactions : ∀ es ∈ actions, es.Keyed) :
    ∃ document r m, Recovers g strategy order document r m ∧ r.conditions = conditions
      ∧ r.actions = actions
      ∧ ∀ limits freshId reading, parse limits freshId (.ofEntries (assemble g strategy order
          (triggers.map .ofEntries) conditions (actions.map .ofEntries))) reading
        = Reads.start (readGraph limits (some m) triggers r
            >>= settle limits freshId (some m) r) := by
  obtain ⟨document, r, m, hsections, hr, rfl, hconditions, hactions⟩ :=
    exists_recovers hg strategy order htriggers hne conditions hactions
  refine ⟨document, r, m, hr, hconditions, hactions, ?_⟩
  intro limits freshId reading
  -- nothing is told of a document that was written with present names and no further fields
  have hfront : front [] r document = [] := by
    unfold front
    rw [modernTriggers_of_forall hplatform, hr.others, hr.metadata]
    rfl
  have hread (es : Entries) (hes : sections es = (.ok document, [])) :=
    proceed_read (show load (.ofEntries es) reading = .ok es from rfl) hes hr.record
      (by rw [hfront]; rfl) limits freshId
  rw [hfront, hr.metadata, modernTriggers_of_forall hplatform] at hread
  unfold parse
  rw [start_eq_proceed, start_eq_proceed, hread _ hsections]

/-- A reading of a written document makes a graph of its triggers, conditions and actions. -/
theorem parse_assemble {g : Graph} (hg : g.Headed) (strategy : Strategy) (order : List String)
    {triggers : List Entries} (htriggers : ∀ es ∈ triggers, es.Keyed)
    (hplatform : ∀ es ∈ triggers, es.has "platform" = false) (hne : triggers ≠ [])
    (conditions : List Value) {actions : List Entries} (hactions : ∀ es ∈ actions, es.Keyed) :
    ∃ r m, r.conditions = conditions ∧ r.actions = actions
      ∧ r.id = g.settings.automationId.bind ifNotEmpty
      ∧ m.nodeIds = order ∧ m.strategy = some strategy.name
      ∧ ∀ limits freshId reading, parse limits freshId (.ofEntries (assemble g strategy order
          (triggers.map .ofEntries) conditions (actions.map .ofEntries))) reading
        = Reads.start (readGraph limits (some m) triggers r
            >>= settle limits freshId (some m) r) := by
  obtain ⟨document, r, m, hr, hconditions, hactions, hparse⟩ :=
    exists_parse_assemble hg strategy order htriggers hplatform hne conditions hactions
  exact ⟨r, m, hconditions, hactions, hr.id, hr.nodeIds, hr.strategy, hparse⟩

/-- Placing the nodes changes nothing that there is to say about them. -/
theorem notices_of_placed {g g' : Graph} (m : Option Metadata)
    (h : g'.nodes = g.nodes.map fun n => m.elim n (·.place n)) :
    g'.notices limits = g.notices limits := by
  have hplace (n : Node) : (m.elim n (·.place n)).id = n.id
      ∧ (m.elim n (·.place n)).issues limits = n.issues limits := by
    cases m with
    | none => exact ⟨rfl, rfl⟩
    | some m =>
      refine ⟨m.place_id n, ?_⟩
      unfold Node.issues
      rw [Option.elim_some, m.place_kind, m.place_data]
  unfold Graph.notices
  rw [h, List.foldlM_map]
  refine congrArg (fun f => g.nodes.foldlM f []) (funext fun acc => funext fun n => ?_)
  rw [(hplace n).1, (hplace n).2]

/-- A well-formed graph whose issues can be told is settled, when the id of the automation can be
written: its nodes are placed, and nothing else in them changes. -/
theorem exists_proceed_settle_of_written {g : Graph} (hg : g.WellFormed)
    (hsize : g.nodes.length ≤ limits.maxGraphNodes)
    (hissues : ∀ n ∈ g.nodes, ∃ issues, n.issues limits = .ok issues) (m : Option Metadata)
    {r : AutomationRecord} {automationId : Option String}
    (hid : r.id.mapM Value.written = .ok automationId) (s : Intake) :
    ∃ g' notices, proceed (settle limits freshId m r g) s
        = (.ok g', { s with notices := s.notices ++ notices })
      ∧ g'.nodes = g.nodes.map (fun n => m.elim n (·.place n)) ∧ g'.edges = g.edges
      ∧ g'.strategy = g.strategy ∧ g.notices limits = .ok notices := by
  have hdescribe : ∃ g', describe (m.elim g (placeNodes g)) m r freshId = .ok g'
      ∧ g'.nodes = g.nodes.map (fun n => m.elim n (·.place n)) ∧ g'.edges = g.edges
      ∧ g'.strategy = g.strategy := by
    unfold describe
    dsimp only
    rw [hid]
    cases m with
    | none => exact ⟨_, rfl, (List.map_id' g.nodes).symm, rfl, rfl⟩
    | some m => exact ⟨_, rfl, rfl, rfl, rfl⟩
  obtain ⟨g', hdescribe, hnodes, hedges, hstrategy⟩ := hdescribe
  -- positions are all that the metadata gives to nodes, and no check looks at them
  have hwf : g'.WellFormed := by
    refine (Graph.problems_of_map (fun n => ?_) (fun n => ?_) hnodes hedges).trans hg
    · cases m with
      | none => rfl
      | some m => exact m.place_id n
    · cases m with
      | none => rfl
      | some m => exact m.place_kind n
  have hcheck : g'.check limits = .ok () := by
    refine Graph.check_eq_ok_iff.2 ⟨?_, hwf⟩
    rwa [hnodes, List.length_map]
  obtain ⟨notices, hnotices, hwritable, -⟩ := Graph.exists_notices_eq_ok hissues
  have hnotices' : g'.notices limits = .ok notices :=
    (notices_of_placed m hnodes).trans hnotices
  refine ⟨g', notices, ?_, hnodes, hedges, hstrategy, hnotices⟩
  rw [settle_eq, proceed_bind, proceed_lift, hdescribe]
  dsimp only
  rw [proceed_bind, proceed_lift, hcheck]
  dsimp only
  rw [proceed_bind, proceed_lift, hnotices']
  dsimp only
  rw [proceed_bind, proceed_note hwritable]
  rfl

/-- A well-formed graph whose issues can be told is settled: its nodes are placed, and nothing else
in them changes. -/
theorem exists_proceed_settle {g : Graph} (hg : g.WellFormed)
    (hsize : g.nodes.length ≤ limits.maxGraphNodes)
    (hissues : ∀ n ∈ g.nodes, ∃ issues, n.issues limits = .ok issues) (m : Metadata)
    {r : AutomationRecord} {o : Option String} (hid : r.id = o.bind ifNotEmpty) (s : Intake) :
    ∃ g' notices, proceed (settle limits freshId (some m) r g) s
        = (.ok g', { s with notices := s.notices ++ notices })
      ∧ g'.nodes = g.nodes.map m.place ∧ g'.edges = g.edges ∧ g'.strategy = g.strategy
      ∧ g'.WellFormed ∧ ∀ notice ∈ notices, ∃ n ∈ g.nodes, ∃ issue, notice = .node n.id issue := by
  -- an id that was written is a text, and an empty one was left out
  obtain ⟨automationId, hwritten⟩ : ∃ automationId, r.id.mapM Value.written = .ok automationId := by
    rw [hid]
    cases o with
    | none => exact ⟨none, rfl⟩
    | some s =>
      rw [Option.bind_some, ifNotEmpty]
      split
      · exact ⟨none, rfl⟩
      · exact ⟨some s, rfl⟩
  obtain ⟨g', notices, hsettle, hnodes, hedges, hstrategy, hnotices⟩ :=
    exists_proceed_settle_of_written freshId hg hsize hissues (some m) hwritten s
  obtain ⟨notices', hnotices', -, hnode⟩ := Graph.exists_notices_eq_ok hissues
  cases hnotices.symm.trans hnotices'
  exact ⟨g', notices, hsettle, hnodes, hedges, hstrategy,
    (Graph.problems_of_map m.place_id m.place_kind hnodes hedges).trans hg, hnode⟩

/-- A graph that was settled is the graph with its nodes placed, and with what the document says of
the automation as a whole; the check accepts it, and what there is to say about its nodes was
told. -/
theorem eq_of_settle_eq_ok {limits : Limits} {freshId : String} {m : Option Metadata}
    {r : AutomationRecord} {g g' : Graph} {s s' : Intake}
    (h : proceed (settle limits freshId m r g) s = (.ok g', s')) :
    ∃ automationId notices, r.id.mapM Value.written = .ok automationId
      ∧ g' = { g with
          nodes := g.nodes.map fun n => m.elim n (·.place n)
          id := ((m.bind (·.graphId)).filter (· != "")).getD freshId
          version := .int ((m.bind (·.graphVersion)).getD 1)
          name := r.name, description := r.description
          settings := { r.settings with
            automationId, vars := r.settings.vars.erase Metadata.key } }
      ∧ g'.check limits = .ok () ∧ g'.notices limits = .ok notices
      ∧ s'.notices = s.notices ++ notices := by
  unfold settle at h
  dsimp only at h
  -- the graph is described, checked, and told of, in this order
  obtain ⟨g₁, hdescribe, h⟩ := proceed_lift_bind_eq_ok h
  obtain ⟨_, hcheck, h⟩ := proceed_lift_bind_eq_ok h
  obtain ⟨notices, hnotices, h⟩ := proceed_lift_bind_eq_ok h
  obtain ⟨_, t, hnote, h⟩ := proceed_bind_eq_ok h
  cases h
  unfold describe at hdescribe
  obtain ⟨automationId, hid, hdescribe⟩ := Outcome.bind_eq_ok.1 hdescribe
  cases hdescribe
  have hs := congrArg Intake.notices (of_proceed_note_eq_ok hnote)
  refine ⟨automationId, notices, hid, ?_, hcheck, hnotices, hs⟩
  cases m with
  | none => simp only [Option.elim_none, List.map_id']
  | some m => rfl

/-- A graph that was settled is well formed and not too large, only its nodes were placed, and what
there is to say about them was told. -/
theorem exists_of_settle_eq_ok {limits : Limits} {freshId : String} {m : Option Metadata}
    {r : AutomationRecord} {g g' : Graph} {s s' : Intake}
    (h : proceed (settle limits freshId m r g) s = (.ok g', s')) :
    ∃ automationId notices, r.id.mapM Value.written = .ok automationId
      ∧ g'.nodes = g.nodes.map (fun n => m.elim n (·.place n)) ∧ g'.edges = g.edges
      ∧ g'.WellFormed ∧ g'.nodes.length ≤ limits.maxGraphNodes
      ∧ g'.notices limits = .ok notices ∧ s'.notices = s.notices ++ notices := by
  obtain ⟨automationId, notices, hid, rfl, hcheck, hnotices, hs⟩ := eq_of_settle_eq_ok h
  obtain ⟨hsize, hwf⟩ := Graph.check_eq_ok_iff.1 hcheck
  exact ⟨automationId, notices, hid, rfl, rfl, hwf, hsize, hnotices, hs⟩

theorem of_settle_eq_ok {limits : Limits} {freshId : String} {m : Option Metadata}
    {r : AutomationRecord} {g g' : Graph} {s s' : Intake}
    (h : proceed (settle limits freshId m r g) s = (.ok g', s')) :
    g'.nodes = g.nodes.map (fun n => m.elim n (·.place n)) ∧ g'.edges = g.edges
      ∧ g'.WellFormed := by
  obtain ⟨_, _, -, hnodes, hedges, hwf, -⟩ := exists_of_settle_eq_ok h
  exact ⟨hnodes, hedges, hwf⟩

/-! ## Documents without metadata -/

section

/-- The record of a document, and the metadata in it when there is any that can be used. -/
def outline (document : Value) (reading : Nat := 0) :
    Outcome (AutomationRecord × Option Metadata) := do
  let raw ← load document reading
  let sections ← (sections raw).1
  let record ← AutomationRecord.ofEntries sections
  return (record, (Metadata.find sections).1)

variable {limits : Limits} {freshId : String} {document : Value} {reading : Nat}
  {r : AutomationRecord} {g : Graph}

/-- The graph of a document without metadata: that of a program that its sections are read as, with
what the record says of the automation as a whole. -/
theorem exists_program (hrecord : outline document reading = .ok (r, none))
    (h : (parse limits freshId document reading).1 = .ok g) :
    ∃ p automationId, Program.SectionsRead limits (modernTriggers r.triggers).1 r.conditions
        r.actions p
      ∧ r.id.mapM Value.written = .ok automationId
      ∧ g = { p.graph with
          id := freshId, version := .int 1, name := r.name, description := r.description
          settings := { r.settings with
            automationId, vars := r.settings.vars.erase Metadata.key } }
      ∧ g.check limits = .ok () ∧ ∃ issues, g.notices limits = .ok issues := by
  obtain ⟨raw, hload, hrecord⟩ := Outcome.bind_eq_ok.1 hrecord
  obtain ⟨found, notices, r', made, s, hsections, hr, -, hmade, hsettle⟩ :=
    exists_settle_of_parse hload h
  rw [hsections, Outcome.ok_bind, hr, Outcome.ok_bind] at hrecord
  obtain ⟨rfl, hnone⟩ := Prod.mk.inj (Except.ok.inj hrecord)
  rw [hnone] at hmade hsettle
  obtain ⟨p, t, hprogram, hmade⟩ := proceed_bind_eq_ok hmade
  cases hmade
  obtain ⟨automationId, issues, hid, hg, hcheck, hissues, -⟩ := eq_of_settle_eq_ok hsettle
  refine ⟨p, automationId, Program.sectionsRead_of_read rfl hprogram, hid, ?_, hcheck, issues, hissues⟩
  -- without metadata no node is placed
  rw [hg]
  simp only [Option.elim_none, List.map_id', Option.bind_none, Option.filter_none, Option.getD_none]

/-- The graph of a document without metadata is as a reading makes it. -/
theorem exists_parsed (hrecord : outline document reading = .ok (r, none))
    (h : (parse limits freshId document reading).1 = .ok g) :
    ∃ p, Program.SectionsRead limits (modernTriggers r.triggers).1 r.conditions r.actions p
      ∧ Program.Parsed p g ∧ g.nodes.length ≤ limits.maxGraphNodes := by
  obtain ⟨p, automationId, hread, -, rfl, hcheck, -⟩ := exists_program hrecord h
  obtain ⟨hsize, hwf⟩ := Graph.check_eq_ok_iff.1 hcheck
  exact ⟨p, hread, hread.parsed rfl rfl hwf, hsize⟩

end

end Document

end Automation
