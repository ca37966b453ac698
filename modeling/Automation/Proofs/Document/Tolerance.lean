import Automation.Proofs.Dispatch.Refusing
import Automation.Proofs.Document.Reading
import Automation.Proofs.Document.Rereading
import Automation.Proofs.Document.Storing
import Automation.Proofs.Graph.Renaming
import Automation.Proofs.Program.Notices

/-!
# Metadata never makes a document unreadable

A document that is read without metadata is read with anything stored as its metadata
(`Document.parse_storeMetadata`). Unless the metadata announces a dispatch loop and the loop is
decoded, the nodes and edges are the same, perhaps under other names, and no notice is lost.

This takes a loop that keeps to the limits, and integers that can be quoted: what goes over a limit
in a loop, or cannot be quoted in a notice, is no reason to fall back on the structure of the
document (`Document.exists_storeMetadata_not_parse`).
-/

namespace Automation

open Reads

/-- A node wherever an editor draws it. -/
def Node.unplaced (n : Node) : Node := { n with position := none }

namespace Document

variable {limits : Limits} {freshId : String} {document : Value} {reading : Nat}
  {raw found : Entries} {notices : List Notice} {r : AutomationRecord} {g : Graph}

/-! ## Other names -/

/-- A graph with the nodes and the edges of another under other names, drawn where it may be. -/
structure Renames (f : String → String) (g g' : Graph) : Prop where
  injective : ∀ m ∈ g.nodes, ∀ n ∈ g.nodes, f m.id = f n.id → m = n
  nodes : g'.nodes.map Node.unplaced = (g.renamed f).nodes.map Node.unplaced
  edges : g'.edges.map Edge.ends = (g.renamed f).edges.map Edge.ends

theorem renames_id (hwf : g.WellFormed) : Renames id g g where
  injective _ hm _ hn := hwf.eq_of_id_eq hm hn
  nodes := by
    have hnodes : (g.renamed id).nodes = g.nodes := List.map_id' g.nodes
    rw [hnodes]
  edges := by
    have hedges : (g.renamed id).edges = g.edges := List.map_id' g.edges
    rw [hedges]

/-- The names that nodes get from metadata. -/
theorem renames_renameNodes (hwf : g.WellFormed) {ids : List String}
    (hlength : ids.length = g.nodes.length) (hrenamed : (renameNodes g ids).WellFormed) :
    ∃ f, Renames f g (renameNodes g ids)
      ∧ (renameNodes g ids).nodes = (g.renamed f).nodes := by
  let f (id : String) : String :=
    ((((g.nodes.map (·.id)).zip ids).find? (·.1 == id)).map (·.2)).getD id
  -- the ids are pairwise different, so each node is renamed to the id in its place
  have hf {x : Node × String} (hx : x ∈ g.nodes.zip ids) : f x.1.id = x.2 := by
    have hmem : (x.1.id, x.2) ∈ (g.nodes.map (·.id)).zip ids := by
      rw [List.zip_map_left]
      exact List.mem_map_of_mem hx
    show (((((g.nodes.map (·.id)).zip ids).find? (·.1 == x.1.id)).map (·.2)).getD x.1.id) = _
    rw [find?_zip_of_nodup hwf.nodup (by simp [hlength]) hmem]
    rfl
  have hnodes : (renameNodes g ids).nodes = (g.renamed f).nodes := by
    have hfirst : g.nodes = (g.nodes.zip ids).map Prod.fst :=
      (List.map_fst_zip (Nat.le_of_eq hlength.symm)).symm
    show (g.nodes.zip ids).map _ = g.nodes.map _
    conv_rhs => rw [hfirst]
    rw [List.map_map]
    refine List.map_congr_left fun x hx => ?_
    rw [Function.comp_apply, Node.renamed, hf hx]
  refine ⟨f, ⟨fun m hm n hn heq => ?_, by rw [hnodes], ?_⟩, hnodes⟩
  · have hnodup := hrenamed.nodup
    rw [hnodes, Graph.renamed, List.map_map] at hnodup
    exact List.inj_on_of_nodup_map hnodup hm hn heq
  · show (g.edges.map _).map Edge.ends = (g.edges.map _).map Edge.ends
    rw [List.map_map, List.map_map]
    rfl

/-- Whatever ids metadata has, the nodes get some names. -/
theorem renames_restoreIds (hwf : g.WellFormed) (m : Metadata) :
    ∃ f, Renames f g (restoreIds g m).1 ∧ (restoreIds g m).1.nodes = (g.renamed f).nodes := by
  have hself : ∃ f, Renames f g g ∧ g.nodes = (g.renamed f).nodes :=
    ⟨id, renames_id hwf, (List.map_id' g.nodes).symm⟩
  unfold restoreIds
  split
  · exact hself
  · split
    · exact hself
    · rename_i hlength
      dsimp only
      split
      · rename_i hproblems
        exact renames_renameNodes hwf (by simpa using hlength) hproblems
      · exact hself

/-- The names of a graph depend on its nodes and edges only. -/
theorem Renames.of_eq {f : String → String} {g' h : Graph} (hf : Renames f g g')
    (hnodes : h.nodes = g.nodes) (hedges : h.edges = g.edges) : Renames f h g' where
  injective := hnodes ▸ hf.injective
  nodes := by rw [hf.nodes, Graph.renamed, Graph.renamed, hnodes]
  edges := by rw [hf.edges, Graph.renamed, Graph.renamed, hedges]

/-- Placed nodes have the names that they had. -/
theorem Renames.placed {f : String → String} {g' placed : Graph} (h : Renames f g g')
    (m : Option Metadata) (hnodes : placed.nodes = g'.nodes.map fun n => m.elim n (·.place n))
    (hedges : placed.edges = g'.edges) : Renames f g placed where
  injective := h.injective
  nodes := by
    rw [hnodes, List.map_map, ← h.nodes]
    refine List.map_congr_left fun n _ => ?_
    cases m with
    | none => rfl
    | some m => rw [Function.comp_apply, Option.elim_some, m.place_eq]; rfl
  edges := by rw [hedges, h.edges]

/-! ## Stored metadata -/

/-- The loop that the metadata of a document announces, as it is decoded. -/
def announced (limits : Limits) (raw : Entries) (r : AutomationRecord) : Option (Outcome Graph) :=
  ((Metadata.find raw).1.filter (·.strategy = some Strategy.dispatch.name)).map fun m =>
    decodeLoop limits m (modernTriggers r.triggers).1 r

section Stored

variable {r' : AutomationRecord} {triggers : List Entries} {p : Program} {before before' : List Notice}
  {s : Intake}

/-- A program that was read behind some notices is read behind any others, with the same to say. -/
theorem proceed_program (hp : proceed (Program.read limits triggers r.conditions r.actions)
      { notices := before } = (.ok p, s)) (before' : List Notice) :
    ∃ more s', s.notices = before ++ more
      ∧ proceed (Program.read limits triggers r.conditions r.actions) { notices := before' }
        = (.ok p, s') ∧ s'.notices = before' ++ more := by
  have hkeeps (notices : List Notice) :=
    Program.keeps_read limits triggers r.conditions r.actions notices {}
  simp only [List.append_nil] at hkeeps
  rw [hkeeps] at hp
  obtain ⟨hresult, rfl⟩ := Prod.mk.inj hp
  exact ⟨_, _, rfl, (hkeeps before').trans (by rw [hresult]), rfl⟩

/-- The structure of a document is read with metadata when it is read without. -/
theorem exists_restored (hp : proceed (Program.read limits triggers r.conditions r.actions)
      { notices := before } = (.ok p, s)) (hwf : p.graph.WellFormed)
    (hsub : before.Sublist before') (m : Option Metadata) :
    ∃ g₁ s', proceed (readStructure limits m triggers r) { notices := before' } = (.ok g₁, s')
      ∧ g₁.WellFormed ∧ s.notices.Sublist s'.notices
      ∧ ∃ f, Renames f p.graph g₁ ∧ g₁.nodes = (p.graph.renamed f).nodes := by
  obtain ⟨more, t, hnotices, hread, ht⟩ := proceed_program hp before'
  have hfront : s.notices.Sublist t.notices := by
    rw [hnotices, ht]
    exact hsub.append (List.Sublist.refl more)
  -- without metadata the nodes keep their ids
  cases m with
  | none =>
    refine ⟨p.graph, t, ?_, hwf, hfront, id, renames_id hwf, (List.map_id' p.graph.nodes).symm⟩
    unfold readStructure
    rw [proceed_bind_of_ok hread]
    rfl
  | some m =>
    obtain ⟨hwf', hcheck, -⟩ := restoreIds_keeps hwf m
    refine ⟨(restoreIds p.graph m).1, { t with notices := t.notices ++ (restoreIds p.graph m).2 },
      ?_, hwf', hfront.trans (List.sublist_append_left _ _), renames_restoreIds hwf m⟩
    unfold readStructure
    rw [proceed_bind_of_ok hread]
    dsimp only
    rw [proceed_bind_of_ok (proceed_note hcheck t)]
    rfl

/-- What there is to say about the triggers of a document can be told when it can be of its
program. -/
theorem told_triggers {conditions : List Value} {actions : List Entries}
    (hread : Program.SectionsRead limits triggers conditions actions p)
    (htold : ∀ n ∈ p.graph.nodes, n.IsTold limits) :
    ∀ es ∈ triggers, ∀ n : Node, n.kind = .trigger → n.data = es → n.IsTold limits := by
  intro es hes n hkind hdata
  rw [← Program.map_data_freshNodes .trigger [] triggers, ← hread.triggers] at hes
  obtain ⟨t, ht, rfl⟩ := List.mem_map.1 hes
  have hmem : t ∈ p.graph.nodes := List.mem_append_left _ (List.mem_append_left _ ht)
  rw [hread.triggers] at ht
  exact (htold t hmem).of_eq (hkind.trans (Program.mem_freshNodes ht).1.symm) hdata

/-- The graph of a document is made with metadata when it is made without: of the dispatch loop that
the metadata announces, or else of the structure of the document. -/
theorem exists_readGraph (hp : proceed (Program.read limits triggers r.conditions r.actions)
      { notices := before } = (.ok p, s)) (hwf : p.graph.WellFormed)
    (htold : ∀ n ∈ p.graph.nodes, n.IsTold limits)
    (hactions : ∀ es ∈ r.actions, Entries.HasText es) (hsub : before.Sublist before')
    (m : Option Metadata) (hlimit : ∀ block ∈ m, block.strategy = some Strategy.dispatch.name →
      ∀ cause, decodeLoop limits block triggers r ≠ .error (.refused (.tooLarge cause))) :
    (∃ block loop, m = some block ∧ block.strategy = some Strategy.dispatch.name
        ∧ decodeLoop limits block triggers r = .ok loop
        ∧ loop.WellFormed ∧ (∀ n ∈ loop.nodes, n.IsTold limits)
        ∧ proceed (readGraph limits m triggers r) { notices := before' }
          = (.ok { loop with strategy := block.strategy }, { notices := before' }))
      ∨ ∃ g₁ s', proceed (readGraph limits m triggers r) { notices := before' } = (.ok g₁, s')
        ∧ g₁.WellFormed ∧ s.notices.Sublist s'.notices
        ∧ ∃ f, Renames f p.graph g₁ ∧ g₁.nodes = (p.graph.renamed f).nodes := by
  unfold readGraph
  cases m with
  | none => exact .inr (exists_restored hp hwf hsub none)
  | some block =>
    by_cases hstrategy : block.strategy = some Strategy.dispatch.name
    · have hdecides := decides_decodeLoop block
        (told_triggers (Program.sectionsRead_of_read rfl hp) htold) hactions
      dsimp only
      rw [if_pos hstrategy]
      generalize hloop : decodeLoop limits block triggers r = o at hdecides
      cases hdecides with
      | ok h => exact .inl ⟨block, _, rfl, hstrategy, hloop, h.1, h.2, rfl⟩
      | malformed cause =>
        -- a block that announces a loop, and the structure that is read instead
        obtain ⟨g₁, s', hproceed, hwf', hsub', f, hf, hnodes⟩ :=
          exists_restored hp hwf (hsub.trans (List.sublist_append_left _ [.notDispatch cause]))
            (some block)
        have hcheck : Notice.check [.notDispatch cause] = .ok () := rfl
        refine .inr ⟨g₁, s', ?_, hwf', hsub', f, hf, hnodes⟩
        dsimp only
        rw [proceed_bind_of_ok (proceed_note hcheck _)]
        exact hproceed
      | tooLarge cause => exact absurd hloop (hlimit block rfl hstrategy cause)
    · obtain ⟨g₁, s', hproceed, hwf', hsub', f, hf, hnodes⟩ :=
        exists_restored hp hwf hsub (some block)
      refine .inr ⟨{ g₁ with strategy := block.strategy }, s', ?_, hwf', hsub', f,
        ⟨hf.injective, hf.nodes, hf.edges⟩, hnodes⟩
      dsimp only
      rw [if_neg hstrategy, proceed_bind_of_ok hproceed]
      rfl

/-- A graph under other names is settled when the graph can be. -/
theorem exists_settled {g₁ : Graph} {f : String → String} {issues : List Notice}
    {automationId : Option String} (hwf : g₁.WellFormed) (hf : Renames f g g₁)
    (hnodes : g₁.nodes = (g.renamed f).nodes) (hsize : g.nodes.length ≤ limits.maxGraphNodes)
    (hissues : g.notices limits = .ok issues) (hid : r.id.mapM Value.written = .ok automationId)
    (m : Option Metadata) (s : Intake) :
    ∃ g', proceed (settle limits freshId m r g₁) s
        = (.ok g', { s with notices := s.notices ++ issues.map (Notice.renamed f) })
      ∧ Renames f g g' := by
  -- what is told of a renamed graph is what is told of the graph, with the ids renamed
  have hnotices : g₁.notices limits = .ok (issues.map (Notice.renamed f)) := by
    have hsame : g₁.notices limits = (g.renamed f).notices limits := by
      unfold Graph.notices
      rw [hnodes]
    rw [hsame, Graph.notices_renamed, hissues]
    rfl
  have hlength : g₁.nodes.length ≤ limits.maxGraphNodes := by
    rw [hnodes]
    show ((g.nodes.map _).length : Int) ≤ _
    rwa [List.length_map]
  obtain ⟨g', notices, hsettle, hplaced, hedges, -, hnotices'⟩ :=
    exists_proceed_settle_of_written freshId hwf hlength (Graph.of_notices_eq_ok hnotices) m hid s
  cases hnotices.symm.trans hnotices'
  exact ⟨g', hsettle, hf.placed m hplaced hedges⟩

/-- A document without metadata that is read: its program is read behind what there is to say
before, and the graph of the program is settled. -/
theorem exists_read_program (hload : load document reading = .ok raw)
    (hnone : Metadata.find raw = (none, [])) (hrecord : outline document reading = .ok (r, none))
    (h : (parse limits freshId document reading).1 = .ok g) :
    ∃ found notices p s automationId issues, sections raw = (.ok found, notices)
      ∧ AutomationRecord.ofEntries found = .ok r ∧ Metadata.find found = (none, [])
      ∧ Notice.check (front notices r found) = .ok ()
      ∧ proceed (Program.read limits (modernTriggers r.triggers).1 r.conditions r.actions)
          { notices := front notices r found } = (.ok p, s)
      ∧ (g.nodes = p.graph.nodes ∧ g.edges = p.graph.edges ∧ p.graph.WellFormed)
      ∧ g.nodes.length ≤ limits.maxGraphNodes ∧ r.id.mapM Value.written = .ok automationId
      ∧ g.notices limits = .ok issues
      ∧ (parse limits freshId document reading).2 = s.notices ++ issues := by
  obtain ⟨found, notices, r₀, g₀, s, hsections, hr₀, hcheck, hstructure, hsettle⟩ :=
    exists_settle_of_parse hload h
  have hr : r₀ = r := by
    unfold outline at hrecord
    rw [hload, Outcome.ok_bind, hsections, Outcome.ok_bind, hr₀, Outcome.ok_bind] at hrecord
    exact (Prod.mk.inj (Except.ok.inj hrecord)).1
  subst hr
  -- no metadata is found in the sections when none was in the document
  have hfound : Metadata.find found = (none, []) := by
    rw [← hnone]
    unfold Metadata.find Entries.get
    rw [get?_variables_of_sections hsections]
  rw [hfound] at hstructure hsettle
  obtain ⟨p, t, hp, hgraph⟩ := proceed_bind_eq_ok hstructure
  cases hgraph
  obtain ⟨automationId, issues, hid, hnodes, hedges, hwf, hsize, hissues, hsaid⟩ :=
    exists_of_settle_eq_ok hsettle
  have hwf₀ : p.graph.WellFormed :=
    (Graph.problems_of_map (fun _ => rfl) (fun _ => rfl) hnodes hedges).symm.trans hwf
  exact ⟨found, notices, p, s, automationId, issues, hsections, hr₀, hfound, hcheck, hp,
    ⟨hnodes.trans (List.map_id' _), hedges, hwf₀⟩, hsize, hid, hissues, hsaid⟩

/-- A document that is read without metadata is read with any value stored as its metadata, unless
the metadata announces a dispatch loop that goes over a limit. When it announces none, or one that
is not decoded, the graph has the same nodes and edges under other names, and nothing that there is
to say is lost. -/
theorem parse_storeMetadata (hload : load document reading = .ok raw) (htext : raw.HasText)
    {m : Value} (hm : m.hasText = true) (hnone : Metadata.find raw = (none, []))
    (hrecord : outline document reading = .ok (r, none))
    (h : (parse limits freshId document reading).1 = .ok g)
    (hlimit : ∀ cause,
      announced limits (storeMetadata m raw) r ≠ some (.error (.refused (.tooLarge cause))))
    (hsize : ∀ loop, announced limits (storeMetadata m raw) r = some (.ok loop) →
      loop.nodes.length ≤ limits.maxGraphNodes) :
    ∃ g', (parse limits freshId (.ofEntries (storeMetadata m raw)) reading).1 = .ok g'
      ∧ ((∀ loop, announced limits (storeMetadata m raw) r ≠ some (.ok loop)) →
        ∃ f, Renames f g g' ∧ ∃ before before' issues, g.notices limits = .ok issues
          ∧ (parse limits freshId document reading).2 = before ++ issues
          ∧ (parse limits freshId (.ofEntries (storeMetadata m raw)) reading).2
            = before' ++ issues.map (Notice.renamed f)
          ∧ before.Sublist before') := by
  obtain ⟨found, notices, p, s, automationId, issues, hsections, hr, hfound, hcheck, hp,
    ⟨hnodes, hedges, hwf⟩, hlength, hid, hissues, hsaid⟩ := exists_read_program hload hnone hrecord h
  have hissues' : p.graph.notices limits = .ok issues := by
    unfold Graph.notices at hissues ⊢
    rwa [← hnodes]
  have hactions := (AutomationRecord.HasText.ofEntries
    (hasText_of_sections htext (congrArg Prod.fst hsections)) hr).actions
  -- the record of the document with metadata differs in the variables
  obtain ⟨found', vars, hsections', hr', hfind⟩ := exists_sections_storeMetadata hsections hr m
  let r' : AutomationRecord := { r with settings := { r.settings with vars } }
  have hfront : (front notices r found).Sublist (front notices r' found') := by
    unfold front
    rw [hfound, List.append_nil]
    exact List.sublist_append_left _ _
  have hcheck' : Notice.check (front notices r' found') = .ok () := by
    unfold front at hcheck ⊢
    rw [check_append] at hcheck ⊢
    rw [hfind]
    exact ⟨hcheck.1, Metadata.check_find (hasText_storeMetadata htext hm)⟩
  have hload' : load (.ofEntries (storeMetadata m raw)) reading = .ok (storeMetadata m raw) := rfl
  have hread := proceed_read hload' hsections' hr' hcheck' limits freshId
  rw [hfind] at hread
  have hsettled {g₁ g' : Graph} {s₁ s₂ : Intake}
      (hgraph : proceed (readGraph limits (Metadata.find (storeMetadata m raw)).1
        (modernTriggers r.triggers).1 r') { notices := front notices r' found' } = (.ok g₁, s₁))
      (hdone : proceed (settle limits freshId (Metadata.find (storeMetadata m raw)).1 r' g₁) s₁
        = (.ok g', s₂)) :
      proceed (read limits freshId (.ofEntries (storeMetadata m raw)) reading) {} = (.ok g', s₂) := by
    rw [hread, proceed_bind_of_ok hgraph, hdone]
  have hannounced {block : Metadata} {o : Outcome Graph}
      (hblock : (Metadata.find (storeMetadata m raw)).1 = some block)
      (hstrategy : block.strategy = some Strategy.dispatch.name)
      (hloop : decodeLoop limits block (modernTriggers r.triggers).1 r = o) :
      announced limits (storeMetadata m raw) r = some o := by
    rw [announced, hblock, Option.filter_some, if_pos (decide_eq_true hstrategy), Option.map_some,
      hloop]
  rcases exists_readGraph (r := r') hp hwf (Graph.of_notices_eq_ok hissues') hactions hfront
      (Metadata.find (storeMetadata m raw)).1
      (fun _ hblock hstrategy cause hloop => hlimit cause (hannounced hblock hstrategy hloop)) with
    ⟨block, loop, hblock, hstrategy, hloop, hwfloop, htold, hgraph⟩ |
    ⟨g₁, s₁, hgraph, hwf₁, hsub, f, hf, hnodes₁⟩
  · have hdecoded := hannounced hblock hstrategy hloop
    obtain ⟨g', _, hdone, -⟩ := exists_proceed_settle_of_written freshId
      (g := { loop with strategy := block.strategy }) (r := r') hwfloop (hsize loop hdecoded) htold
      _ hid _
    exact ⟨g', congrArg Prod.fst (hsettled hgraph hdone), fun hnot => absurd hdecoded (hnot loop)⟩
  · obtain ⟨g', hdone, hf'⟩ := exists_settled (r := r') hwf₁ hf hnodes₁ (hnodes ▸ hlength) hissues'
      hid (Metadata.find (storeMetadata m raw)).1 s₁
    have hwhole := hsettled hgraph hdone
    exact ⟨g', congrArg Prod.fst hwhole, fun _ => ⟨f, hf'.of_eq hnodes hedges, _, _, issues, hissues,
      hsaid, congrArg (fun x => x.2.notices) hwhole, hsub⟩⟩

end Stored

/-- A lamp that is turned on behind a condition. -/
def porchLamp : Entries := [
  (.str "triggers", .ofItems [.ofEntries [(.str "trigger", .str "sun")]]),
  (.str "actions", .ofItems [
    .ofEntries [(.str "condition", .str "template"), (.str "value_template", .str "dark")],
    .ofEntries [(.str "action", .str "light.turn_on")]])]

/-- Metadata for three nodes, two of them with the same id, that announces a dispatch loop. -/
def staleMetadata : Value := .ofEntries [
  (.str "schema_version", .int 1),
  (.str "node_ids", .ofTexts ["dusk", "lamp", "lamp"]),
  (.str "strategy", .str Strategy.dispatch.name)]

theorem parse_storeMetadata_porchLamp : ∃ r g cause,
    load (.ofEntries porchLamp) = .ok porchLamp ∧ porchLamp.HasText
    ∧ staleMetadata.hasText = true ∧ Metadata.find porchLamp = (none, [])
    ∧ outline (.ofEntries porchLamp) = .ok (r, none)
    ∧ (parse {} "new" (.ofEntries porchLamp)).1 = .ok g
    ∧ announced {} (storeMetadata staleMetadata porchLamp) r
      = some (.error (.refused (.structural cause)))
    ∧ ∃ g', (parse {} "new" (.ofEntries (storeMetadata staleMetadata porchLamp))).1 = .ok g'
      ∧ ∃ f, Renames f g g' := by
  have hread : (parse {} "new" (.ofEntries porchLamp)).1.toOption.isSome = true := by decide +kernel
  rcases hparse : (parse {} "new" (.ofEntries porchLamp)).1 with _ | g
  · rw [hparse] at hread
    cases hread
  have htext : porchLamp.HasText := Entries.entriesHaveText_iff.1 (by decide +kernel)
  have hm : staleMetadata.hasText = true := by decide +kernel
  have hrecord : ∃ r cause, outline (.ofEntries porchLamp) = .ok (r, none)
      ∧ announced {} (storeMetadata staleMetadata porchLamp) r
        = some (.error (.refused (.structural cause))) := ⟨_, _, rfl, rfl⟩
  obtain ⟨r, cause, hrecord, hannounced⟩ := hrecord
  -- the metadata announces a loop, which is then not there, so only a notice is left
  obtain ⟨g', hg', hsame⟩ := parse_storeMetadata (m := staleMetadata) rfl htext hm rfl hrecord hparse
    (fun _ h => by cases hannounced.symm.trans h) (fun _ h => by cases hannounced.symm.trans h)
  obtain ⟨f, hf, -⟩ := hsame fun _ h => by cases hannounced.symm.trans h
  exact ⟨r, g, cause, rfl, htext, hm, rfl, hrecord, rfl, hannounced, g', hg', f, hf⟩

/-- A condition inside a number of groups. -/
def grouped : Nat → Value
  | 0 => .ofEntries [(.str "condition", .str "template"), (.str "value_template", .str "dark")]
  | levels + 1 =>
    .ofEntries [(.str "condition", .str "and"), (.str "conditions", .ofItems [grouped levels])]

/-- The option of a dispatch loop that passes a condition and ends. -/
def checking (state : String) (test : Value) : Value :=
  let done : Value := .ofItems [Dispatch.assign none]
  .ofEntries [
    (.str "conditions", .ofItems [Dispatch.stateTest state]),
    (.str "sequence", .ofItems [
      .ofEntries [(.str "if", .ofItems [test]), (.str "then", done), (.str "else", done)]])]

/-- A dispatch loop with some options. -/
def loopOf (options : List Value) : Entries := [
  (.str "triggers", .ofItems [.ofEntries [(.str "trigger", .str "sun")]]),
  (.str "actions", .ofItems [
    Dispatch.assign (some "check"),
    .ofEntries [(.str "repeat", .ofEntries [(.str "sequence", .ofItems [
      .ofEntries [(.str "choose", .ofItems options)]])])]])]

/-- Metadata that announces a dispatch loop. -/
def loopMetadata : Value := .ofEntries [
  (.str "schema_version", .int 1), (.str "strategy", .str Strategy.dispatch.name)]

/-- A document without metadata that is read, but not with a value stored as its metadata. -/
def IsSpoiledBy (limits : Limits) (raw : Entries) (m : Value) : Prop :=
  ∃ r g, outline (.ofEntries raw) = .ok (r, none)
    ∧ (parse limits "new" (.ofEntries raw)).1 = .ok g
    ∧ ∀ g', (parse limits "new" (.ofEntries (storeMetadata m raw))).1 ≠ .ok g'

/-- Documents that metadata makes unreadable: a loop with a condition in too many groups, one with
more options than a graph may have nodes, one with an option that cannot be quoted, and any document
when the version in its metadata cannot be quoted. -/
theorem exists_storeMetadata_not_parse :
    IsSpoiledBy {} (loopOf [checking "check" (grouped 17)]) loopMetadata
    ∧ IsSpoiledBy { maxGraphNodes := 3 }
      (loopOf (["check", "b", "c"].map fun state => checking state (grouped 0))) loopMetadata
    ∧ IsSpoiledBy {} (loopOf [.int Literal.writingBound]) loopMetadata
    ∧ IsSpoiledBy {} porchLamp (.ofEntries [(.str "schema_version", .int Literal.writingBound)]) := by
  -- both documents are parsed as far as it takes to see which of them is refused
  have hall {limits : Limits} {raw : Entries} {m : Value}
      (houtline : (outline (.ofEntries raw)).toOption.map (·.2.isNone) = some true)
      (hparse : (parse limits "new" (.ofEntries raw)).1.toOption.isSome = true)
      (hfail : (parse limits "new" (.ofEntries (storeMetadata m raw))).1.toOption.isSome = false) :
      IsSpoiledBy limits raw m := by
    rcases houtlined : outline (.ofEntries raw) with _ | ⟨r, metadata⟩
    · rw [houtlined] at houtline
      cases houtline
    rw [houtlined] at houtline
    have hmetadata : metadata = none := Option.isNone_iff_eq_none.1 (Option.some.inj houtline)
    obtain ⟨g, hg⟩ := Outcome.isSome_toOption.1 hparse
    refine ⟨r, g, by rw [houtlined, hmetadata], hg, fun g' hg' => ?_⟩
    rw [hg'] at hfail
    cases hfail
  exact ⟨hall (by decide +kernel) (by decide +kernel) (by decide +kernel),
    hall (by decide +kernel) (by decide +kernel) (by decide +kernel),
    hall (by decide +kernel) (by decide +kernel) (by decide +kernel),
    hall (by decide +kernel) (by decide +kernel) (by decide +kernel)⟩

end Document

end Automation
