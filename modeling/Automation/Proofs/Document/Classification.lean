import Automation.Document.Writing
import Automation.Proofs.Document.Reading
import Automation.Proofs.Program.Classification

/-!
# Which documents are native

A document without metadata is native unless it is interrupted (`Document.classify_of_parse`): a
gate stands inside the branches of a block that chooses, at any depth, and a later entry of the list
of the block or of a list around it creates a node. Nothing else that a document can say makes its
graph need a dispatch loop, as its graph has no cycle and all its triggers lead to the same node.
-/

namespace Automation

open Program (ReadAs)

namespace Document

/-- Whether a gate stands inside the branches of a block that chooses, with something to be run
behind the block. -/
def Interrupted (actions : List Value) : Prop :=
  ∃ entry later o es, Entry.Occurs actions [] entry later ∧ entry.expose = .map o es
    ∧ Entry.chooses es = true ∧ (∃ branch ∈ Entry.branches es, Entry.Holds Entry.isGate branch)
    ∧ Entry.Holds Entry.isNode later

variable {limits : Limits}

/-- An entry is a gate just if it is read as one, at each depth. -/
theorem holds_isGate {entries : List Value} {bs : List Block}
    (h : List.Forall₂ (ReadAs limits) entries bs) :
    Entry.Holds Entry.isGate entries ↔ Block.listGated bs = true := by
  refine (Program.holds_iff (fun entry b o es hread hentry => ?_) h).trans Block.holds_isGate
  obtain ⟨o', es', hentry', -, hgate, -⟩ := hread.exists_entries
  rw [hentry] at hentry'
  cases hentry'
  exact hgate

/-- There is something to run among entries just if their blocks start at a node. -/
theorem holds_isNode {entries : List Value} {bs : List Block}
    (h : List.Forall₂ (ReadAs limits) entries bs) :
    Entry.Holds Entry.isNode entries ↔ Block.listFirst none bs ≠ none := by
  rw [Ne, Block.listFirst_eq_none, and_iff_left rfl]
  refine (Program.holds_iff (fun entry b o es hread hentry => ?_) h).trans Block.holds_isNode
  obtain ⟨o', es', hentry', -, -, hnode⟩ := hread.exists_entries
  rw [hentry] at hentry'
  cases hentry'
  exact hnode

/-- A gate stands inside the branches of an entry when one stands in the block. -/
theorem holds_branches {entry : Value} {b : Block} (h : ReadAs limits entry b) {o : Origin}
    {es : Entries} (hentry : entry.expose = .map o es) (hchooses : b.chooses = true) :
    (∃ branch ∈ Entry.branches es, Entry.Holds Entry.isGate branch) ↔ b.gated = true := by
  have hbranches := h.branches hentry
  have hnot : b.isGate = false := by
    cases b with
    | step n => cases hchooses
    | choice options otherwise => rfl
  rw [Block.gated_eq, hnot, Bool.false_or, List.any_eq_true]
  constructor
  · rintro ⟨branch, hmem, hgate⟩
    obtain ⟨read, hread, hbody⟩ := exists_match_of_mem hbranches hmem
    exact ⟨read, hread, (holds_isGate hbody).1 hgate⟩
  · rintro ⟨read, hread, hgate⟩
    obtain ⟨branch, hmem, hbody⟩ := exists_match_of_mem hbranches.flip hread
    exact ⟨branch, hmem, (holds_isGate hbody).2 hgate⟩

/-- Entries are interrupted when the blocks that they are read as are. -/
theorem interrupted_iff {entries : List Value} {bs : List Block}
    (h : List.Forall₂ (ReadAs limits) entries bs) :
    Interrupted entries ↔ ¬Block.Uninterrupted bs none := by
  constructor
  · rintro ⟨entry, later, o, es, hoccurs, hentry, hchooses, hgate, hnode⟩ hsmooth
    -- the entry is read as a block, at the same depth and with the same blocks behind it
    obtain ⟨b, rest, place, behind, hwithin, hb, hbehind, hplace⟩ :=
      Program.exists_within hoccurs h .nil
    obtain ⟨o', es', hentry', hsame, -⟩ := hb.exists_entries
    rw [hentry] at hentry'
    cases hentry'
    rw [hchooses] at hsame
    refine (holds_isNode hbehind).1 hnode (hplace ▸ ?_)
    exact hsmooth b rest place hwithin hsame ((holds_branches hb hentry hsame).1 hgate)
  · intro hinterrupted
    unfold Block.Uninterrupted at hinterrupted
    push Not at hinterrupted
    obtain ⟨b, rest, place, hwithin, hchooses, hgated, hplace⟩ := hinterrupted
    -- and the block is what an entry there is read as
    obtain ⟨entries', later, behind, hentries, hlater, rfl, hoccurs⟩ :=
      Program.exists_occurs (by exact hwithin) h .nil
    obtain _ | ⟨hentry, hrest⟩ := hentries
    obtain ⟨o, es, hexpose, hsame, -⟩ := hentry.exists_entries
    refine ⟨_, _, o, es, hoccurs _ _ .here, hexpose, hsame.symm.trans hchooses,
      (holds_branches hentry hexpose hchooses).2 hgated, ?_⟩
    rw [holds_isNode (List.rel_append hrest hlater), Block.listFirst_append]
    exact hplace

/-- A document without metadata needs a dispatch loop just when it is interrupted. Its graph has no
cycle and all its triggers lead to the same node, so without a gate inside a branch it is native. -/
theorem classify_of_parse {freshId : String} {document : Value} {reading : Nat}
    {r : AutomationRecord} {g : Graph} (hrecord : outline document reading = .ok (r, none))
    (h : (parse limits freshId document reading).1 = .ok g) :
    ∃ report, g.analyze limits = .ok report ∧ g.classify limits = .ok report.strategy
      ∧ report.backEdges = [] ∧ report.divergent = []
      ∧ (report.strategy = .dispatch ↔ Interrupted (r.actions.map .ofEntries))
      ∧ ((∀ entry later o es, Entry.Occurs (r.actions.map .ofEntries) [] entry later →
          entry.expose = .map o es → ∀ branch ∈ Entry.branches es,
            ¬Entry.Holds Entry.isGate branch) → report.strategy = .native) := by
  obtain ⟨p, hread, hparsed, hsize⟩ := exists_parsed hrecord h
  obtain ⟨report, hreport, hback, hdivergent, -, -, -, -, hnative⟩ :=
    hparsed.exists_report hsize
  -- the report says native just if no choice with a gate has anything behind it
  have hstrategy : report.strategy = .dispatch ↔ Interrupted (r.actions.map .ofEntries) := by
    obtain ⟨after, hbody⟩ := hread.body
    rw [interrupted_iff hbody.readAs, ← Program.uninterrupted_blocks, ← hnative]
    unfold TopologyReport.strategy
    split <;> simp_all
  refine ⟨report, hreport, ?_, hback, hdivergent, hstrategy, fun hnone => ?_⟩
  · rw [Graph.classify, hreport]
    rfl
  · cases hcase : report.strategy with
    | native => rfl
    | dispatch =>
      obtain ⟨entry, later, o, es, hoccurs, hentry, -, ⟨branch, hmem, hgate⟩, -⟩ :=
        hstrategy.1 hcase
      exact absurd hgate (hnone entry later o es hoccurs hentry branch hmem)

/-- An automation with a gate inside a branch, and an action behind the block. -/
def guardedHall : Value := .ofEntries [
  (.str "triggers", .ofItems [.ofEntries [(.str "trigger", .str "state")]]),
  (.str "actions", .ofItems [
    .ofEntries [
      (.str "if", .ofEntries [(.str "condition", .str "template"),
        (.str "value_template", .str "dark")]),
      (.str "then", .ofItems [
        .ofEntries [(.str "condition", .str "template"), (.str "value_template", .str "home")],
        .ofEntries [(.str "action", .str "light.turn_on")]])],
    .ofEntries [(.str "action", .str "notify.hall")]])]

theorem classify_guardedHall : ∃ r g report, outline guardedHall = .ok (r, none)
    ∧ (parse {} "new" guardedHall).1 = .ok g ∧ g.analyze {} = .ok report
    ∧ g.classify {} = .ok .dispatch ∧ report.backEdges = [] ∧ report.divergent = [] := by
  have hread : (parse {} "new" guardedHall).1.toOption.isSome = true := by decide +kernel
  rcases hparse : (parse {} "new" guardedHall).1 with _ | g
  · rw [hparse] at hread
    cases hread
  have hrecord : ∃ r, outline guardedHall = .ok (r, none)
      ∧ Interrupted (r.actions.map .ofEntries) := by
    refine ⟨_, rfl, _, _, _, _, .here, rfl, rfl, ⟨_, List.mem_cons_self, ?_⟩, ?_⟩
    · exact ⟨_, _, _, _, .here, rfl, rfl⟩
    · exact ⟨_, _, _, _, .here, rfl, rfl⟩
  obtain ⟨r, hrecord, hinterrupted⟩ := hrecord
  obtain ⟨report, hreport, hclassify, hback, hdivergent, hdispatch, -⟩ :=
    classify_of_parse hrecord hparse
  rw [hdispatch.2 hinterrupted] at hclassify
  exact ⟨r, g, report, hrecord, rfl, hreport, hclassify, hback, hdivergent⟩

end Document

end Automation
