import Automation.Proofs.Document.Text
import Automation.Proofs.Graph.Apart
import Automation.Proofs.Program.Classification

/-!
# Documents written again

The graph of a document without metadata can be written again (`Document.transpile_of_parse`). When
it is native, the walk that writes it fits into the levels of blocks that the document itself has,
so the bound on them is not reached; any other graph has the joins that a dispatch loop needs. Both
are written as text when the integers of the document can be.

Two things can stand in the way (`Document.exists_parse_not_transpile`): a bound below zero refuses
even a document without blocks, and an integer with too many digits cannot be written.
-/

namespace Automation

open Block

namespace Program

/-- Gates are no blocks to go into. -/
theorem listDepth_blocks (p : Program) : listDepth p.blocks = listDepth p.body := by
  unfold blocks
  induction p.gates with
  | nil => rfl
  | cons n gates ih =>
    show max 0 (listDepth (gates.map .step ++ p.body)) = _
    rw [ih, Nat.zero_max]

namespace Parsed

variable {p : Program} {g : Graph} {limits : Limits}

/-- The program of the graph with its payloads apart, when the graph is native. -/
theorem exists_program_apart (h : Parsed p g) {r : TopologyReport}
    (hentry : r.entry = listFirst none p.blocks) (hexact : JoinTable.Exact g r.joins)
    (hjoins : ∀ id, id ∈ r.joins.map (·.id) ↔ id ∈ (listNodes p.blocks).map (·.id))
    (hsmooth : Uninterrupted p.blocks none) (hlimit : 0 ≤ limits.maxNesting)
    (hlevels : listDepth p.blocks ≤ limits.maxNesting.toNat) :
    ∃ q, g.apart.program limits r = .ok q ∧ ∀ n ∈ q.nodes, n ∈ g.apart.nodes := by
  obtain ⟨ids, hids, -, hlength⟩ := h.exists_fits hjoins hexact hsmooth hlevels
  rw [← hentry] at hids
  have hcount : g.apart.nodes.length = g.nodes.length := by
    rw [← List.length_map (f := (·.id)), g.apart_ids, List.length_map]
  refine Graph.exists_program hlimit hids.apart ?_
  unfold Graph.stepBound
  omega

end Parsed

end Program

namespace Document

variable {limits : Limits} {g : Graph} {r : TopologyReport}

/-- A document that is written when its values are, and those of its text can be. -/
theorem exists_written {strategy : Strategy} {write : Graph → Outcome Entries} {config sheet : Entries}
    (hconfig : write g = .ok config) (hsheet : write g.apart = .ok sheet) (htext : sheet.HasText) :
    ∃ w, written strategy g write = .ok w := by
  unfold written Yaml.render
  rw [hsheet, hconfig, Outcome.ok_bind, Outcome.ok_bind, if_pos (Value.hasText_ofEntries.2 htext)]
  exact ⟨_, rfl⟩

/-- The native document of a graph that has a program, with its payloads apart. -/
theorem exists_nativeEntries_apart {q : Program} (hg : g.HasText)
    (hq : g.apart.program limits r = .ok q) (hnodes : ∀ n ∈ q.nodes, n ∈ g.apart.nodes) :
    ∃ sheet, nativeEntries limits r g.apart = .ok sheet ∧ sheet.HasText := by
  have htext : ∀ n ∈ q.nodes, n.HasText := fun n hn => hg.apart.nodes n (hnodes n hn)
  obtain ⟨hfront, hbody⟩ := List.forall_mem_append.1 htext
  obtain ⟨htriggers, hgates⟩ := List.forall_mem_append.1 hfront
  unfold nativeEntries
  rw [hq, Outcome.ok_bind]
  exact ⟨_, rfl, hasText_assemble hg.apart _ _ (hasText_payloads htriggers)
    (hasText_payloads hgates) (hasText_listValues q.body hbody)⟩

variable (limits r) in
/-- The dispatch document of a graph whose joins are known. -/
theorem exists_dispatchEntries {joins : List (String × Option String)} (hg : g.HasText)
    (hjoins : g.blockJoins = .ok joins) :
    ∃ config, dispatchEntries limits r g = .ok config ∧ config.HasText := by
  have hbody : ∀ n ∈ loopNodes r g, n.HasText := fun n hn =>
    hg.nodes n (List.mem_filter.1 hn).1
  have htriggers : ∀ n ∈ g.triggers, n.HasText := fun n hn =>
    hg.nodes n (List.mem_filter.1 hn).1
  unfold dispatchEntries
  rw [hjoins, Outcome.ok_bind]
  exact ⟨_, rfl, hasText_assemble hg _ _ (hasText_payloads htriggers) nofun
    (Dispatch.hasText_actions hbody)⟩

/-- Whatever document without metadata is read can be written again, by the strategy that fits its
graph: the bound on levels that let it be read lets it be written. -/
theorem transpile_of_parse {freshId : String} {document : Value} {reading : Nat} {raw : Entries}
    {record : AutomationRecord} (hnesting : 0 ≤ limits.maxNesting)
    (hload : load document reading = .ok raw) (htext : raw.HasText)
    (hrecord : outline document reading = .ok (record, none))
    (h : (parse limits freshId document reading).1 = .ok g) :
    ∃ w, (transpile limits g .null).1 = .ok w := by
  have hg := hasText_of_parse hload htext hrecord h
  obtain ⟨p, hread, hparsed, hsize⟩ := exists_parsed hrecord h
  obtain ⟨_, _, -, -, hgraph, hcheck, issues, hissues⟩ := exists_program hrecord h
  have hstrategy : g.strategy = none := by
    rw [hgraph]
    rfl
  obtain ⟨report, hreport, -, -, hentry, -, hexact, hjoins, hnative⟩ :=
    hparsed.exists_report hsize
  have hexamine : examine limits g = .ok (report, issues) := by
    unfold examine
    rw [hreport, hissues]
    rfl
  have hselect : selectStrategy limits g .null = .ok report.strategy := by
    unfold selectStrategy
    dsimp only
    rw [hstrategy, if_neg nofun, Graph.classify, hreport]
    rfl
  have htranspile : transpile limits g .null
      = if report.isNative then native limits g else dispatch limits g := by
    unfold transpile
    rw [hcheck, Outcome.ok_bind, hselect, TopologyReport.strategy]
    split <;> rfl
  rw [htranspile]
  cases hcase : report.isNative with
  | true =>
    -- the blocks of the document have no more levels than may be written
    have hsmooth := hnative.1 hcase
    obtain ⟨after, hbody⟩ := hread.body
    have hlevels : listDepth p.blocks ≤ limits.maxNesting.toNat := by
      rw [p.listDepth_blocks]
      exact hbody.depth_le
    obtain ⟨q, hq⟩ := hparsed.exists_program hentry hexact hjoins hsmooth hnesting hlevels
    obtain ⟨q', hq', hnodes⟩ := hparsed.exists_program_apart hentry hexact hjoins hsmooth hnesting
      hlevels
    obtain ⟨sheet, hsheet, hsheetText⟩ := exists_nativeEntries_apart hg hq' hnodes
    obtain ⟨config, hconfig⟩ : ∃ config, nativeEntries limits report g = .ok config := by
      unfold nativeEntries
      rw [hq]
      exact ⟨_, rfl⟩
    obtain ⟨w, hw⟩ : ∃ w, written .native g (nativeEntries limits report) = .ok w :=
      exists_written hconfig hsheet hsheetText
    refine ⟨w, ?_⟩
    show (native limits g).1 = .ok w
    unfold native
    rw [hexamine]
    dsimp only
    rw [if_pos hcase]
    exact hw
  | false =>
    obtain ⟨joins, hblock⟩ := hparsed.ranked.exists_blockJoins hparsed.wellFormed hparsed.noExit
    obtain ⟨joins', hblock'⟩ := Graph.Ranked.exists_blockJoins (g := g.apart) hparsed.ranked
      hparsed.wellFormed.apart hparsed.noExit.apart
    obtain ⟨config, hconfig, -⟩ := exists_dispatchEntries limits report hg hblock
    obtain ⟨sheet, hsheet, hsheetText⟩ := exists_dispatchEntries limits report hg.apart hblock'
    obtain ⟨w, hw⟩ : ∃ w, written .dispatch g (dispatchEntries limits report) = .ok w :=
      exists_written hconfig hsheet hsheetText
    refine ⟨w, ?_⟩
    show (dispatch limits g).1 = .ok w
    unfold dispatch
    rw [hexamine]
    exact hw

/-- An automation with a choice inside an if block, and a gate in front of it. -/
def eveningHall : Value := .ofEntries [
  (.str "triggers", .ofItems [.ofEntries [(.str "trigger", .str "sun")]]),
  (.str "actions", .ofItems [
    .ofEntries [(.str "condition", .str "template"), (.str "value_template", .str "home")],
    .ofEntries [
      (.str "if", .ofEntries [(.str "condition", .str "template"),
        (.str "value_template", .str "dark")]),
      (.str "then", .ofItems [.ofEntries [
        (.str "choose", .ofItems [.ofEntries [
          (.str "conditions", .str "late"),
          (.str "sequence", .ofItems [.ofEntries [(.str "delay", .int 5)]])]]),
        (.str "default", .ofItems [.ofEntries [(.str "action", .str "light.turn_on")]])]])],
    .ofEntries [(.str "action", .str "notify.hall")]])]

theorem transpile_eveningHall : ∃ raw record g w, load eveningHall = .ok raw ∧ raw.HasText
    ∧ outline eveningHall = .ok (record, none) ∧ (parse {} "new" eveningHall).1 = .ok g
    ∧ (transpile {} g .null).1 = .ok w := by
  have hread : (parse {} "new" eveningHall).1.toOption.isSome = true := by decide +kernel
  rcases hparse : (parse {} "new" eveningHall).1 with _ | g
  · rw [hparse] at hread
    cases hread
  have htext : ∃ raw, load eveningHall = .ok raw ∧ raw.HasText :=
    ⟨_, rfl, Entries.entriesHaveText_iff.1 (by decide +kernel)⟩
  have hrecord : ∃ record, outline eveningHall = .ok (record, none) := ⟨_, rfl⟩
  obtain ⟨raw, hload, htext⟩ := htext
  obtain ⟨record, hrecord⟩ := hrecord
  obtain ⟨w, hw⟩ := transpile_of_parse (by decide) hload htext hrecord hparse
  exact ⟨raw, record, g, w, hload, htext, hrecord, rfl, hw⟩

/-- An automation with a single action, which has a number among its data. -/
def dimmedLamp (level : Int) : Value := .ofEntries [
  (.str "triggers", .ofItems [.ofEntries [(.str "trigger", .str "sun")]]),
  (.str "actions", .ofItems [.ofEntries [(.str "action", .str "light.turn_on"),
    (.str "data", .ofEntries [(.str "brightness", .int level)])]])]

/-- Documents that are read and cannot be written: one without blocks when the bound on levels of
blocks is below zero, and one with a number that has too many digits. -/
theorem exists_parse_not_transpile :
    (∃ record g, outline (dimmedLamp 1) = .ok (record, none)
      ∧ (parse { maxNesting := -1 } "new" (dimmedLamp 1)).1 = .ok g
      ∧ ∀ w, (transpile { maxNesting := -1 } g .null).1 ≠ .ok w)
    ∧ ∃ record g, outline (dimmedLamp Literal.writingBound) = .ok (record, none)
      ∧ (parse {} "new" (dimmedLamp Literal.writingBound)).1 = .ok g
      ∧ ∀ w, (transpile {} g .null).1 ≠ .ok w := by
  -- both runs are computed as far as it takes to see which of them comes to an end
  have hall {limits : Limits} {level : Int}
      (houtline : (outline (dimmedLamp level)).toOption.map (·.2.isNone) = some true)
      (hparse : (parse limits "new" (dimmedLamp level)).1.toOption.map
        (fun g => (transpile limits g .null).1.toOption.isSome) = some false) :
      ∃ record g, outline (dimmedLamp level) = .ok (record, none)
        ∧ (parse limits "new" (dimmedLamp level)).1 = .ok g
        ∧ ∀ w, (transpile limits g .null).1 ≠ .ok w := by
    rcases houtlined : outline (dimmedLamp level) with _ | ⟨record, metadata⟩
    · rw [houtlined] at houtline
      cases houtline
    rcases hparsed : (parse limits "new" (dimmedLamp level)).1 with _ | g
    · rw [hparsed] at hparse
      cases hparse
    rw [houtlined] at houtline
    rw [hparsed] at hparse
    have hmetadata : metadata = none := Option.isNone_iff_eq_none.1 (Option.some.inj houtline)
    refine ⟨record, g, by rw [hmetadata], rfl, fun w hw => ?_⟩
    have hfail : (transpile limits g .null).1.toOption.isSome = false := Option.some.inj hparse
    rw [hw] at hfail
    cases hfail
  exact ⟨hall (by decide +kernel) (by decide +kernel), hall (by decide +kernel) (by decide +kernel)⟩

end Document

end Automation
