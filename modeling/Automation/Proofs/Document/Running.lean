import Automation.Proofs.Document.Classification
import Automation.Proofs.Document.Skipping
import Automation.Proofs.Program.Running

/-!
# Running documents

A run over the graph of a document does what the document says (`Document.agree_run`): its entries
run in turn, with the branches of the blocks that choose inside them. The variables and the notes
are the same, and when one of the two fails, both do in the same way, with a condition or with an
assignment. Disabled blocks are left out, as a run over the graph can skip more than such a block
(`Document.runFrom_disabled`).
-/

namespace Automation

/-- Whether an entry is a block that chooses and is disabled. -/
def Entry.isDisabled (es : Entries) : Bool := chooses es && (es.get "enabled").isFalse

namespace Program

open Run

variable {limits : Limits} {p : Program}

/-- Conditions that are steps are passed in turn. -/
theorem runList_freshNodes (created : List NodeKind) (tests : List Entries) :
    Block.runList ((freshNodes .condition created tests).map .step) = inTurn (tests.map holds) := by
  induction tests generalizing created with
  | nil => rfl
  | cons data tests ih =>
    have hstep : Block.run (.step (fresh created .condition data .null [])) = holds data := by
      rw [Block.run]
      exact if_pos rfl
    rw [freshNodes, List.map_cons, Block.runList, ih, hstep]
    rfl

/-- Conditions are tested one after the other, on the payloads that are read from them. -/
theorem inTurn_test {conditions : List Value} {tests : List Entries}
    (h : conditions.mapM (Condition.normalize limits) = .ok tests) :
    inTurn (conditions.map fun v => test (Condition.normalize limits v))
      = inTurn (tests.map holds) := by
  induction conditions generalizing tests with
  | nil =>
    cases h
    rfl
  | cons v conditions ih =>
    rw [List.mapM_cons] at h
    obtain ⟨data, hdata, h⟩ := Outcome.bind_eq_ok.1 h
    obtain ⟨rest, hrest, h⟩ := Outcome.bind_eq_ok.1 h
    cases h
    rw [List.map_cons, List.map_cons, inTurn, inTurn, ih hrest, hdata, test_ok]

/-- A document says to do what the program does that its sections are read as. -/
theorem SectionsRead.run_eq {r : AutomationRecord}
    (h : SectionsRead limits (Document.modernTriggers r.triggers).1 r.conditions r.actions p) :
    r.run limits = p.run := by
  obtain ⟨tests, htests, hgates⟩ := h.gates
  obtain ⟨after, hbody⟩ := h.body
  have hactions : Entry.runList limits limits.maxNesting.toNat (.ofItems (r.actions.map .ofEntries))
      { root := "actions" } = Block.runList p.body := by
    rw [runList_eq_inTurn]
    exact hbody.run_eq
  -- the gates are the conditions of the document, tested in front of the body
  have hblocks : Block.runList p.blocks
      = (do if ← inTurn (tests.map holds) then Block.runList p.body else return false) := by
    rw [blocks, Block.runList_append, hgates, runList_freshNodes]
  have hids : (Document.modernTriggers r.triggers).1 = p.triggers.map (·.data) := by
    rw [h.triggers, map_data_freshNodes]
  unfold AutomationRecord.run Program.run
  rw [hactions, inTurn_test htests, hids, hblocks]
  -- both look up the trigger, test the conditions, and run the actions when these hold
  refine congrArg (get >>= ·) (funext fun c => ?_)
  rw [Value.itemAt_map]
  cases Value.itemAt p.triggers c.trigger with
  | error e => rfl
  | ok trigger =>
    show (do
        identify (return trigger.data.get "id")
        if ← inTurn (tests.map holds) then let _ ← Block.runList p.body) = (do
        identify (return trigger.data.get "id")
        let _ ← (do if ← inTurn (tests.map holds) then Block.runList p.body else return false))
    refine congrArg (identify _ >>= ·) (funext fun _ => ?_)
    rw [bind_assoc]
    refine congrArg (inTurn _ >>= ·) (funext fun on => ?_)
    cases on <;> rfl

end Program

namespace Document

variable {limits : Limits} {freshId : String} {document : Value} {reading : Nat}
  {r : AutomationRecord} {g : Graph}

/-- A block is disabled when its entry is. -/
theorem isDisabled_eq {entry : Value} {b : Block} (h : Program.ReadAs limits entry b) {o : Origin}
    {es : Entries} (hentry : entry.expose = .map o es) : b.isDisabled = Entry.isDisabled es := by
  obtain ⟨o', es', hentry', hchooses, -⟩ := h.exists_entries
  rw [hentry] at hentry'
  cases hentry'
  rw [Entry.isDisabled, ← hchooses]
  cases hb : b.chooses with
  | false =>
    match b with
    | .step n => rfl
    | .choice [] otherwise => rfl
    | .choice (o :: options) otherwise => cases hb
  | true =>
    obtain ⟨n, body, options, otherwise, rfl, hflags⟩ := h.exists_head hentry (hchooses ▸ hb)
    rw [Block.isDisabled, hflags, Entry.get_enabled_flagsOf]
    rfl

/-- A run over the graph of a document in which no block is disabled does what the document says,
when there are as many steps as nodes. When the trigger is one of the document, nothing but a
condition or an assignment can fail. -/
theorem agree_run (hrecord : outline document reading = .ok (r, none))
    (h : (parse limits freshId document reading).1 = .ok g)
    (henabled : ¬Entry.Holds Entry.isDisabled (r.actions.map .ofEntries)) {maxSteps : Option Int}
    (hsteps : (g.nodes.length : Int) ≤ maxSteps.getD limits.maxIterations) (c : Context) :
    (Run.start (g.run limits maxSteps) c).1 = (Run.start (r.run limits) c).1
      ∧ (Run.start (g.run limits maxSteps) c).2.Agree (Run.start (r.run limits) c).2
      ∧ (0 ≤ c.trigger → c.trigger < r.triggers.length → ∀ e,
        (Run.start (r.run limits) c).1 = .error e → ∃ n ∈ g.nodes, Block.FailsWith n e) := by
  obtain ⟨p, hread, hparsed, -⟩ := exists_parsed hrecord h
  obtain ⟨after, hbody⟩ := hread.body
  obtain ⟨tests, -, hgates⟩ := hread.gates
  have hbodyEnabled : ¬Block.Holds Block.isDisabled p.body :=
    (Program.holds_iff (fun _ _ _ _ hread hentry => isDisabled_eq hread hentry) hbody.readAs).not.1
      henabled
  -- a gate has no flags, and a condition in the body is enabled like its entry
  have hconditions : ∀ n ∈ Block.listNodes p.blocks, n.kind.isCondition = true →
      (n.flags.get "enabled").isFalse = false := by
    rw [p.listNodes_blocks]
    refine List.forall_mem_append.2 ⟨fun n hn _ => ?_,
      Block.isFalse_of_not_holds hbody.formed hbodyEnabled⟩
    rw [hgates] at hn
    rw [(Program.mem_freshNodes hn).2.2]
    rfl
  rw [hread.run_eq]
  obtain ⟨houtcome, hcontext⟩ := hparsed.agree_graphRun hconditions hsteps c c (.refl c)
  refine ⟨houtcome, hcontext, fun hpositive hlt e he => ?_⟩
  -- there is one trigger node for each trigger, so each of them is found
  have htriggers : p.triggers.length = r.triggers.length := by
    rw [hread.triggers, ← List.length_map (f := (·.data)), Program.map_data_freshNodes,
      modernTriggers, List.length_map, List.length_map, List.length_zipIdx]
  obtain ⟨n, hn, hfails⟩ := hparsed.exists_failsWith hpositive (htriggers ▸ hlt) he
  exact ⟨n, hparsed.mem_nodes hn, hfails⟩

/-- An automation that sets a variable when the light in the hall is on, and tells so. -/
def lightHall : Value := .ofEntries [
  (.str "triggers", .ofItems [.ofEntries [(.str "trigger", .str "time")]]),
  (.str "actions", .ofItems [
    .ofEntries [
      (.str "if", .ofEntries [(.str "condition", .str "state"),
        (.str "entity_id", .str "light.hall"), (.str "state", .str "on")]),
      (.str "then", .ofItems [
        .ofEntries [(.str "variables", .ofEntries [(.str "hall", .str "lit")])]])],
    .ofEntries [(.str "action", .str "notify.hall")]])]

theorem not_holds_lightHall {r : AutomationRecord} (h : outline lightHall = .ok (r, none)) :
    ¬Entry.Holds Entry.isDisabled (r.actions.map .ofEntries) := by
  cases h
  rintro ⟨entry, found, o, es, hoccurs, hentry, hdisabled⟩
  -- entry by entry: none of those in the document has a flag
  rcases hoccurs with _ | ⟨hoccurs⟩ | ⟨hother, hmem, hoccurs⟩
  · cases hentry
    cases hdisabled
  · rcases hoccurs with _ | ⟨hoccurs⟩ | ⟨hother, hmem, hoccurs⟩
    · cases hentry
      cases hdisabled
    · cases hoccurs
    · cases hother
      cases hmem
  · cases hother
    cases hmem with
    | head =>
      rcases hoccurs with _ | ⟨hoccurs⟩ | ⟨hother, hmem, hoccurs⟩
      · cases hentry
        cases hdisabled
      · cases hoccurs
      · cases hother
        cases hmem
    | tail _ hmem =>
      cases hmem with
      | head => cases hoccurs
      | tail _ hmem => cases hmem

theorem agree_run_lightHall : ∃ r g, outline lightHall = .ok (r, none)
    ∧ (parse {} "new" lightHall).1 = .ok g
    ∧ ∃ o c, Run.start (g.run {} none) { states := [(.str "light.hall", .str "on")] } = (o, c)
      ∧ o = .ok () ∧ c.vars = [(.str "hall", .str "lit")]
      ∧ c.logs = [.ofEntries [(.str "action", .str "notify.hall")]] := by
  have hsize : (parse {} "new" lightHall).1.toOption.any (·.nodes.length ≤ 1000) = true := by
    decide +kernel
  rcases hparse : (parse {} "new" lightHall).1 with _ | g
  · rw [hparse] at hsize
    cases hsize
  rw [hparse] at hsize
  obtain ⟨r, hrecord⟩ : ∃ r, outline lightHall = .ok (r, none) := ⟨_, rfl⟩
  have hsteps : (g.nodes.length : Int) ≤ (none : Option Int).getD ({} : Limits).maxIterations :=
    Int.ofNat_le.2 (of_decide_eq_true hsize)
  obtain ⟨houtcome, hcontext, -⟩ := agree_run hrecord hparse (not_holds_lightHall hrecord) hsteps
    { states := [(.str "light.hall", .str "on")] }
  -- the run of the document is computed, and the run of the graph has to agree with it
  have hrun : ∃ c', Run.start (r.run {}) { states := [(.str "light.hall", .str "on")] } = (.ok (), c')
      ∧ c'.vars = [(.str "hall", .str "lit")]
      ∧ c'.logs = [.ofEntries [(.str "action", .str "notify.hall")]] := by
    cases hrecord
    exact ⟨_, rfl, rfl, rfl⟩
  obtain ⟨c', hrun, hvars, hlogs⟩ := hrun
  rw [hrun] at houtcome hcontext
  exact ⟨r, g, hrecord, rfl, _, _, rfl, houtcome, hcontext.vars.trans hvars,
    hcontext.logs.trans hlogs⟩

end Document

end Automation
