import Automation.Proofs.Dispatch.Pass
import Automation.Proofs.Dispatch.Routing
import Automation.Proofs.Document.Assembly
import Automation.Proofs.Simulation.Alike
import Automation.Proofs.Topology.Joins

/-!
# A dispatch loop runs as its graph does

A run of the loop that a graph is written as follows the run of the graph, pass by step
(`Graph.Emulable.loopRun_follows_run`). One step of the graph is matched by one pass that leaves the
contexts alike and ends in the state of the next node (`Emulable.exists_pass`). In the end state
further passes change nothing that counts (`exists_passes_of_endState`), so it does not matter
whether the loop or the bound on passes stops first.
-/

namespace Automation

open Run Dispatch

/-! ## Graphs that a loop runs -/

namespace Graph

/-- A graph whose payloads and ids a dispatch loop does not take for something else: ids are made of
id characters, conditions do not ask for the variables of the loop, no step looks like a block, and
exactly the steps that set variables have variables, those of the loop not among them. -/
structure Emulable (g : Graph) : Prop where
  wellFormed : g.WellFormed
  ids : ∀ n ∈ g.nodes, ∀ c ∈ n.id.toList, Text.isIdChar c = true
  /-- flags are a mapping, in which no key stands twice -/
  flags : ∀ n ∈ g.nodes, n.flags.Distinct
  guards : ∀ n ∈ g.nodes, n.kind.isCondition = true →
    ∀ name ∈ loopVariables, Guard.mentions name (.ofEntries n.data) = false
  noBlock : ∀ n ∈ g.nodes, n.kind.isTrigger = false → n.kind.isCondition = false →
    n.data.has "if" = false
  noVariables : ∀ n ∈ g.nodes, n.kind.isTrigger = false → n.kind.isCondition = false →
    n.kind ≠ .setVariables → n.data.has "variables" = false
  assigns : ∀ n ∈ g.nodes, n.kind = .setVariables → ∃ o vars,
    n.data.get? "variables" = some (.map o vars) ∧ ∀ name ∈ loopVariables, Entries.has vars name = false

namespace Emulable

variable {g : Graph} {joins : List (String × Option String)} {r : TopologyReport}

theorem isName_of_mem (hg : g.Emulable) {n : Node} (hn : n ∈ g.nodes) : Text.IsName n.id.toList := by
  refine ⟨?_, hg.ids n hn⟩
  simpa using hg.wellFormed.ne_empty hn

/-- The place that a skipped block leads to has an option of the loop. -/
theorem mem_loopNodes_of_skip (hwf : g.WellFormed) (hr : r.reachable = g.reachable)
    (hjoins : g.blockJoins = .ok joins) {id target : String}
    (h : ((joins.find? (·.1 == id)).map (·.2)).join = some target) :
    ∃ n ∈ Document.loopNodes r g, n.id = target := by
  obtain ⟨row, hrow, hjoin⟩ := Option.map_eq_some_iff.1 (Option.join_eq_some_iff.1 h)
  obtain ⟨key, join⟩ := row
  subst hjoin
  obtain ⟨e, he, hsource, htarget⟩ :=
    exists_edge_of_mem_blockJoins hjoins (List.mem_of_find?_eq_some hrow)
  exact htarget ▸ Document.mem_loopNodes_of_edge hwf hr he hsource

/-- What a pass has to do for one step of the graph: the contexts stay alike, and the state is that
of the next node, which has an option. -/
def Follows (r : TopologyReport) (g : Graph) (next : Option String) (c₁ c₁' : Context) : Prop :=
  Alike c₁ c₁' ∧ c₁'.vars.get? stateVariable = some (.str (stateOf next))
    ∧ ∀ id ∈ next, ∃ n ∈ Document.loopNodes r g, n.id = id

/-- An assignment of the next state is all that is left to do. -/
theorem follows_assign {c c' : Context} (h : Alike c c') {next : Option String}
    (hnext : ∀ id ∈ next, ∃ n ∈ Document.loopNodes r g, n.id = id) :
    ∃ c₁', start (LoopRun.runStep (Dispatch.assign next)) c' = (.ok (), c₁')
      ∧ Follows r g next c c₁' ∧ c₁'.vars.get? "repeat" = c'.vars.get? "repeat" := by
  refine ⟨_, LoopRun.start_runStep_assignText c' (stateOf next), ⟨h.assignState _, ?_, hnext⟩, ?_⟩
  · exact Entries.get?_set_self ..
  · exact Entries.get?_set_of_ne (by decide) _

/-- The steps of a condition whose block is disabled follow it to its join. -/
theorem exists_pass_disabled (hg : g.Emulable) (hr : r.reachable = g.reachable)
    (hjoins : g.blockJoins = .ok joins) {n : Node} (hn : n ∈ Document.loopNodes r g)
    (hkind : n.kind.isCondition = true) (hdisabled : (n.flags.get "enabled").isFalse = true)
    {c c' c₁ : Context} (h : Alike c c') {next : Option String}
    (hstep : start (g.runNode joins n) c = (.ok next, c₁)) :
    ∃ c₁', start (LoopRun.runEach (Dispatch.steps g joins n)) c' = (.ok (), c₁')
      ∧ Follows r g next c₁ c₁' ∧ c₁'.vars.get? "repeat" = c'.vars.get? "repeat" := by
  have hflags := hg.flags n ((Document.mem_loopNodes hr).1 hn).1
  have hsteps : Dispatch.steps g joins n
      = [Dispatch.assign ((joins.find? (·.1 == n.id)).map (·.2)).join,
        .ofEntries (Block.ifEntry n [Dispatch.assign (g.whenTrue? n.id)]
          [Dispatch.assign (g.whenFalse? n.id)])] := by
    simp [Dispatch.steps, hkind, hdisabled]
  rw [runNode_disabled hkind hdisabled] at hstep
  obtain ⟨hnext, rfl⟩ := Prod.mk.inj hstep
  rw [← Except.ok.inj hnext]
  obtain ⟨c₁', hassign, hfollows⟩ := follows_assign (r := r) (g := g) h fun target htarget =>
    mem_loopNodes_of_skip hg.wellFormed hr hjoins htarget
  refine ⟨c₁', ?_, hfollows⟩
  -- the assignment in front of the block is all that counts, as the block itself is skipped
  rw [hsteps, LoopRun.start_runEach_cons_of_ok c' hassign, LoopRun.start_runEach_single]
  exact LoopRun.start_runStep_disabled c₁' (Entries.has_of_get?_eq_some Block.get?_ifEntry_if)
    (by rwa [Block.get_ifEntry_enabled hflags]) {}

/-- The steps of any other condition follow it to the branch that it chooses. -/
theorem exists_pass_enabled (hg : g.Emulable) (hr : r.reachable = g.reachable) {n : Node}
    (hn : n ∈ Document.loopNodes r g) (hkind : n.kind.isCondition = true)
    (henabled : (n.flags.get "enabled").isFalse = false) {c c' c₁ : Context} (h : Alike c c')
    {next : Option String} (hstep : start (g.runNode joins n) c = (.ok next, c₁)) :
    ∃ c₁', start (LoopRun.runEach (Dispatch.steps g joins n)) c' = (.ok (), c₁')
      ∧ Follows r g next c₁ c₁' ∧ c₁'.vars.get? "repeat" = c'.vars.get? "repeat" := by
  obtain ⟨hmem, -, hreach⟩ := (Document.mem_loopNodes hr).1 hn
  have hsteps : Dispatch.steps g joins n
      = [.ofEntries (Block.ifEntry n [Dispatch.assign (g.whenTrue? n.id)]
          [Dispatch.assign (g.whenFalse? n.id)])] := by
    simp [Dispatch.steps, hkind, henabled]
  rw [runNode_enabled hkind henabled, start_bind, start_get] at hstep
  simp only [start_bind, start_lift] at hstep
  rcases hpassed : Guard.evaluate c (.ofEntries n.data) with _ | passed
  · rw [hpassed] at hstep
    cases hstep
  rw [hpassed] at hstep
  obtain ⟨hnext, rfl⟩ := Prod.mk.inj hstep
  rw [← Except.ok.inj hnext]
  -- the condition cannot tell the contexts apart, as it does not ask for the variables of the loop
  have hpassed' : Guard.evaluate c' (.ofEntries n.data) = .ok passed := by
    rw [← h.evaluate_eq (hg.guards n hmem hkind), hpassed]
  obtain ⟨c₁', hassign, hfollows⟩ := follows_assign (r := r) (g := g) h fun target htarget => by
    obtain ⟨e, he, hsource, htarget, -⟩ := exists_edge_of_branch? htarget
    rw [← htarget]
    exact Document.mem_loopNodes_of_edge hg.wellFormed hr he (hsource ▸ hreach)
  refine ⟨c₁', ?_, hfollows⟩
  rw [hsteps, LoopRun.start_runEach_single,
    LoopRun.start_runStep_ifEntry c' (hg.flags n hmem) henabled hpassed', ← hassign]
  cases passed <;> rfl

/-- A graph and its loop apply the entry of a node alike: it sets variables, or is noted. -/
theorem exists_apply (hg : g.Emulable) {n : Node} (hmem : n ∈ g.nodes)
    (htrigger : n.kind.isTrigger = false) (hkind : n.kind.isCondition = false) {c c' c₂ : Context}
    (h : Alike c c') (happly : start (applyEntry (.ofEntries n.data) (match n.kind with
      | .setVariables => true
      | _ => false)) c = (.ok (), c₂)) :
    ∃ c₂', start (LoopRun.runStep (.ofEntries n.data)) c' = (.ok (), c₂') ∧ Alike c₂ c₂'
      ∧ c₂'.vars.get? "repeat" = c'.vars.get? "repeat" := by
  unfold Value.ofEntries at happly ⊢
  rw [LoopRun.runStep_of_not_has (hg.noBlock n hmem htrigger hkind) {}]
  have hnote (hassigns : n.kind ≠ .setVariables)
      (happly : start (applyEntry (.map {} n.data) false) c = (.ok (), c₂)) :
      ∃ c₂', start (applyEntry (.map {} n.data) (n.data.has "variables")) c' = (.ok (), c₂')
        ∧ Alike c₂ c₂' ∧ c₂'.vars.get? "repeat" = c'.vars.get? "repeat" := by
    rw [start_applyEntry_notes] at happly
    obtain ⟨-, rfl⟩ := Prod.mk.inj happly
    rw [hg.noVariables n hmem htrigger hkind hassigns]
    exact ⟨_, start_applyEntry_notes _ _, h.note _, rfl⟩
  -- the graph goes by the kind of the node, the loop by the keys of its entry
  cases hk : n.kind with
  | setVariables =>
    obtain ⟨o, vars, hvars, hloop⟩ := hg.assigns n hmem hk
    rw [hk] at happly
    rw [start_applyEntry_assigns _ hvars] at happly
    obtain ⟨-, rfl⟩ := Prod.mk.inj happly
    rw [Entries.has_of_get?_eq_some hvars]
    exact ⟨_, start_applyEntry_assigns _ hvars, h.merge hloop,
      Entries.get?_merge_of_not_has (hloop _ (by simp [loopVariables]))⟩
  | _ =>
    rw [hk] at happly
    exact hnote (by simp [hk]) happly

/-- The steps of any other node follow it to its successor. -/
theorem exists_pass_step (hg : g.Emulable) (hr : r.reachable = g.reachable)
    {n : Node} (hn : n ∈ Document.loopNodes r g)
    (hkind : n.kind.isCondition = false) {c c' c₁ : Context} (h : Alike c c') {next : Option String}
    (hstep : start (g.runNode joins n) c = (.ok next, c₁)) :
    ∃ c₁', start (LoopRun.runEach (Dispatch.steps g joins n)) c' = (.ok (), c₁')
      ∧ Follows r g next c₁ c₁' ∧ c₁'.vars.get? "repeat" = c'.vars.get? "repeat" := by
  obtain ⟨hmem, htrigger, hreach⟩ := (Document.mem_loopNodes hr).1 hn
  have hsteps : Dispatch.steps g joins n = [.ofEntries n.data, Dispatch.assign (g.successor? n.id)] := by
    simp [Dispatch.steps, hkind]
  unfold runNode at hstep
  rw [if_neg (by simp [hkind])] at hstep
  obtain ⟨⟨⟩, c₂, happly, hstep⟩ := start_bind_eq_ok hstep
  obtain ⟨c₂', happly', halike, hrepeat⟩ := exists_apply hg hmem htrigger hkind h happly
  obtain ⟨hnext, rfl⟩ := Prod.mk.inj hstep
  rw [← Except.ok.inj hnext]
  -- the second action of the option moves to where the run goes on
  obtain ⟨c₁', hassign, hfollows, hkeep⟩ :=
    follows_assign (r := r) (g := g) halike fun target htarget => by
      obtain ⟨e, he, hsource, htarget⟩ := exists_edge_of_successor? htarget
      rw [← htarget]
      exact Document.mem_loopNodes_of_edge hg.wellFormed hr he (hsource ▸ hreach)
  refine ⟨c₁', ?_, hfollows, hkeep.trans hrepeat⟩
  rw [hsteps, LoopRun.start_runEach_cons_of_ok c' happly', LoopRun.start_runEach_single, hassign]

/-- The steps of a node follow it to the node that the graph goes on at. -/
theorem exists_pass (hg : g.Emulable) (hr : r.reachable = g.reachable)
    (hjoins : g.blockJoins = .ok joins) {n : Node} (hn : n ∈ Document.loopNodes r g)
    {c c' c₁ : Context} (h : Alike c c') {next : Option String}
    (hstep : start (g.runNode joins n) c = (.ok next, c₁)) :
    ∃ c₁', start (LoopRun.runEach (Dispatch.steps g joins n)) c' = (.ok (), c₁')
      ∧ Follows r g next c₁ c₁' ∧ c₁'.vars.get? "repeat" = c'.vars.get? "repeat" := by
  cases hkind : n.kind.isCondition with
  | true =>
    cases henabled : (n.flags.get "enabled").isFalse with
    | true => exact exists_pass_disabled hg hr hjoins hn hkind henabled h hstep
    | false => exact exists_pass_enabled hg hr hn hkind henabled h hstep
  | false => exact exists_pass_step hg hr hn hkind h hstep

/-! ## Runs -/

/-- The loop of a document. -/
def loopOf (limits : Limits) (g : Graph) (joins : List (String × Option String))
    (body : List Node) : Value :=
  .ofEntries [(.str "sequence", .ofItems [choice g joins body]),
    (.str "until", .ofItems [untilCondition limits])]

/-- A context behind the number of a pass is set. -/
def numbered (c : Context) (index : Nat) : Context :=
  { c with vars := c.vars.set "repeat" (.ofEntries [(.str "index", .int index)]) }

theorem get?_numbered (c : Context) (index : Nat) :
    (numbered c index).vars.get? stateVariable = c.vars.get? stateVariable :=
  Entries.get?_set_of_ne (by decide) _

/-- Without passes left a loop is cut off. -/
theorem start_runPasses_zero (loop choice : Value) (limit : Int) (index : Nat) {c : Context}
    {state : Value} (hstate : c.vars.get? stateVariable = some state) :
    start (LoopRun.runPasses loop choice limit 0 index) c
      = start (cutOff limit state) (numbered c index) := by
  have hcurrent : start LoopRun.currentState (numbered c index) = (.ok state, numbered c index) := by
    simp [LoopRun.currentState, start_bind, get?_numbered, hstate, Outcome.orFault]
  rw [LoopRun.runPasses, start_bind, start_assign]
  exact start_bind_of_ok hcurrent

/-- A loop goes on behind a pass unless its condition to stop holds. -/
theorem start_runPasses_succ {limits : Limits} {body : List Node} (limit : Int) (left index : Nat)
    {c c₁ : Context}
    (hpass : start (LoopRun.runPass (choice g joins body)) (numbered c index) = (.ok (), c₁)) :
    start (LoopRun.runPasses (loopOf limits g joins body) (choice g joins body) limit (left + 1)
      index) c = if Template.holds c₁.vars (inBraces (stateVariable ++ " == '" ++ endState
          ++ "' or repeat.index >= " ++ toString limits.maxIterations)) then (.ok (), c₁)
        else start (LoopRun.runPasses (loopOf limits g joins body) (choice g joins body) limit left
          (index + 1)) c₁ := by
  have huntil : (loopOf limits g joins body).lookup (.str "until")
      = .ok (.ofItems [untilCondition limits]) := by
    simp [loopOf, Value.ofEntries, Value.lookup_str, Outcome.orFault]
  rw [LoopRun.runPasses, start_bind, start_assign]
  refine (start_bind_of_ok hpass).trans ?_
  unfold untilCondition at huntil
  simp only [start_bind, start_lift, start_get, huntil, Guard.evaluateAll_templateCondition,
    start_ite, start_pure]

/-- No node is named after the end state. -/
theorem find?_endState (hg : g.Emulable) :
    (Document.loopNodes r g).find? (·.id == endState) = none := by
  refine List.find?_eq_none.2 fun n hn => ?_
  simpa using hg.wellFormed.ne_endState (List.mem_filter.1 hn).1

theorem isName_of_mem_loopNodes (hg : g.Emulable) :
    ∀ n ∈ Document.loopNodes r g, Text.IsName n.id.toList :=
  fun _ hn => isName_of_mem hg (List.mem_filter.1 hn).1

/-- In the end state a loop may go on for as long as it likes. -/
theorem exists_passes_of_endState (hg : g.Emulable) (limits : Limits) (limit : Int)
    (left index : Nat) {a c : Context} (h : Alike a c)
    (hstate : c.vars.get? stateVariable = some (.str endState)) :
    ∃ c₁, start (LoopRun.runPasses (loopOf limits g joins (Document.loopNodes r g))
      (choice g joins (Document.loopNodes r g)) limit left index) c = (.ok (), c₁)
      ∧ Alike a c₁ := by
  induction left generalizing index c with
  | zero =>
    rw [start_runPasses_zero _ _ _ _ hstate]
    exact ⟨_, rfl, (h.assignRepeat _).report_right rfl⟩
  | succ left ih =>
    have hnumbered : (numbered c index).vars.get? stateVariable = some (.str endState) := by
      rw [get?_numbered, hstate]
    -- in the state of the end no option is taken, and a pass does no more than to log so
    obtain ⟨message, hpass⟩ := LoopRun.start_runPass_default _ g joins hnumbered
      (isName_of_mem_loopNodes hg) (find?_endState (r := r) hg)
    have halike := ((h.assignRepeat (.ofEntries [(.str "index", .int index)])).report_right
      (v := Dispatch.logEntry message) rfl).assignState (.str endState)
    rw [start_runPasses_succ _ _ _ hpass]
    split
    · exact ⟨_, rfl, halike⟩
    · exact ih _ halike (Entries.get?_set_self ..)

/-- A graph that goes on nowhere has done all that it does. -/
theorem of_runFrom_none {limit : Int} {left : Nat} {c c₁ : Context}
    (hrun : start (g.runFrom joins limit left none) c = (.ok (), c₁)) : c₁ = c := by
  rw [runFrom_none] at hrun
  exact (Prod.mk.inj hrun).2.symm

/-- A graph that goes on at a node visits it and runs it. -/
theorem of_runFrom_some {n : Node} (hnode : g.lastNode? n.id = some n) {limit : Int} {left : Nat}
    {c c₁ : Context}
    (hrun : start (g.runFrom joins limit (left + 1) (some n.id)) c = (.ok (), c₁)) :
    ∃ next c₂, start (g.runNode joins n) { c with trace := c.trace ++ [.str n.id] } = (.ok next, c₂)
      ∧ start (g.runFrom joins limit left next) c₂ = (.ok (), c₁) := by
  rw [runFrom_some hnode] at hrun
  obtain ⟨⟨⟩, cv, hvisit, hrun⟩ := start_bind_eq_ok hrun
  obtain ⟨-, rfl⟩ := Prod.mk.inj hvisit
  obtain ⟨next, c₂, hstep, hrun⟩ := start_bind_eq_ok hrun
  exact ⟨next, c₂, hstep, hrun⟩

/-- A graph that is followed into the end state is at its end. -/
theorem alike_of_stateOf_eq_endState (hg : g.Emulable) {next : Option String} {c c' c₁ : Context}
    (h : Follows r g next c c') (hend : stateOf next = endState) {limit : Int} {left : Nat}
    (hrun : start (g.runFrom joins limit left next) c = (.ok (), c₁)) : Alike c₁ c' := by
  cases next with
  | none =>
    rw [of_runFrom_none hrun]
    exact h.1
  | some id =>
    obtain ⟨n, hn, rfl⟩ := h.2.2 id rfl
    have hmem := (List.mem_filter.1 hn).1
    rw [stateOf, if_neg (hg.wellFormed.ne_empty hmem)] at hend
    exact absurd hend (hg.wellFormed.ne_endState hmem)

/-- A graph without steps left changes nothing that counts. -/
theorem alike_of_runFrom_zero {next : Option String} {c c' c₁ : Context} (h : Alike c c')
    {limit : Int} (hrun : start (g.runFrom joins limit 0 next) c = (.ok (), c₁)) :
    Alike c₁ c' := by
  cases next with
  | none =>
    rw [of_runFrom_none hrun]
    exact h
  | some id =>
    rw [runFrom_zero] at hrun
    obtain ⟨-, rfl⟩ := Prod.mk.inj hrun
    exact h.report_left rfl

/-- One pass in the state of a node does what the graph does there. -/
theorem exists_pass_of_follows (hg : g.Emulable) (hr : r.reachable = g.reachable)
    (hjoins : g.blockJoins = .ok joins) {n : Node} {c c' c₂ : Context} {next : Option String}
    (h : Follows r g (some n.id) c c') (hn : n ∈ Document.loopNodes r g)
    (hstep : start (g.runNode joins n) { c with trace := c.trace ++ [.str n.id] } = (.ok next, c₂))
    (index : Nat) :
    ∃ c₂', start (LoopRun.runPass (choice g joins (Document.loopNodes r g))) (numbered c' index)
        = (.ok (), c₂') ∧ Follows r g next c₂ c₂'
      ∧ c₂'.vars.get? "repeat" = some (.ofEntries [(.str "index", .int index)]) := by
  obtain ⟨halike, hstate, -⟩ := h
  have hmem := (List.mem_filter.1 hn).1
  have hfind : (Document.loopNodes r g).find? (·.id == n.id) = some n :=
    find?_eq_some_of_unique hn (beq_self_eq_true _) fun m hm hid =>
      hg.wellFormed.eq_of_id_eq (List.mem_filter.1 hm).1 hmem (beq_iff_eq.1 hid)
  rw [stateOf, if_neg (hg.wellFormed.ne_empty hmem)] at hstate
  have hpass := LoopRun.start_runPass_of_find? (numbered c' index) g joins
    ((get?_numbered c' index).trans hstate) (isName_of_mem_loopNodes hg) hfind
  obtain ⟨c₂', hsteps, hfollows, hrepeat⟩ := exists_pass hg hr hjoins hn
    ((halike.assignRepeat (.ofEntries [(.str "index", .int index)])).visit (.str n.id)) hstep
  exact ⟨c₂', hpass.trans hsteps, hfollows, hrepeat.trans (Entries.get?_set_self ..)⟩

/-- A loop that has as many passes left as the graph has steps does what the graph does from the
state of a node on. Both count down; the number of the pass goes up to the bound of the loop. -/
theorem exists_passes (hg : g.Emulable) (hr : r.reachable = g.reachable)
    (hjoins : g.blockJoins = .ok joins) {limits : Limits} (limit : Int) (left index : Nat)
    (hindex : left = 0 ∨ (index + left : Int) ≤ limits.maxIterations + 1) {next : Option String}
    {c c' c₁ : Context} (h : Follows r g next c c')
    (hrun : start (g.runFrom joins limit left next) c = (.ok (), c₁)) :
    ∃ c₁', start (LoopRun.runPasses (loopOf limits g joins (Document.loopNodes r g))
      (choice g joins (Document.loopNodes r g)) limit left index) c' = (.ok (), c₁')
      ∧ Alike c₁ c₁' := by
  induction left generalizing index next c c' with
  | zero =>
    -- neither has anything left, so both are cut off
    rw [start_runPasses_zero _ _ _ _ h.2.1]
    exact ⟨_, rfl, alike_of_runFrom_zero ((h.1.assignRepeat _).report_right rfl) hrun⟩
  | succ left ih =>
    cases next with
    | none =>
      rw [of_runFrom_none hrun]
      exact exists_passes_of_endState hg limits limit (left + 1) index h.1 h.2.1
    | some id =>
      obtain ⟨n, hn, rfl⟩ := h.2.2 id rfl
      obtain ⟨following, c₂, hstep, hrun⟩ :=
        of_runFrom_some (hg.wellFormed.lastNode?_of_mem (List.mem_filter.1 hn).1) hrun
      obtain ⟨c₂', hpass, hfollows, hnumber⟩ :=
        exists_pass_of_follows hg hr hjoins h hn hstep index
      have hindex : (index + left : Int) ≤ limits.maxIterations := by omega
      rw [start_runPasses_succ limit left index hpass]
      split
      · rename_i hstop
        obtain ⟨bound, hbound⟩ := Int.eq_ofNat_of_zero_le
          (show 0 ≤ limits.maxIterations by omega)
        rw [hbound] at hstop hindex
        refine ⟨c₂', rfl, ?_⟩
        rcases Template.eq_or_le_of_holds_untilTest hfollows.2.1 hnumber hstop with hend | hle
        · exact alike_of_stateOf_eq_endState hg hfollows hend hrun
        · -- the loop has no pass left, and neither has the graph a step
          obtain rfl : left = 0 := by omega
          exact alike_of_runFrom_zero hfollows.1 hrun
      · exact ih (index + 1) (.inr (by omega)) hfollows hrun

/-! ## Documents -/

/-- A context with the id of the trigger that fired. -/
def identified (c : Context) (trigger : Node) : Context :=
  if c.triggerId.truthy then c else { c with triggerId := trigger.data.get "id" }

/-- A run of a graph starts at the node that the trigger leads to. -/
theorem start_graphRun {limits : Limits} (hjoins : g.blockJoins = .ok joins) {c : Context}
    {t : Node} (ht : Value.itemAt g.triggers c.trigger = .ok t) (maxSteps : Option Int) :
    start (g.run limits maxSteps) c
      = start (g.runFrom joins (maxSteps.getD limits.maxIterations)
          (maxSteps.getD limits.maxIterations).toNat (g.successor? t.id)) (identified c t) := by
  unfold run
  simp only [hjoins, start_bind, start_lift, start_get, ht, start_identify]
  rfl

/-- A context behind the first action of a loop. -/
def entered (g : Graph) (c : Context) (trigger : Node) : Context :=
  let c := identified c trigger
  { c with vars := c.vars.set stateVariable (.str (stateOf (g.successor? trigger.id))) }

theorem triggerId_payloads {i : Nat} (hi : i < g.triggers.length) :
    LoopRun.triggerId (.ofItems (Program.payloads g.triggers)) i
      = .ok (g.triggers[i].data.get "id") := by
  have hlength : i < (Program.payloads g.triggers).length := by
    simpa [Program.payloads] using hi
  show (do
    let es ← (← Value.itemAt (Program.payloads g.triggers) i).fields
    return Entries.get es "id") = _
  rw [Value.itemAt_of_lt hlength]
  simp [Program.payloads]
  rfl

theorem startState_render (hg : g.Emulable) {i : Nat} (hi : i < g.triggers.length) :
    LoopRun.startState (.str (Routing.render g.firstNodes)) i
      = .ok (.str (stateOf (g.successor? g.triggers[i].id))) := by
  have hids := Document.isIdChar_of_mem_firstNodes hg.wellFormed hg.ids
  have hlength : i < g.firstNodes.length := by
    simpa [firstNodes] using hi
  rw [LoopRun.startState, Routing.resolve_render hids hlength]
  simp [firstNodes]

/-- The loop of a document starts in the state that the trigger leads to. -/
theorem start_loopRun (hg : g.Emulable) {limits : Limits} {order : List String}
    (hbody : Document.loopNodes r g ≠ []) {c : Context} {i : Nat} (hi : c.trigger = i)
    (hlt : i < g.triggers.length) (maxSteps : Option Int) :
    start (LoopRun.run limits (.ofEntries (Document.assemble g .dispatch order
        (Program.payloads g.triggers) []
        (Dispatch.actions limits g joins (Document.loopNodes r g)))) maxSteps) c
      = start (LoopRun.runPasses (loopOf limits g joins (Document.loopNodes r g))
          (choice g joins (Document.loopNodes r g)) (maxSteps.getD limits.maxIterations)
          (maxSteps.getD limits.maxIterations).toNat 1) (entered g c g.triggers[i]) := by
  have hactions : Dispatch.actions limits g joins (Document.loopNodes r g) = [
      assignText (Routing.render g.firstNodes),
      .ofEntries [(.str "repeat", loopOf limits g joins (Document.loopNodes r g))],
      ceilingReport limits g] := if_neg (by simpa using hbody)
  have htrigger : LoopRun.triggerId (.ofItems (Program.payloads g.triggers)) c.trigger
      = .ok (g.triggers[i].data.get "id") := hi ▸ triggerId_payloads hlt
  have hfirst : LoopRun.startState (.str (Routing.render g.firstNodes)) c.trigger
      = .ok (.str (stateOf (g.successor? g.triggers[i].id))) := hi ▸ startState_render hg hlt
  have hassign (state : String) : (assignText state).lookup (.str "variables")
      = .ok (.ofEntries [(.str stateVariable, .str state)]) := by
    simp [assignText, Value.ofEntries, Value.lookup_str, Outcome.orFault]
  have hlift : lift (LoopRun.triggerId (.ofItems (Program.payloads g.triggers)) c.trigger)
      = pure (g.triggers[i].data.get "id") := by
    rw [htrigger]
    rfl
  have hitem (a b c : Value) : (Value.ofItems [a, b, c]).lookup (.int 0) = .ok a
      ∧ (Value.ofItems [a, b, c]).lookup (.int 1) = .ok b := ⟨rfl, rfl⟩
  have hchoice : (Value.ofItems [choice g joins (Document.loopNodes r g)]).lookup (.int 0)
      = .ok (choice g joins (Document.loopNodes r g)) := rfl
  have hsequence : (loopOf limits g joins (Document.loopNodes r g)).lookup (.str "sequence")
      = .ok (.ofItems [choice g joins (Document.loopNodes r g)]) := by
    simp [loopOf, Value.ofEntries, Value.lookup_str, Outcome.orFault]
  -- from here on the run only looks up what was written, entry by entry
  unfold LoopRun.run
  rw [hactions]
  simp only [Value.ofEntries, Value.fields, start_bind, start_lift, Document.get?_assemble_actions,
    Document.get?_assemble_triggers, Option.getD_some, start_get, start_ite, start_assign, hlift,
    start_identify, (hitem _ _ _).1, (hitem _ _ _).2, hassign, Value.lookup_str,
    Entries.get?_cons_str, if_true, Outcome.orFault, hfirst, hsequence, hchoice]
  rfl

/-- Without nodes to run a document does nothing. -/
theorem start_loopRun_nil {limits : Limits} {order : List String}
    (hbody : Document.loopNodes r g = []) (c : Context) (maxSteps : Option Int) :
    start (LoopRun.run limits (.ofEntries (Document.assemble g .dispatch order
        (Program.payloads g.triggers) []
        (Dispatch.actions limits g joins (Document.loopNodes r g)))) maxSteps) c = (.ok (), c) := by
  have hactions : Dispatch.actions limits g joins (Document.loopNodes r g) = [] := if_pos (by simp [hbody])
  unfold LoopRun.run
  rw [hactions]
  simp only [Value.ofEntries, Value.fields, start_bind, start_lift, Document.get?_assemble_actions,
    Option.getD_some]
  rfl

/-- A trigger leads to a node that the loop runs, or nowhere. -/
theorem exists_mem_loopNodes_of_successor? (hwf : g.WellFormed) (hr : r.reachable = g.reachable)
    {t : Node} (ht : t ∈ g.triggers) :
    ∀ id ∈ g.successor? t.id, ∃ n ∈ Document.loopNodes r g, n.id = id := by
  intro id hid
  obtain ⟨e, he, hsource, rfl⟩ := exists_edge_of_successor? hid
  exact Document.mem_loopNodes_of_edge hwf hr he (hsource ▸ .trigger ht)

/-- A loop runs as the graph that it was written for: from the same context, with the same bound on
steps, it ends when the run of the graph does, with the same trace, the same variables apart from
its own, and the same log apart from reports. -/
theorem loopRun_follows_run (hg : g.Emulable) {limits : Limits} {w : Written}
    (hw : (Document.dispatch limits g).1 = .ok w) {c c₁ : Context} (hlow : 0 ≤ c.trigger)
    (hhigh : c.trigger < g.triggers.length) {maxSteps : Option Int}
    (hmax : maxSteps.getD limits.maxIterations ≤ limits.maxIterations)
    (hrun : start (g.run limits maxSteps) c = (.ok (), c₁)) :
    ∃ c₁', start (LoopRun.run limits (.ofEntries w.config) maxSteps) c = (.ok (), c₁')
      ∧ c₁'.trace = c₁.trace ∧ userVars c₁'.vars = userVars c₁.vars
      ∧ userLogs c₁'.logs = userLogs c₁.logs := by
  obtain ⟨r, -, joins, hr, -, hjoins, hconfig⟩ := Document.of_dispatch_eq_ok hw
  have hr := (Document.of_analyze_eq_ok hr).2
  obtain ⟨i, hi⟩ := Int.eq_ofNat_of_zero_le hlow
  have hlt : i < g.triggers.length := by omega
  have ht : Value.itemAt g.triggers c.trigger = .ok g.triggers[i] := hi ▸ Value.itemAt_of_lt hlt
  rw [start_graphRun hjoins ht] at hrun
  rw [hconfig]
  have hnext := exists_mem_loopNodes_of_successor? hg.wellFormed hr (List.getElem_mem hlt)
  -- without a node behind the triggers there is no loop, and the graph has nothing to run
  by_cases hbody : Document.loopNodes r g = []
  · have hnone : g.successor? g.triggers[i].id = none := by
      refine Option.eq_none_iff_forall_ne_some.2 fun id hid => ?_
      obtain ⟨n, hn, -⟩ := hnext id hid
      rw [hbody] at hn
      cases hn
    rw [hnone] at hrun
    obtain rfl := of_runFrom_none hrun
    refine ⟨c, start_loopRun_nil hbody c maxSteps, ?_⟩
    unfold identified
    split <;> exact ⟨rfl, rfl, rfl⟩
  · rw [start_loopRun hg hbody hi hlt]
    have hfollows : Follows r g (g.successor? g.triggers[i].id) (identified c g.triggers[i])
        (entered g c g.triggers[i]) := by
      refine ⟨?_, Entries.get?_set_self .., hnext⟩
      exact Alike.assignState ⟨rfl, rfl, rfl, rfl, rfl⟩ _
    have hindex : (maxSteps.getD limits.maxIterations).toNat = 0
        ∨ ((1 : Nat) + (maxSteps.getD limits.maxIterations).toNat : Int)
          ≤ limits.maxIterations + 1 := by
      omega
    obtain ⟨c₁', hloop, halike⟩ := exists_passes hg hr hjoins _ _ 1 hindex hfollows hrun
    exact ⟨c₁', hloop, halike.trace.symm, halike.vars.symm, halike.logs.symm⟩

end Emulable

/-- A graph with a cycle: a condition on a variable, behind the node that sets it. -/
def levelLoop : Graph where
  nodes := [
    { id := "t1", kind := .trigger, data := [(.str "trigger", .str "state")] },
    { id := "s1", kind := .setVariables,
      data := [(.str "variables", .ofEntries [(.str "level", .int 1)])] },
    { id := "c1", kind := .condition,
      data := [(.str "condition", .str "template"),
        (.str "value_template", .str (inBraces "level == 1"))] },
    { id := "a1", kind := .action, data := [(.str "action", .str "light.turn_on")] }]
  edges := [.between "t1" "s1", .between "s1" "c1", .between "c1" "a1" (some handleTrue),
    .between "a1" "c1"]

theorem emulable_levelLoop : levelLoop.Emulable where
  wellFormed := List.isEmpty_iff.1 (by decide +kernel)
  ids := by decide +kernel
  flags := by simp [levelLoop, Entries.Distinct]
  guards := by decide +kernel
  noBlock := by decide +kernel
  noVariables := by
    simp [levelLoop, Entries.has, NodeKind.isTrigger, NodeKind.isCondition, Value.isText]
  assigns := by
    simp [levelLoop, Entries.has, loopVariables, Value.isText, Value.ofEntries, stateVariable]

/-- The loop of that graph goes round as the graph does, until it is cut off. -/
theorem loopRun_follows_run_levelLoop :
    ∃ w c₁ c₁', (Document.dispatch {} levelLoop).1 = .ok w
      ∧ start (levelLoop.run {} (some 5)) {} = (.ok (), c₁) ∧ c₁.trace.length = 5
      ∧ start (LoopRun.run {} (.ofEntries w.config) (some 5)) {} = (.ok (), c₁')
      ∧ c₁'.trace = c₁.trace ∧ userVars c₁'.vars = userVars c₁.vars
      ∧ userLogs c₁'.logs = userLogs c₁.logs := by
  have hwritten : ((Document.dispatch {} levelLoop).1).toOption.isSome = true := by decide +kernel
  obtain ⟨⟨⟩, c₁, hrun⟩ := exists_start_eq_ok
    (show (start (levelLoop.run {} (some 5)) {}).1.toOption.isSome = true by decide +kernel)
  have htrace : (start (levelLoop.run {} (some 5)) {}).2.trace.length = 5 := by decide +kernel
  rcases hw : (Document.dispatch {} levelLoop).1 with _ | w
  · rw [hw] at hwritten
    cases hwritten
  rw [hrun] at htrace
  obtain ⟨c₁', hloop⟩ := emulable_levelLoop.loopRun_follows_run hw (by decide) (by decide)
    (by decide) hrun
  exact ⟨w, c₁, c₁', rfl, hrun, htrace, hloop⟩

/-- A graph with a step that has variables, but no mapping of them. -/
def nullVariables : Graph where
  nodes := [
    { id := "t1", kind := .trigger, data := [(.str "trigger", .str "state")] },
    { id := "a1", kind := .action,
      data := [(.str "action", .str "light.turn_on"), (.str "variables", .null)] }]
  edges := [.between "t1" "a1"]

/-- A graph that runs may have no loop, because it is larger than what is written, and a loop may
fail where the graph runs, because a step has a key that its kind does not ask for. -/
theorem exists_run_not_followed :
    (levelLoop.Emulable ∧ (∃ c₁, start (levelLoop.run { maxGraphNodes := 1 } (some 5)) {} = (.ok (), c₁))
      ∧ ∀ w, (Document.dispatch { maxGraphNodes := 1 } levelLoop).1 ≠ .ok w)
    ∧ nullVariables.WellFormed
      ∧ (∀ n ∈ nullVariables.nodes, (∀ c ∈ n.id.toList, Text.isIdChar c = true)
        ∧ n.kind.isCondition = false ∧ n.data.has "if" = false
        ∧ ((∃ o vars, n.data.get? "variables" = some (.map o vars)) ↔ n.kind = .setVariables))
      ∧ (∃ c₁, start (nullVariables.run {} none) {} = (.ok (), c₁))
      ∧ ∃ w, (Document.dispatch {} nullVariables).1 = .ok w
        ∧ ∀ c₁, start (LoopRun.run {} (.ofEntries w.config) none) {} ≠ (.ok (), c₁) := by
  refine ⟨⟨emulable_levelLoop, ?_, ?_⟩, List.isEmpty_iff.1 (by decide +kernel), ?_, ?_, ?_⟩
  · obtain ⟨⟨⟩, hrun⟩ := exists_start_eq_ok (show (start (levelLoop.run { maxGraphNodes := 1 }
      (some 5)) {}).1.toOption.isSome = true by decide +kernel)
    exact hrun
  · intro w hw
    have hnone : ((Document.dispatch { maxGraphNodes := 1 } levelLoop).1).toOption.isSome = false := by
      decide +kernel
    rw [hw] at hnone
    cases hnone
  -- the second graph has one variable that is null, and is sound in all else
  · intro n hn
    simp only [nullVariables, List.mem_cons, List.not_mem_nil, or_false] at hn
    rcases hn with rfl | rfl
    · exact ⟨by decide +kernel, rfl, by decide +kernel, by simp⟩
    · exact ⟨by decide +kernel, rfl, by decide +kernel, by simp⟩
  · obtain ⟨⟨⟩, hrun⟩ := exists_start_eq_ok
      (show (start (nullVariables.run {} none) {}).1.toOption.isSome = true by decide +kernel)
    exact hrun
  · have hfails : (Document.dispatch {} nullVariables).1.toOption.any (fun w =>
        !(start (LoopRun.run {} (.ofEntries w.config) none) {}).1.toOption.isSome) = true := by
      decide +kernel
    rcases hw : (Document.dispatch {} nullVariables).1 with _ | w
    · rw [hw] at hfails
      cases hfails
    · refine ⟨w, rfl, fun c₁ hrun => ?_⟩
      rw [hw] at hfails
      simp only [Except.toOption, Option.any_some, hrun] at hfails
      cases hfails

end Graph

end Automation
