import Automation.Proofs.Dispatch.Pass
import Automation.Proofs.Entry
import Automation.Proofs.Simulation.Nested

/-!
# What a step does in both runs

A run over a graph goes by the kind of a node, and a run of its dispatch loop by the keys of the
entry that the node is written as. Where a step that has variables is one that sets them, the two
runs change a context in the same way (`Dispatch.sameEffect_steps_iff`). Any other step with
variables is noted by the one and sets them in the other (`Dispatch.not_sameEffect_movieScript`).
-/

namespace Automation

open Run

namespace Entry

variable {es : Entries} {kind : NodeKind}

/-- No step has branches. -/
theorem not_has_if_of_kind (h : Entry.kind es = .step kind) : es.has "if" = false := by
  unfold Entry.kind at h
  split at h
  · cases h
  · simpa using ‹¬es.has "if" = true›

/-- A step that sets variables has them. -/
theorem has_variables_of_kind (h : Entry.kind es = .step .setVariables) :
    es.has "variables" = true := by
  unfold Entry.kind at h
  repeat' split at h
  all_goals first
    | assumption
    | cases h

end Entry

namespace Dispatch

/-- Two runs with one effect: both succeed, or both fail in the same way, and the contexts that they
leave differ in the state of a dispatch loop at most. -/
structure SameEffect {α β : Type} (a : Outcome α × Context) (b : Outcome β × Context) : Prop where
  outcome : b.1.map (fun _ => ()) = a.1.map fun _ => ()
  vars : b.2.vars.erase stateVariable = a.2.vars.erase stateVariable
  rest : b.2 = { a.2 with vars := b.2.vars }

variable {g : Graph} {joins : List (String × Option String)} {n : Node}

/-- A node that is no condition is applied, and its successor is next. -/
theorem start_runNode_step (h : n.kind.isCondition = false) (c : Context) :
    start (g.runNode joins n) c
      = start (applyEntry (.ofEntries n.data) n.kind.assigns >>= fun _ => pure (g.successor? n.id))
        c := by
  unfold Graph.runNode
  rw [if_neg (by simp [h])]
  rfl

/-- The steps of the option of such a node apply its entry, and assign the state of its
successor. -/
theorem start_runSteps_step (h : Entry.kind n.data = .step n.kind) (c : Context) :
    start (LoopRun.runSteps (.ofItems (steps g joins n))) c
      = start (applyEntry (.ofEntries n.data) (n.data.has "variables")
          >>= fun _ => LoopRun.runStep (assign (g.successor? n.id))) c := by
  have hsteps : steps g joins n = [.ofEntries n.data, assign (g.successor? n.id)] := by
    simp [steps, Entry.isCondition_of_kind h]
  rw [LoopRun.start_runSteps_ofItems, hsteps, LoopRun.runEach, Value.ofEntries,
    LoopRun.runStep_of_not_has (Entry.not_has_if_of_kind h), start_bind, start_bind]
  rcases start (applyEntry (.map {} n.data) (n.data.has "variables")) c with ⟨_ | _, c'⟩
  · rfl
  · exact LoopRun.start_runEach_single c' _

/-- An entry that is applied in both runs has one effect there, the next state apart. -/
theorem sameEffect_applyEntry (entry : Value) (assigns : Bool) (next : Option String)
    (c : Context) : SameEffect (start (applyEntry entry assigns >>= fun _ => pure next) c)
      (start (applyEntry entry assigns >>= fun _ => LoopRun.runStep (assign next)) c) := by
  rw [start_bind, start_bind]
  rcases start (applyEntry entry assigns) c with ⟨_ | _, c'⟩
  · exact ⟨rfl, rfl, rfl⟩
  · refine ⟨?_, ?_, ?_⟩ <;> dsimp only <;> rw [assign, LoopRun.start_runStep_assignText]
    · rfl
    · exact Entries.erase_set_self ..
    · rfl

/-- An entry that sets variables leaves the log as it is, whatever its outcome. -/
theorem logs_applyEntry_assigns (es : Entries) (c : Context) :
    (start (applyEntry (.ofEntries es) true) c).2.logs = c.logs := by
  simp [applyEntry, Value.ofEntries, Value.fields, start_assignAll]

/-- The steps of the option of a node do what the node does in a run over the graph, whatever its
payload, exactly when it sets variables or has none. -/
theorem sameEffect_steps_iff (g : Graph) (joins : List (String × Option String)) {n : Node}
    (h : Entry.kind n.data = .step n.kind) (c : Context) :
    SameEffect (start (g.runNode joins n) c)
        (start (LoopRun.runSteps (.ofItems (steps g joins n))) c)
      ↔ (n.data.has "variables" = true → n.kind = .setVariables) := by
  rw [start_runNode_step (Entry.isCondition_of_kind h), start_runSteps_step h]
  constructor
  · intro hsame hvariables
    by_contra hkind
    have hnotes : n.kind.assigns = false := by
      rcases Entry.cases_of_kind h with hk | hk | hk | hk <;> simp_all [NodeKind.assigns]
    rw [hvariables, hnotes] at hsame
    -- the graph makes a note, and the loop makes none
    have hgraph : (start (applyEntry (.ofEntries n.data) false
        >>= fun _ => pure (g.successor? n.id)) c).2.logs = c.logs ++ [.ofEntries n.data] := by
      rw [start_bind, start_applyEntry_notes]
      rfl
    have hloop : (start (applyEntry (.ofEntries n.data) true
        >>= fun _ => LoopRun.runStep (assign (g.successor? n.id))) c).2.logs = c.logs := by
      have hlogs := logs_applyEntry_assigns n.data c
      rw [start_bind]
      rcases hrun : start (applyEntry (.ofEntries n.data) true) c with ⟨_ | _, c'⟩
      · rwa [hrun] at hlogs
      · rw [hrun] at hlogs
        dsimp only
        rw [assign, LoopRun.start_runStep_assignText]
        exact hlogs
    have hrest := congrArg Context.logs hsame.rest
    rw [hloop, hgraph] at hrest
    simpa using congrArg List.length hrest
  · intro hvariables
    have hassigns : n.data.has "variables" = n.kind.assigns := by
      cases hhas : n.data.has "variables" with
      | true => rw [hvariables hhas]; rfl
      | false =>
        rcases Entry.cases_of_kind h with hk | hk | hk | hk <;> rw [hk]
        all_goals first
          | rfl
          | rw [Entry.has_variables_of_kind (hk ▸ h)] at hhas; cases hhas
    rw [hassigns]
    exact sameEffect_applyEntry ..

/-- A step that sets variables and has further keys. -/
def dimmedLevel : Node where
  id := "dim"
  kind := .setVariables
  data := [(.str "alias", .str "Dim"), (.str "variables", .ofEntries [(.str "level", .int 20)]),
    (.str "enabled", .bool false)]

/-- Both runs set the variables of a step that has further keys. -/
theorem sameEffect_steps_dimmedLevel : Entry.kind dimmedLevel.data = .step dimmedLevel.kind
    ∧ (SameEffect (start (({ nodes := [dimmedLevel] } : Graph).runNode [] dimmedLevel) {})
        (start (LoopRun.runSteps (.ofItems (steps { nodes := [dimmedLevel] } [] dimmedLevel))) {})
      ↔ (dimmedLevel.data.has "variables" = true → dimmedLevel.kind = .setVariables)) :=
  ⟨rfl, sameEffect_steps_iff { nodes := [dimmedLevel] } [] rfl {}⟩

/-- A script that is given variables. -/
def movieScript : Node where
  id := "movie"
  kind := .action
  data := [(.str "action", .str "script.movie"),
    (.str "variables", .ofEntries [(.str "level", .int 20)])]

/-- The script alone. -/
def movie : Graph where
  nodes := [movieScript]

/-- The graph notes that the script was run. The loop sets the variables that the script was to be
given, and does not run it. -/
theorem not_sameEffect_movieScript : Entry.kind movieScript.data = .step movieScript.kind
    ∧ (start (movie.runNode [] movieScript) {}).2.logs = [.ofEntries movieScript.data]
    ∧ (start (movie.runNode [] movieScript) {}).2.vars = []
    ∧ (start (LoopRun.runSteps (.ofItems (steps movie [] movieScript))) {}).2.logs = []
    ∧ (start (LoopRun.runSteps (.ofItems (steps movie [] movieScript))) {}).2.vars
      = [(.str "level", .int 20), (.str stateVariable, .str endState)]
    ∧ ¬SameEffect (start (movie.runNode [] movieScript) {})
        (start (LoopRun.runSteps (.ofItems (steps movie [] movieScript))) {}) := by
  refine ⟨rfl, rfl, rfl, rfl, rfl, fun h => ?_⟩
  have hlogs : ([] : List Value) = [.ofEntries movieScript.data] := congrArg Context.logs h.rest
  cases hlogs

end Dispatch

end Automation
