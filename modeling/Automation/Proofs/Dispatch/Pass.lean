import Automation.Document.Writing
import Automation.Proofs.Program.Entries
import Automation.Proofs.Simulation.Run
import Automation.Proofs.Template.Comparison
import Automation.Simulation.GraphRun
import Automation.Simulation.LoopRun

/-!
# One pass of a dispatch loop

What a pass over the options of a loop does, as equations of runs. The choice takes the option of
the node that the state is the id of (`chooseOption_options`), the if block of a condition runs the
branch that the condition selects (`start_runStep_ifEntry`), and an assignment changes the state and
nothing else (`start_runStep_assign`).
-/

namespace Automation

namespace Guard

/-! ## Conditions of the loop -/

variable (c : Context)

theorem evaluateAll_single (v : Value) : evaluateAll c (.ofItems [v]) = evaluate c v := by
  show (do if ← evaluate c v then allHold [] else return false) = evaluate c v
  rcases evaluate c v with _ | _ | _ <;> rfl

/-- A condition on an expression asks whether its template holds. -/
theorem evaluateAll_templateCondition (expression : String) :
    evaluateAll c (.ofItems [Dispatch.templateCondition expression])
      = .ok (Template.holds c.vars (Dispatch.inBraces expression)) := by
  rw [evaluateAll_single]
  rfl

/-- A mapping of two fields has no third. -/
theorem get_eq_null_of_length_two {es : Entries} {a b name : String} (hlen : es.length = 2)
    (ha : es.has a = true) (hb : es.has b = true) (hab : a ≠ b) (hna : a ≠ name) (hnb : b ≠ name) :
    es.get name = .null := by
  match es, hlen with
  | [(k, v), (l, w)], _ =>
    simp only [Entries.has, List.any_cons, List.any_nil, Bool.or_false, Bool.or_eq_true] at ha hb
    have hkeys : k.isText name = false ∧ l.isText name = false := by
      rcases ha with ha | ha
      · rcases hb with hb | hb
        · rw [Value.isText_of_ne ha hab] at hb
          cases hb
        · exact ⟨Value.isText_of_ne ha hna, Value.isText_of_ne hb hnb⟩
      · rcases hb with hb | hb
        · exact ⟨Value.isText_of_ne hb hnb, Value.isText_of_ne ha hna⟩
        · rw [Value.isText_of_ne ha hab] at hb
          cases hb
    simp [Entries.get, Entries.get?_cons, hkeys]

/-- The parts of a condition are what its first field of that name does. -/
theorem evaluateParts_eq_get? (es : Entries) :
    evaluateParts c es = match es.get? "conditions" with
      | some v => evaluateElements c v
      | none => .ok [] := by
  induction es with
  | nil => rfl
  | cons e es ih =>
    obtain ⟨k, v⟩ := e
    rw [evaluateParts, Entries.get?_cons]
    split
    · rfl
    · exact ih

/-- The conditions that a payload is written as ask what the payload asks. -/
theorem evaluateAll_spread (data : Entries) :
    evaluateAll c (.ofItems (Condition.spread data)) = evaluate c (.ofEntries data) := by
  unfold Condition.spread
  -- a plain group is spread into its conditions, and anything else stands alone
  split
  · rename_i o parts hparts
    split
    · rename_i hplain
      simp only [Bool.and_eq_true, decide_eq_true_eq] at hplain
      obtain ⟨⟨hlen, hand⟩, -⟩ := hplain
      have hand : data.get "condition" = .str "and" := Value.isText_iff.1 hand
      have hhas {name : String} {v : Value} (hv : data.get name = v) (hnull : v ≠ .null) :
          data.get? name = some v := by
        unfold Entries.get at hv
        cases h : data.get? name with
        | none =>
          rw [h] at hv
          exact absurd hv.symm hnull
        | some w =>
          rw [h] at hv
          exact congrArg some hv
      have hparts := hhas hparts (by simp)
      have henabled : data.get "enabled" = .null :=
        get_eq_null_of_length_two hlen (Entries.has_of_get?_eq_some (hhas hand (by simp)))
          (Entries.has_of_get?_eq_some hparts) (by decide) (by decide) (by decide)
      show allHold (parts.map (evaluate c)) = decide c data (evaluateParts c data)
      rw [decide, henabled, hand, evaluateParts_eq_get?, hparts]
      show _ = allHold (evaluateEach c parts)
      rw [evaluateEach_eq_map]
    · exact evaluateAll_single c _
  · exact evaluateAll_single c _

end Guard

namespace LoopRun

open Run

/-! ## Steps of the loop -/

variable (c : Context)

theorem start_runSteps_ofItems (steps : List Value) :
    start (runSteps (.ofItems steps)) c = start (runEach steps) c := by
  simp only [Value.ofItems, runSteps]

theorem start_runEach_single (v : Value) : start (runEach [v]) c = start (runStep v) c := by
  rw [runEach, start_bind]
  rcases start (runStep v) c with ⟨_ | _, _⟩ <;> rfl

theorem start_runEach_cons_of_ok {v : Value} {vs : List Value} {c' : Context}
    (h : start (runStep v) c = (.ok (), c')) :
    start (runEach (v :: vs)) c = start (runEach vs) c' := by
  rw [runEach, start_bind_of_ok h]

/-- The branch of a block is what its first field of that name holds. -/
theorem runBranch_eq_get? (name : String) (es : Entries) :
    runBranch name es = match es.get? name with
      | some v => if v.truthy then runSteps v else return
      | none => return := by
  induction es with
  | nil => simp only [runBranch, Entries.get?_nil]
  | cons e es ih =>
    obtain ⟨k, v⟩ := e
    rw [runBranch, Entries.get?_cons]
    split
    · rfl
    · exact ih

/-- A step without branches is applied. -/
theorem runStep_of_not_has {es : Entries} (h : es.has "if" = false) (o : Origin) :
    runStep (.map o es) = applyEntry (.map o es) (es.has "variables") := by
  rw [runStep, if_neg (by simp [h])]

/-- An assignment changes the state and nothing else. -/
theorem start_runStep_assignText (state : String) :
    start (runStep (Dispatch.assignText state)) c
      = (.ok (), { c with vars := c.vars.set Dispatch.stateVariable (.str state) }) := by
  unfold Dispatch.assignText Value.ofEntries
  rw [runStep_of_not_has (by rfl)]
  show start (applyEntry _ true) c = _
  rw [start_applyEntry_assigns c (Entries.get?_cons_str _ _ _ _), ← Entries.insert_str]
  rfl

/-- A disabled block does nothing. -/
theorem start_runStep_disabled {es : Entries} (hif : es.has "if" = true)
    (h : (es.get "enabled").isFalse = true) (o : Origin) :
    start (runStep (.map o es)) c = (.ok (), c) := by
  rw [runStep, if_pos hif, if_pos h]
  rfl

/-- A block runs the branch that its conditions select. -/
theorem start_runStep_ifEntry {n : Node} {whenTrue whenFalse : Value} (hflags : n.flags.Distinct)
    (h : (n.flags.get "enabled").isFalse = false) {passed : Bool}
    (hpassed : Guard.evaluate c (.ofEntries n.data) = .ok passed) :
    start (runStep (.ofEntries (Block.ifEntry n [whenTrue] [whenFalse]))) c
      = start (runStep (if passed then whenTrue else whenFalse)) c := by
  have hbranch (v : Value) : start (runSteps (.ofItems [v])) c = start (runStep v) c := by
    rw [start_runSteps_ofItems, start_runEach_single]
  have hconditions : (Entries.get (Block.ifEntry n [whenTrue] [whenFalse]) "if").asItems
      = Condition.spread n.data := by
    rw [Entries.get, Block.get?_ifEntry_if]
    rfl
  unfold Value.ofEntries
  rw [runStep, if_pos (Entries.has_of_get?_eq_some Block.get?_ifEntry_if),
    Block.get_ifEntry_enabled hflags, if_neg (by simp [h]), hconditions]
  rw [start_bind, start_get]
  simp only [start_bind, start_lift, Guard.evaluateAll_spread, hpassed, start_ite]
  rw [runBranch_eq_get?, runBranch_eq_get?, Block.get?_ifEntry_then,
    Block.get?_ifEntry_else (by simp)]
  -- each branch is one action, the move to the next state
  cases passed with
  | true => exact hbranch whenTrue
  | false => exact hbranch whenFalse

/-! ## The choice of an option -/

variable (g : Graph) (joins : List (String × Option String))

/-- The option of a node is taken in the state that is its id. -/
theorem chooseOption_options {state : String}
    (hstate : c.vars.get? Dispatch.stateVariable = some (.str state)) {body : List Node}
    (hids : ∀ n ∈ body, Text.IsName n.id.toList) :
    chooseOption c (body.map (Dispatch.option g joins))
      = .ok ((body.find? (·.id == state)).map (Dispatch.option g joins)) := by
  induction body with
  | nil => rfl
  | cons n body ih =>
    have hrest := ih fun m hm => hids m (List.mem_cons_of_mem _ hm)
    have hguard : Guard.evaluateAll c (.ofItems [Dispatch.stateTest n.id]) = .ok (state == n.id) := by
      unfold Dispatch.stateTest
      rw [Guard.evaluateAll_templateCondition, Template.holds_stateTest (hids n (by simp)) hstate]
    have hlookup : (Dispatch.option g joins n).lookup (.str "conditions")
        = .ok (.ofItems [Dispatch.stateTest n.id]) := by
      simp [Dispatch.option, Value.ofEntries, Value.lookup_str, Outcome.orFault]
    rw [List.map_cons, chooseOption, hlookup]
    simp only [bind, Except.bind, hguard, hrest]
    -- the first option whose test names the state is taken
    by_cases h : n.id = state
    · simp [h]
      rfl
    · simp [h, Ne.symm h]

theorem lookup_choice_choose (body : List Node) :
    (Dispatch.choice g joins body).lookup (.str "choose")
      = .ok (.ofItems (body.map (Dispatch.option g joins))) := by
  simp [Dispatch.choice, Value.ofEntries, Value.lookup_str, Outcome.orFault]

/-- A pass in the state of a node runs the steps of that node. -/
theorem start_runPass_of_find? {state : String} {body : List Node} {n : Node}
    (hstate : c.vars.get? Dispatch.stateVariable = some (.str state))
    (hids : ∀ n ∈ body, Text.IsName n.id.toList) (hfind : body.find? (·.id == state) = some n) :
    start (runPass (Dispatch.choice g joins body)) c
      = start (runEach (Dispatch.steps g joins n)) { c with trace := c.trace ++ [.str state] } := by
  have hchoose := chooseOption_options c g joins hstate hids
  rw [hfind] at hchoose
  have hsequence : (Dispatch.option g joins n).lookup (.str "sequence")
      = .ok (.ofItems (Dispatch.steps g joins n)) := by
    simp [Dispatch.option, Value.ofEntries, Value.lookup_str, Outcome.orFault]
  have hcurrent : start currentState c = (.ok (.str state), c) := by
    simp [currentState, start_bind, hstate, Outcome.orFault]
  unfold runPass
  simp only [start_bind, start_lift, start_get, start_visit, lookup_choice_choose, Value.ofItems,
    Value.elements, hchoose, Option.map_some, hcurrent, hsequence]
  exact start_runSteps_ofItems _ _

/-- A pass in a state that is the id of no node reports that, and ends the run. -/
theorem start_runPass_default {state : String} {body : List Node}
    (hstate : c.vars.get? Dispatch.stateVariable = some (.str state))
    (hids : ∀ n ∈ body, Text.IsName n.id.toList) (hfind : body.find? (·.id == state) = none) :
    ∃ message, start (runPass (Dispatch.choice g joins body)) c
      = (.ok (), { c with
          logs := c.logs ++ [Dispatch.logEntry message]
          vars := c.vars.set Dispatch.stateVariable (.str endState) }) := by
  have hchoose := chooseOption_options c g joins hstate hids
  rw [hfind] at hchoose
  refine ⟨Dispatch.titleOf g ++ ": unknown state " ++ Dispatch.inBraces Dispatch.stateVariable, ?_⟩
  -- a log entry has no effect but in the log
  have hlog (message : String) (c : Context) : start (runStep (Dispatch.logEntry message)) c
      = (.ok (), { c with logs := c.logs ++ [Dispatch.logEntry message] }) := by
    unfold Dispatch.logEntry Value.ofEntries
    rw [runStep_of_not_has (by rfl)]
    exact start_applyEntry_notes _ _
  unfold runPass
  simp only [start_bind, start_lift, start_get, lookup_choice_choose, Value.ofItems,
    Value.elements, hchoose, Option.map_none]
  simp only [Dispatch.choice, Value.ofEntries, Value.fields, Entries.get?_cons_str]
  rw [if_neg (by decide), if_pos trivial, Option.getD_some, start_runSteps_ofItems]
  -- the default logs the state and moves to the end
  simp only [runEach, start_bind, hlog, Dispatch.assign, stateOf, start_runStep_assignText]
  rfl

end LoopRun

end Automation
