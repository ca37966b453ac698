import Automation.Simulation.GraphRun

/-!
# Equations of runs

What the outcome of a run and the context behind it are, for each way of putting runs together.
With these equations a run is opened step by step, and no proof looks inside the monad. A run over a
graph is opened node by node (`Graph.runFrom_some`).
-/

namespace Automation

namespace Run

variable {α β : Type}

@[simp] theorem start_pure (a : α) (c : Context) : start (pure a) c = (.ok a, c) := rfl

@[simp] theorem start_lift (o : Outcome α) (c : Context) : start (lift o) c = (o, c) := rfl

@[simp] theorem lift_ok_bind (a : α) (f : α → Run β) : (lift (.ok a) >>= f) = f a := rfl

@[simp] theorem start_get (c : Context) : start get c = (.ok c, c) := rfl

@[simp] theorem start_modify (f : Context → Context) (c : Context) :
    start (modify f) c = (.ok (), f c) := rfl

@[simp] theorem start_log (entry : Value) (c : Context) :
    start (log entry) c = (.ok (), { c with logs := c.logs ++ [entry] }) := rfl

@[simp] theorem start_visit (v : Value) (c : Context) :
    start (visit v) c = (.ok (), { c with trace := c.trace ++ [v] }) := rfl

@[simp] theorem start_assign (name : String) (v : Value) (c : Context) :
    start (assign name v) c = (.ok (), { c with vars := c.vars.set name v }) := rfl

/-- A run goes on in the context that its first part leaves, unless that fails. -/
theorem start_bind (r : Run α) (f : α → Run β) (c : Context) :
    start (r >>= f) c = match start r c with
      | (.ok a, c') => start (f a) c'
      | (.error e, c') => (.error e, c') := by
  show (ExceptT.bind r f).run c = _
  unfold ExceptT.bind ExceptT.bindCont start
  simp only [ExceptT.run, ExceptT.mk, bind, StateT.bind, Id]
  rcases r c with ⟨_ | _, _⟩ <;> rfl

/-- A first part that succeeds hands over its value and its context. -/
theorem start_bind_of_ok {r : Run α} {f : α → Run β} {c c' : Context} {a : α}
    (h : start r c = (.ok a, c')) : start (r >>= f) c = start (f a) c' := by
  rw [start_bind, h]

/-- A run that succeeds has succeeded in its first part. -/
theorem start_bind_eq_ok {r : Run α} {f : α → Run β} {c c' : Context} {b : β}
    (h : start (r >>= f) c = (.ok b, c')) :
    ∃ a c₁, start r c = (.ok a, c₁) ∧ start (f a) c₁ = (.ok b, c') := by
  rw [start_bind] at h
  rcases hr : start r c with ⟨_ | a, c₁⟩
  · rw [hr] at h
    cases h
  · rw [hr] at h
    exact ⟨a, c₁, rfl, h⟩

/-- A run that fails has failed in its first part or behind it. -/
theorem start_bind_eq_error {r : Run α} {f : α → Run β} {c : Context} {e : Failure}
    (h : (start (r >>= f) c).1 = .error e) :
    (start r c).1 = .error e ∨ ∃ a c', (start (f a) c').1 = .error e := by
  rw [start_bind] at h
  rcases hr : start r c with ⟨_ | a, c'⟩
  · rw [hr] at h
    cases h
    exact .inl rfl
  · rw [hr] at h
    exact .inr ⟨a, c', h⟩

/-- A run whose outcome is one has a context behind it. -/
theorem exists_start_eq_ok {r : Run α} {c : Context}
    (h : (start r c).1.toOption.isSome = true) : ∃ a c₁, start r c = (.ok a, c₁) := by
  rcases hr : start r c with ⟨_ | a, c₁⟩
  · rw [hr] at h
    cases h
  · exact ⟨a, c₁, rfl⟩

@[simp] theorem start_ite (p : Prop) [Decidable p] (r s : Run α) (c : Context) :
    start (if p then r else s) c = if p then start r c else start s c := by
  split <;> rfl

/-- Setting variables changes nothing but the variables. -/
theorem start_assignAll (v : Value) (c : Context) :
    start (assignAll v) c = ((c.vars.update v).2, { c with vars := (c.vars.update v).1 }) := rfl

/-- Taking the id of a trigger changes nothing but that id. -/
theorem start_identify (id : Value) (c : Context) :
    start (identify (pure id)) c =
      (.ok (), if c.triggerId.truthy then c else { c with triggerId := id }) := by
  unfold identify
  by_cases h : c.triggerId.truthy <;> simp [start_bind, h]

/-- An entry that assigns a mapping sets its fields. -/
theorem start_applyEntry_assigns {es : Entries} {o p : Origin} {vars : Entries} (c : Context)
    (h : es.get? "variables" = some (.map p vars)) :
    start (applyEntry (.map o es) true) c = (.ok (), { c with vars := c.vars.merge vars }) := by
  simp [applyEntry, Value.fields, h, start_assignAll, Entries.update]

/-- An entry that does not assign is noted. -/
theorem start_applyEntry_notes (entry : Value) (c : Context) :
    start (applyEntry entry false) c = (.ok (), { c with logs := c.logs ++ [entry] }) := by
  simp [applyEntry]

end Run

/-! ## Runs over graphs -/

namespace Graph

open Run

variable {g : Graph} {joins : List (String × Option String)} {limit : Int} {n : Node}

theorem runFrom_none (steps : Nat) : g.runFrom joins limit steps none = pure () := by
  cases steps <;> rfl

theorem runFrom_zero (id : String) :
    g.runFrom joins limit 0 (some id) = cutOff limit (.str id) := rfl

/-- A run visits the node where it stands, runs it, and goes on where that leads. -/
theorem runFrom_some (hnode : g.lastNode? n.id = some n) (steps : Nat) :
    g.runFrom joins limit (steps + 1) (some n.id)
      = (do visit (.str n.id); g.runFrom joins limit steps (← g.runNode joins n)) := by
  rw [runFrom, hnode]
  rfl

/-- A condition whose block is disabled is skipped to its join. -/
theorem runNode_disabled (hcondition : n.kind.isCondition = true)
    (hdisabled : (n.flags.get "enabled").isFalse = true) :
    g.runNode joins n = pure ((joins.find? (·.1 == n.id)).map (·.2)).join := by
  rw [runNode, if_pos hcondition, if_pos hdisabled]

/-- Any other condition is left by the branch that it chooses. -/
theorem runNode_enabled (hcondition : n.kind.isCondition = true)
    (henabled : (n.flags.get "enabled").isFalse = false) :
    g.runNode joins n = (do
      let passed ← lift (Guard.evaluate (← get) (.ofEntries n.data))
      return g.branch? n.id (if passed then handleTrue else handleFalse)) := by
  rw [runNode, if_pos hcondition, if_neg (by simp [henabled])]

end Graph

end Automation
