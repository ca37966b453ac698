import Automation.Proofs.Simulation.Nested
import Automation.Proofs.Template.Names

/-!
# Runs that agree

Contexts agree when they differ in nothing but in what was visited (`Context.Agree`). No condition
and no entry asks for that, so two runs agree when their parts do (`Run.Agree`), whatever they
visit.
-/

namespace Automation

/-- Contexts with nothing but their traces apart. -/
structure Context.Agree (a b : Context) : Prop where
  states : a.states = b.states
  trigger : a.trigger = b.trigger
  triggerId : a.triggerId = b.triggerId
  vars : a.vars = b.vars
  logs : a.logs = b.logs

namespace Context.Agree

variable {a b : Context}

theorem refl (a : Context) : Agree a a := ⟨rfl, rfl, rfl, rfl, rfl⟩

/-- What a run has visited has no part in the agreement. -/
theorem visit (h : Agree a b) (v : Value) : Agree { a with trace := a.trace ++ [v] } b :=
  { h with }

/-- A condition has one outcome in contexts that agree. -/
theorem evaluate_eq (h : Agree a b) (v : Value) : Guard.evaluate a v = Guard.evaluate b v :=
  Guard.evaluate_congr v h.states h.triggerId fun _ _ => by rw [h.vars]

end Context.Agree

namespace Run

variable {α β : Type}

/-- Runs that have one outcome in contexts that agree, and leave contexts that agree. -/
def Agree (r s : Run α) : Prop := ∀ a b : Context, a.Agree b →
  (start r a).1 = (start s b).1 ∧ (start r a).2.Agree (start s b).2

namespace Agree

theorem pure (x : α) : Agree (pure x) (pure x) := fun _ _ h => ⟨rfl, h⟩

theorem lift (o : Outcome α) : Agree (lift o) (lift o) := fun _ _ h => ⟨rfl, h⟩

/-- Two runs agree step by step. -/
theorem bind {r s : Run α} {f g : α → Run β} (hrs : Agree r s) (hfg : ∀ x, Agree (f x) (g x)) :
    Agree (r >>= f) (s >>= g) := by
  intro a b h
  obtain ⟨houtcome, hcontext⟩ := hrs a b h
  rw [start_bind, start_bind]
  rcases hr : start r a with ⟨o, a'⟩
  rcases hs : start s b with ⟨o', b'⟩
  rw [hr, hs] at houtcome hcontext
  obtain rfl : o = o' := houtcome
  cases o with
  | error e => exact ⟨rfl, hcontext⟩
  | ok x => exact hfg x a' b' hcontext

/-- What a run visits makes no difference. -/
theorem visit {r s : Run α} (h : Agree r s) (v : Value) : Agree (do visit v; r) s := by
  intro a b hab
  rw [start_bind, start_visit]
  exact h _ _ (hab.visit v)

/-- A run that asks for its context agrees with itself when it makes the same of contexts that
agree. -/
theorem get_bind {f g : Context → Run α} (h : ∀ a b : Context, a.Agree b → Agree (f a) (g b)) :
    Agree (do f (← get)) (do g (← get)) := by
  intro a b hab
  rw [start_bind, start_bind]
  exact h a b hab a b hab

/-- A condition is decided alike in contexts that agree. -/
theorem holds (data : Entries) : Agree (holds data) (holds data) :=
  get_bind fun a b hab => by
    rw [hab.evaluate_eq]
    exact .lift _

/-- A change that keeps the agreement is made alike. -/
theorem modify {f : Context → Context} (h : ∀ a b : Context, a.Agree b → (f a).Agree (f b)) :
    Agree (modify f) (modify f) := fun a b hab => ⟨rfl, h a b hab⟩

theorem log (entry : Value) : Agree (log entry) (log entry) :=
  .modify fun _ _ h => { h with logs := congrArg (· ++ [entry]) h.logs }

theorem assignAll (v : Value) : Agree (assignAll v) (assignAll v) := by
  intro a b h
  rw [start_assignAll, start_assignAll, h.vars]
  exact ⟨rfl, { h with vars := rfl }⟩

/-- An entry has the same effect in contexts that agree. -/
theorem applyEntry (entry : Value) (assigns : Bool) :
    Agree (applyEntry entry assigns) (applyEntry entry assigns) := by
  cases assigns with
  | false => exact .log entry
  | true => exact .bind (.lift _) fun es => .assignAll _

theorem identify (id : Value) : Agree (identify (Pure.pure id)) (identify (Pure.pure id)) := by
  intro a b h
  rw [start_identify, start_identify, h.triggerId]
  refine ⟨rfl, ?_⟩
  show Context.Agree (if b.triggerId.truthy = true then a else { a with triggerId := id })
    (if b.triggerId.truthy = true then b else { b with triggerId := id })
  split
  · exact h
  · exact { h with triggerId := rfl }

end Agree

end Run

end Automation
