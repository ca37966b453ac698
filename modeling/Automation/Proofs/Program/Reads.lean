import Automation.Program.Reading

/-!
# Equations of readings

What the result of a reading and its intake behind it are, for each way of putting readings
together. With these equations a reading is opened step by step, and no proof looks inside the
monad. That a reading succeeds is told by the same steps (`Reads.Yields`).
-/

namespace Automation

namespace Reads

variable {α β : Type}

/-- The outcome of a reading that goes on from an intake, and the intake behind it. -/
def proceed (r : Reads α) (s : Intake) : Outcome α × Intake := r.run s

/-- A reading from the start is one that goes on from nothing. -/
theorem start_eq_proceed (r : Reads α) :
    start r = ((proceed r {}).1, (proceed r {}).2.notices) := rfl

@[simp] theorem proceed_pure (a : α) (s : Intake) : proceed (pure a) s = (.ok a, s) := rfl

@[simp] theorem proceed_lift (o : Outcome α) (s : Intake) : proceed (lift o) s = (o, s) := rfl

@[simp] theorem proceed_throw (failure : Failure) (s : Intake) :
    proceed (throw failure : Reads α) s = (.error failure, s) := rfl

@[simp] theorem proceed_get (s : Intake) : proceed get s = (.ok s, s) := rfl

@[simp] theorem proceed_set (t s : Intake) : proceed (set t) s = (.ok ⟨⟩, t) := rfl

@[simp] theorem proceed_modify (f : Intake → Intake) (s : Intake) :
    proceed (modify f) s = (.ok (), f s) := rfl

/-- A reading goes on from the intake that its first part leaves, unless that fails. -/
theorem proceed_bind (r : Reads α) (f : α → Reads β) (s : Intake) :
    proceed (r >>= f) s = match proceed r s with
      | (.ok a, s') => proceed (f a) s'
      | (.error e, s') => (.error e, s') := by
  show (ExceptT.bind r f).run s = _
  unfold ExceptT.bind ExceptT.bindCont proceed
  simp only [ExceptT.run, ExceptT.mk, bind, StateT.bind, Id]
  rcases r s with ⟨_ | _, _⟩ <;> rfl

/-- A first part that succeeds hands over its value and its intake. -/
theorem proceed_bind_of_ok {r : Reads α} {f : α → Reads β} {s s' : Intake} {a : α}
    (h : proceed r s = (.ok a, s')) : proceed (r >>= f) s = proceed (f a) s' := by
  rw [proceed_bind, h]

/-- A reading that succeeds has succeeded in its first part. -/
theorem proceed_bind_eq_ok {r : Reads α} {f : α → Reads β} {s s' : Intake} {b : β}
    (h : proceed (r >>= f) s = (.ok b, s')) :
    ∃ a t, proceed r s = (.ok a, t) ∧ proceed (f a) t = (.ok b, s') := by
  rw [proceed_bind] at h
  rcases hr : proceed r s with ⟨_ | a, t⟩
  · rw [hr] at h
    cases h
  · rw [hr] at h
    exact ⟨a, t, rfl, h⟩

/-- A reading goes on from a computation that succeeds, with the same intake. -/
theorem proceed_lift_bind_eq_ok {o : Outcome α} {f : α → Reads β} {s s' : Intake} {b : β}
    (h : proceed (lift o >>= f) s = (.ok b, s')) :
    ∃ a, o = .ok a ∧ proceed (f a) s = (.ok b, s') := by
  obtain ⟨a, t, ho, h⟩ := proceed_bind_eq_ok h
  cases ho
  exact ⟨a, rfl, h⟩

@[simp] theorem proceed_ite (p : Prop) [Decidable p] (r t : Reads α) (s : Intake) :
    proceed (if p then r else t) s = if p then proceed r s else proceed t s := by
  split <;> rfl

/-- Notices that can be written are kept. -/
theorem proceed_note {notices : List Notice} (h : Notice.check notices = .ok ()) (s : Intake) :
    proceed (note notices) s = (.ok (), { s with notices := s.notices ++ notices }) := by
  have hcheck : proceed (lift (Notice.check notices)) s = (.ok (), s) := by rw [proceed_lift, h]
  unfold note
  rw [proceed_bind_of_ok hcheck]
  rfl

/-- Without notices nothing changes. -/
@[simp] theorem proceed_note_nil (s : Intake) : proceed (note []) s = (.ok (), s) := by
  rw [proceed_note rfl, List.append_nil]

/-- Keeping notices creates no nodes. -/
theorem of_proceed_note_eq_ok {notices : List Notice} {s s' : Intake} {u : Unit}
    (h : proceed (note notices) s = (.ok u, s')) :
    s' = { s with notices := s.notices ++ notices } := by
  obtain ⟨_, t, hcheck, h⟩ := proceed_bind_eq_ok h
  rw [proceed_lift] at hcheck
  obtain ⟨-, rfl⟩ := Prod.mk.inj hcheck
  cases h
  rfl

/-! ## Readings that succeed -/

/-- A reading succeeds from an intake, with a result and an intake behind it as they should be. -/
def Yields (r : Reads α) (s : Intake) (post : α → Intake → Prop) : Prop :=
  ∃ a s', proceed r s = (.ok a, s') ∧ post a s'

namespace Yields

variable {r : Reads α} {s : Intake} {post : α → Intake → Prop}

theorem pure {a : α} (h : post a s) : Yields (pure a : Reads α) s post := ⟨a, s, rfl, h⟩

/-- Readers yield one behind the other. -/
theorem bind {f : α → Reads β} {post' : β → Intake → Prop} (h : Yields r s post)
    (hf : ∀ a s', post a s' → Yields (f a) s' post') : Yields (r >>= f) s post' := by
  obtain ⟨a, t, hr, ha⟩ := h
  obtain ⟨b, s', hb, hpost⟩ := hf a t ha
  exact ⟨b, s', by rw [proceed_bind_of_ok hr, hb], hpost⟩

/-- What a reader yields fulfils less as well. -/
theorem mono {post' : α → Intake → Prop} (h : Yields r s post)
    (hpost : ∀ a s', post a s' → post' a s') : Yields r s post' := by
  obtain ⟨a, s', hr, ha⟩ := h
  exact ⟨a, s', hr, hpost a s' ha⟩

theorem lift {o : Outcome α} {a : α} (ho : o = .ok a) (h : post a s) : Yields (lift o) s post :=
  ⟨a, s, by rw [proceed_lift, ho], h⟩

/-- Notices that can be written create no nodes. -/
theorem note {notices : List Notice} (h : Notice.check notices = .ok ()) :
    Yields (note notices) s fun _ s' => s'.created = s.created :=
  ⟨(), _, proceed_note h s, rfl⟩

end Yields

end Reads

end Automation
