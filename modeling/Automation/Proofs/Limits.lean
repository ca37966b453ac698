import Automation.Proofs.Outcome
import Automation.Proofs.Program.Reads

/-!
# Results that hinge on limits

A computation that is known to have a result may still be refused as too large. What decides is
stated as a proposition beside the result: the computation gives the result when the proposition
holds and is refused otherwise, and it ends in no other way (`Outcome.HingesOn`, `Reads.HingesOn`).
Such propositions are put together as the computations are: one after the other, both have to hold.
-/

namespace Automation

variable {α β : Type}

namespace Outcome

/-- A computation gives a result when a proposition holds, and is refused as too large otherwise. -/
structure HingesOn (o : Outcome α) (P : Prop) (a : α) : Prop where
  accepts : P → o = .ok a
  refuses : ¬P → ∃ cause, o = .error (.refused (.tooLarge cause))

namespace HingesOn

variable {o : Outcome α} {P Q : Prop} {a : α}

theorem ok (h : o = .ok a) : HingesOn o True a := ⟨fun _ => h, fun hn => absurd trivial hn⟩

theorem tooLarge (cause : SizeCause) : HingesOn (Outcome.tooLarge cause) False a :=
  ⟨False.elim, fun _ => ⟨cause, rfl⟩⟩

/-- The proposition may be put in other words. -/
theorem congr (h : HingesOn o P a) (hPQ : P ↔ Q) : HingesOn o Q a :=
  ⟨fun hQ => h.accepts (hPQ.2 hQ), fun hQ => h.refuses fun hP => hQ (hPQ.1 hP)⟩

/-- What comes behind a computation needs to be known only for when that has its result. -/
theorem bind {f : α → Outcome β} {b : β} (h : HingesOn o P a) (hf : P → HingesOn (f a) Q b) :
    HingesOn (o >>= f) (P ∧ Q) b where
  accepts hPQ := by
    rw [h.accepts hPQ.1]
    exact (hf hPQ.1).accepts hPQ.2
  refuses hPQ := by
    by_cases hP : P
    · rw [h.accepts hP]
      exact (hf hP).refuses fun hQ => hPQ ⟨hP, hQ⟩
    · obtain ⟨cause, ho⟩ := h.refuses hP
      exact ⟨cause, by rw [ho]; rfl⟩

/-- A computation that has a result was not refused. -/
theorem holds (h : HingesOn o P a) {b : α} (ho : o = .ok b) : P := by
  by_contra hP
  obtain ⟨cause, hrefused⟩ := h.refuses hP
  rw [ho] at hrefused
  cases hrefused

/-- A refusal says that the proposition fails. -/
theorem refused_iff (h : HingesOn o P a) :
    (∃ cause, o = .error (.refused (.tooLarge cause))) ↔ ¬P := by
  refine ⟨?_, h.refuses⟩
  rintro ⟨cause, ho⟩ hP
  rw [h.accepts hP] at ho
  cases ho

end HingesOn

end Outcome

namespace Reads

/-- A reading from an intake gives a result and an intake behind it when a proposition holds, and is
refused as too large otherwise. -/
structure HingesOn (r : Reads α) (s : Intake) (P : Prop) (a : α) (s' : Intake) : Prop where
  accepts : P → proceed r s = (.ok a, s')
  refuses : ¬P → ∃ cause, (proceed r s).1 = .error (.refused (.tooLarge cause))

namespace HingesOn

variable {r : Reads α} {s s' t : Intake} {P Q : Prop} {a : α}

theorem ok (h : proceed r s = (.ok a, s')) : HingesOn r s True a s' :=
  ⟨fun _ => h, fun hn => absurd trivial hn⟩

/-- To hinge on one thing is to hinge on any that comes to the same. -/
theorem congr (h : HingesOn r s P a s') (hPQ : P ↔ Q) : HingesOn r s Q a s' :=
  ⟨fun hQ => h.accepts (hPQ.2 hQ), fun hQ => h.refuses fun hP => hQ (hPQ.1 hP)⟩

/-- The outcome of a reading hinges on what the reading does. -/
theorem outcome (h : HingesOn r s P a s') : Outcome.HingesOn (proceed r s).1 P a where
  accepts hP := by rw [h.accepts hP]
  refuses := h.refuses

theorem lift {o : Outcome α} (h : o.HingesOn P a) (s : Intake) : HingesOn (lift o) s P a s where
  accepts hP := by rw [proceed_lift, h.accepts hP]
  refuses hP := by
    obtain ⟨cause, ho⟩ := h.refuses hP
    exact ⟨cause, by rw [proceed_lift, ho]⟩

/-- Two readings in a row hinge on what both hinge on. -/
theorem bind {f : α → Reads β} {b : β} (h : HingesOn r s P a t)
    (hf : P → HingesOn (f a) t Q b s') : HingesOn (r >>= f) s (P ∧ Q) b s' where
  accepts hPQ := by
    rw [proceed_bind_of_ok (h.accepts hPQ.1)]
    exact (hf hPQ.1).accepts hPQ.2
  refuses hPQ := by
    by_cases hP : P
    · rw [proceed_bind_of_ok (h.accepts hP)]
      exact (hf hP).refuses fun hQ => hPQ ⟨hP, hQ⟩
    · obtain ⟨cause, hr⟩ := h.refuses hP
      refine ⟨cause, ?_⟩
      rw [proceed_bind]
      -- a refusal of the first part is one of the whole, of another type
      rcases hproceed : proceed r s with ⟨failure | _, _⟩
      · rw [hproceed] at hr
        cases hr
        rfl
      · rw [hproceed] at hr
        cases hr

/-- What is made of a reading hinges on what the reading hinges on. -/
theorem map (k : α → β) (h : HingesOn r s P a s') : HingesOn (do return k (← r)) s P (k a) s' :=
  (h.bind fun _ => ok rfl).congr (iff_of_eq (and_true P))

/-- A reading that is refused in one case. -/
theorem ite {p : Prop} [Decidable p] {cause : SizeCause}
    (h : proceed r s = if p then (Outcome.tooLarge cause, t) else (.ok a, s')) :
    HingesOn r s (¬p) a s' where
  accepts hp := by rw [h, if_neg hp]
  refuses hp := ⟨cause, by rw [h, if_pos (not_not.1 hp)]; rfl⟩

/-- A first part that has a result decides nothing. -/
theorem after {f : α → Reads β} {b : β} (h : proceed r s = (.ok a, t))
    (hf : HingesOn (f a) t Q b s') : HingesOn (r >>= f) s Q b s' :=
  ((ok h).bind fun _ => hf).congr ⟨And.right, fun hQ => ⟨trivial, hQ⟩⟩

end HingesOn

end Reads

end Automation
