import Automation.Failure
import Mathlib.Data.List.Forall2

/-!
# Outcomes put together

When a computation of several parts succeeds: in a row (`bind_eq_ok`), over a list
(`mapM_eq_ok_of_forall`), and as a filter (`filterM_eq_ok_of_forall`). Two computations match when
they end alike, and match when their parts do (`Matches.bind`).
-/

namespace Automation

namespace Outcome

variable {α β : Type}

/-- A computation succeeds when its parts do. -/
theorem bind_eq_ok {o : Outcome α} {f : α → Outcome β} {b : β} :
    (o >>= f) = .ok b ↔ ∃ a, o = .ok a ∧ f a = .ok b := by
  cases o with
  | error failure =>
    refine ⟨fun h => ?_, ?_⟩
    · cases h
    · rintro ⟨a, h, -⟩
      cases h
  | ok a =>
    refine ⟨fun h => ⟨a, rfl, h⟩, ?_⟩
    rintro ⟨b, h, hb⟩
    cases h
    exact hb

@[simp] theorem ok_bind (a : α) (f : α → Outcome β) : (Except.ok a >>= f) = f a := rfl

/-- Nothing is a fault, and something is no fault. -/
theorem orFault_eq_ok {o : Option α} {f : Fault} {a : α} : orFault o f = .ok a ↔ o = some a := by
  cases o with
  | none => simp [orFault, fault]
  | some b => simp [orFault]

theorem toOption_eq_some {o : Outcome α} {a : α} : o.toOption = some a ↔ o = .ok a := by
  cases o <;> simp [Except.toOption]

theorem isSome_toOption {o : Outcome α} : o.toOption.isSome = true ↔ ∃ a, o = .ok a := by
  simp only [Option.isSome_iff_exists, toOption_eq_some]

/-- A list of computations that all succeed. -/
theorem mapM_eq_ok_of_forall {f : α → Outcome β} {g : α → β} {xs : List α}
    (h : ∀ x ∈ xs, f x = .ok (g x)) : xs.mapM f = .ok (xs.map g) := by
  induction xs with
  | nil => rfl
  | cons x xs ih =>
    rw [List.mapM_cons, h x List.mem_cons_self, ih fun y hy => h y (List.mem_cons_of_mem _ hy)]
    rfl

/-- All of some values have an outcome when each of them has. -/
theorem exists_mapM_eq_ok {f : α → Outcome β} {xs : List α} (h : ∀ x ∈ xs, ∃ y, f x = .ok y) :
    ∃ ys, xs.mapM f = .ok ys := by
  induction xs with
  | nil => exact ⟨[], rfl⟩
  | cons x xs ih =>
    obtain ⟨y, hy⟩ := h x List.mem_cons_self
    obtain ⟨ys, hys⟩ := ih fun x' hx' => h x' (List.mem_cons_of_mem _ hx')
    exact ⟨y :: ys, by rw [List.mapM_cons, hy, hys]; rfl⟩

/-- A list of computations succeeds when each of them does. -/
theorem mapM_eq_ok_iff {f : α → Outcome β} {xs : List α} {ys : List β} :
    xs.mapM f = .ok ys ↔ List.Forall₂ (fun x y => f x = .ok y) xs ys := by
  constructor
  · intro h
    induction xs generalizing ys with
    | nil =>
      cases h
      exact .nil
    | cons x xs ih =>
      rw [List.mapM_cons] at h
      obtain ⟨y, hy, h⟩ := bind_eq_ok.1 h
      obtain ⟨ys, hys, h⟩ := bind_eq_ok.1 h
      cases h
      exact .cons hy (ih hys)
  · intro h
    induction h with
    | nil => rfl
    | cons hy _ ih =>
      rw [List.mapM_cons, hy, ih]
      rfl

/-- What came out of some values came out of one of them. -/
theorem exists_of_mem_mapM {f : α → Outcome β} {xs : List α} {ys : List β}
    (h : xs.mapM f = .ok ys) {y : β} (hy : y ∈ ys) : ∃ x ∈ xs, f x = .ok y := by
  induction xs generalizing ys with
  | nil =>
    cases h
    cases hy
  | cons x xs ih =>
    rw [List.mapM_cons] at h
    obtain ⟨z, hz, h⟩ := bind_eq_ok.1 h
    obtain ⟨zs, hzs, h⟩ := bind_eq_ok.1 h
    cases h
    rcases List.mem_cons.1 hy with rfl | hy
    · exact ⟨x, List.mem_cons_self, hz⟩
    · obtain ⟨w, hw, hfw⟩ := ih hzs hy
      exact ⟨w, List.mem_cons_of_mem _ hw, hfw⟩

/-- A fold keeps what each of its steps keeps. -/
theorem foldlM_induction {f : β → α → Outcome β} {P : β → Prop} {xs : List α} {b b' : β}
    (hstep : ∀ b x, x ∈ xs → P b → ∀ b', f b x = .ok b' → P b') (hb : P b)
    (h : xs.foldlM f b = .ok b') : P b' := by
  induction xs generalizing b with
  | nil =>
    cases h
    exact hb
  | cons x xs ih =>
    rw [List.foldlM_cons] at h
    obtain ⟨c, hc, h⟩ := bind_eq_ok.1 h
    exact ih (fun b x hx => hstep b x (List.mem_cons_of_mem _ hx))
      (hstep b x List.mem_cons_self hb c hc) h

/-- A fold whose steps all succeed. -/
theorem exists_foldlM_eq_ok {f : β → α → Outcome β} {xs : List α} (b : β)
    (h : ∀ b, ∀ x ∈ xs, ∃ b', f b x = .ok b') : ∃ b', xs.foldlM f b = .ok b' := by
  induction xs generalizing b with
  | nil => exact ⟨b, rfl⟩
  | cons x xs ih =>
    obtain ⟨c, hc⟩ := h b x List.mem_cons_self
    obtain ⟨b', hb'⟩ := ih c fun b y hy => h b y (List.mem_cons_of_mem _ hy)
    exact ⟨b', by rw [List.foldlM_cons, hc]; exact hb'⟩

/-- A filter whose tests all succeed. -/
theorem filterM_eq_ok_of_forall {f : α → Outcome Bool} {p : α → Bool} {xs : List α}
    (h : ∀ x ∈ xs, f x = .ok (p x)) : xs.filterM f = .ok (xs.filter p) := by
  have haux (kept : List α) : xs.filterAuxM f kept = .ok ((xs.filter p).reverse ++ kept) := by
    induction xs generalizing kept with
    | nil => rfl
    | cons x xs ih =>
      rw [List.filterAuxM, h x List.mem_cons_self]
      show xs.filterAuxM f (cond (p x) (x :: kept) kept) = _
      rw [ih fun y hy => h y (List.mem_cons_of_mem _ hy)]
      cases hx : p x <;> simp [hx]
  unfold List.filterM
  rw [haux]
  simp [pure, bind, Except.pure, Except.bind]

/-- What is kept was there, or had been kept before. -/
theorem mem_of_filterAuxM_eq_ok {f : α → Outcome Bool} {xs kept ys : List α}
    (h : xs.filterAuxM f kept = .ok ys) : ∀ y ∈ ys, y ∈ xs ∨ y ∈ kept := by
  induction xs generalizing kept with
  | nil =>
    cases h
    exact fun y hy => .inr hy
  | cons x xs ih =>
    rw [List.filterAuxM] at h
    obtain ⟨keep, -, h⟩ := bind_eq_ok.1 h
    intro y hy
    rcases ih h y hy with hy | hy
    · exact .inl (List.mem_cons_of_mem _ hy)
    · cases keep with
      | false => exact .inr hy
      | true =>
        rcases List.mem_cons.1 hy with rfl | hy
        · exact .inl List.mem_cons_self
        · exact .inr hy

/-- A filter keeps only what it is given. -/
theorem mem_of_filterM_eq_ok {f : α → Outcome Bool} {xs ys : List α} (h : xs.filterM f = .ok ys) :
    ∀ y ∈ ys, y ∈ xs := by
  unfold List.filterM at h
  obtain ⟨kept, hkept, h⟩ := bind_eq_ok.1 h
  cases h
  intro y hy
  simpa using mem_of_filterAuxM_eq_ok hkept y (List.mem_reverse.1 hy)

/-! ## Computations that end alike -/

/-- Two computations that end alike: both fail for one reason, or both give a value and the values
are related. -/
inductive Matches (Q : α → β → Prop) : Outcome α → Outcome β → Prop where
  | ok {a : α} {b : β} (h : Q a b) : Matches Q (.ok a) (.ok b)
  | error (failure : Failure) : Matches Q (.error failure) (.error failure)

namespace Matches

variable {γ δ : Type} {Q : α → β → Prop} {P : γ → δ → Prop} {o : Outcome α} {o' : Outcome β}

/-- Computations match when they begin alike and go on alike. -/
theorem bind (h : Matches Q o o') {f : α → Outcome γ} {f' : β → Outcome δ}
    (hf : ∀ a b, Q a b → Matches P (f a) (f' b)) : Matches P (o >>= f) (o' >>= f') := by
  cases h with
  | ok hab => exact hf _ _ hab
  | error failure => exact .error failure

/-- Computations that end alike end the same when what comes behind them is the same. -/
theorem bind_eq (h : Matches Q o o') {f : α → Outcome γ} {f' : β → Outcome γ}
    (hf : ∀ a b, Q a b → f' b = f a) : (o' >>= f') = (o >>= f) := by
  cases h with
  | ok hab => exact hf _ _ hab
  | error failure => rfl

/-- Computations match over lists that match. -/
theorem mapM {f : α → Outcome γ} {f' : β → Outcome δ} {xs : List α} {ys : List β}
    (h : List.Forall₂ Q xs ys) (hf : ∀ a b, Q a b → Matches P (f a) (f' b)) :
    Matches (List.Forall₂ P) (xs.mapM f) (ys.mapM f') := by
  induction h with
  | nil => exact .ok .nil
  | cons hxy _ ih =>
    rw [List.mapM_cons, List.mapM_cons]
    exact (hf _ _ hxy).bind fun _ _ hfirst => ih.bind fun _ _ hrest => .ok (.cons hfirst hrest)

/-- A computation matches itself. -/
theorem refl {Q : α → α → Prop} (hQ : ∀ a, Q a a) (o : Outcome α) : Matches Q o o := by
  cases o with
  | ok a => exact .ok (hQ a)
  | error failure => exact .error failure

/-- A computation matches itself with its value changed. -/
theorem of_map (o : Outcome α) (f : α → β) : Matches (fun a b => b = f a) o (o.map f) := by
  cases o with
  | ok a => exact .ok rfl
  | error failure => exact .error failure

/-- What one of two computations gives has a counterpart. -/
theorem exists_of_left (h : Matches Q o o') {a : α} (ha : o = .ok a) : ∃ b, o' = .ok b ∧ Q a b := by
  cases h with
  | ok hab =>
    cases ha
    exact ⟨_, rfl, hab⟩
  | error => cases ha

/-- What came out on the right came out on the left. -/
theorem exists_of_right (h : Matches Q o o') {b : β} (hb : o' = .ok b) : ∃ a, o = .ok a ∧ Q a b := by
  cases h with
  | ok hab =>
    cases hb
    exact ⟨_, rfl, hab⟩
  | error => cases hb

end Matches

/-- An outcome that is a good value or a refusal: no fault. -/
inductive Answers (good : α → Prop) : Outcome α → Prop where
  | ok {a : α} (h : good a) : Answers good (.ok a)
  | refused (r : Refusal) : Answers good (.error (.refused r))

namespace Answers

variable {good : α → Prop} {good' : β → Prop} {o : Outcome α}

/-- A refusal is told when the values that it quotes can be written. -/
theorem refuse {r : Refusal} (h : ∀ v ∈ r.values, v.hasText = true) :
    Answers good (Outcome.refuse r) := by
  have hfailure : r.failure = .refused r := if_pos (List.all_eq_true.2 h)
  rw [Outcome.refuse, hfailure]
  exact .refused r

theorem malformed {cause : StructuralCause} (h : ∀ v ∈ cause.values, v.hasText = true) :
    Answers good (Outcome.malformed cause) := refuse h

theorem tooLarge (cause : SizeCause) : Answers good (Outcome.tooLarge cause) := .refused _

/-- What answers, and then answers whatever came out, answers. -/
theorem bind {f : α → Outcome β} (h : Answers good o) (hf : ∀ a, good a → Answers good' (f a)) :
    Answers good' (o >>= f) := by
  cases h with
  | ok ha => exact hf _ ha
  | refused r => exact .refused r

/-- What is good is good enough. -/
theorem mono {better : α → Prop} (h : Answers good o) (hgood : ∀ a, good a → better a) :
    Answers better o := by
  cases h with
  | ok ha => exact .ok (hgood _ ha)
  | refused r => exact .refused r

/-- An outcome has the value that it has. -/
theorem self (h : Answers good o) : Answers (fun a => o = .ok a) o := by
  cases h with
  | ok _ => exact .ok rfl
  | refused r => exact .refused r

/-- What is made of the value of an outcome does not matter to whether it is a fault. -/
theorem of_map {f : α → β} (h : Answers good' (o.map f)) : Answers (fun a => good' (f a)) o := by
  cases o with
  | ok a =>
    cases h with
    | ok ha => exact .ok ha
  | error failure =>
    cases h with
    | refused r => exact .refused r

/-- Each of some values is answered in turn. -/
theorem mapM {f : β → Outcome α} {xs : List β} (h : ∀ x ∈ xs, Answers good (f x)) :
    Answers (fun as : List α => ∀ a ∈ as, good a) (xs.mapM f) := by
  induction xs with
  | nil => exact .ok (List.forall_mem_nil _)
  | cons x xs ih =>
    obtain ⟨hx, hxs⟩ := List.forall_mem_cons.1 h
    rw [List.mapM_cons]
    exact hx.bind fun a ha => (ih hxs).bind fun as has => .ok (List.forall_mem_cons.2 ⟨ha, has⟩)

end Answers

end Outcome

end Automation
