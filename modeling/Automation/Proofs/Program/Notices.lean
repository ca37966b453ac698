import Automation.Proofs.Program.Reads

/-!
# Notices do not steer a reading

What a reading makes of the sections of a document does not depend on what there was to say before
them: with more notices in front it gives the same program and keeps those notices in front of its
own (`Program.keeps_read`). Only the nodes created so far matter.
-/

namespace Automation

namespace Reads

variable {α β : Type}

/-- A reading that keeps the notices before it and does not look at them. -/
def Keeps (r : Reads α) : Prop :=
  ∀ (before : List Notice) (s : Intake),
    proceed r { s with notices := before ++ s.notices }
      = ((proceed r s).1, { (proceed r s).2 with notices := before ++ (proceed r s).2.notices })

namespace Keeps

variable {r : Reads α}

theorem pure (a : α) : Keeps (pure a : Reads α) := fun _ _ => rfl

theorem lift (o : Outcome α) : Keeps (lift o) := fun _ _ => rfl

/-- Two steps that keep notices keep them one behind the other. -/
theorem bind {f : α → Reads β} (h : Keeps r) (hf : ∀ a, Keeps (f a)) : Keeps (r >>= f) := by
  intro before s
  rw [proceed_bind, proceed_bind, h before s]
  rcases proceed r s with ⟨_ | a, t⟩
  · rfl
  · exact hf a before t

/-- A reading may look at the nodes created so far. -/
theorem created {f : Intake → Reads β} (hf : ∀ s, Keeps (f s))
    (hcongr : ∀ s s' : Intake, s.created = s'.created → f s = f s') : Keeps (get >>= f) := by
  intro before s
  show proceed (f { s with notices := before ++ s.notices }) _ = _
  rw [hcongr { s with notices := before ++ s.notices } s rfl]
  exact hf s before s

theorem note (notices : List Notice) : Keeps (note notices) := by
  refine bind (lift _) fun _ before s => ?_
  rw [proceed_modify, proceed_modify, List.append_assoc]

/-- Reading each of some values keeps notices when reading one does. -/
theorem mapM {f : β → Reads α} (hf : ∀ x, Keeps (f x)) (xs : List β) : Keeps (xs.mapM f) := by
  induction xs with
  | nil => exact pure []
  | cons x xs ih =>
    rw [List.mapM_cons]
    exact bind (hf x) fun a => bind ih fun as => pure (a :: as)

end Keeps

end Reads

namespace Program

open Reads

variable {limits : Limits}

/-- Creating a node gives no notice. -/
theorem keeps_create (limits : Limits) (kind : NodeKind) (data : Entries) (label : Value)
    (flags : Entries) : Keeps (create limits kind data label flags) := by
  intro before s
  unfold create
  simp only [proceed_bind, proceed_get, proceed_ite]
  split <;> rfl

/-- A budget is kept or the reading fails: there is no notice about it. -/
theorem keeps_checkBudget (limits : Limits) (began options : Nat) (place : Place) :
    Keeps (checkBudget limits began options place) := by
  refine .created (fun s => ?_) fun s s' h => by rw [h]
  dsimp only
  split
  · exact .lift _
  · exact .pure _

section Blocks

variable (limits : Limits) {inner : Inner} (hinner : ∀ v place, Keeps (inner v place)) (es : Entries) (place : Place)

include hinner

theorem keeps_readIf : Keeps (readIf limits inner es place) :=
  .bind (.note _) fun _ => .bind (.lift _) fun data =>
    .bind (keeps_create limits _ data _ _) fun _ =>
      .bind (hinner _ _) fun _ => .bind (hinner _ _) fun _ => .pure _

theorem keeps_readOption (flags : Entries) (option : Value) :
    Keeps (readOption limits inner flags option place) := by
  unfold readOption
  split
  · split
    · exact .bind (.lift _) fun _ => .bind (.lift _) fun data =>
        .bind (keeps_create limits _ data _ _) fun _ => .bind (hinner _ _) fun _ => .pure _
    · exact .bind (.lift _) fun data =>
        .bind (keeps_create limits _ data _ _) fun _ => .bind (hinner _ _) fun _ => .pure _
  · exact .lift _

theorem keeps_readChoose : Keeps (readChoose limits inner es place) := by
  refine .bind (.note _) fun _ => .created (fun began => ?_) fun s s' h => by rw [h]
  refine .bind (.mapM (fun option => ?_) _) fun _ => ?_
  · exact .bind (keeps_readOption limits hinner _ _ _) fun _ =>
      .bind (keeps_checkBudget limits _ _ _) fun _ => .pure _
  · exact .bind (hinner _ _) fun _ => .bind (keeps_checkBudget limits _ _ _) fun _ => .pure _

end Blocks

/-- An entry is read as it is, whatever there was to say before it. -/
theorem keeps_readEntry {inner? : Option Inner}
    (hinner : ∀ inner ∈ inner?, ∀ v place, Keeps (inner v place)) (entry : Value) (place : Place) :
    Keeps (readEntry limits inner? entry place) := by
  -- a block that stands too deep is refused, and nothing is kept
  have hbranching {read : Inner → Reads Block}
      (hread : ∀ inner, (∀ v place, Keeps (inner v place)) → Keeps (read inner)) :
      Keeps (inner?.elim (lift (Outcome.tooLarge (.blockDepth place limits.maxNesting))) read) := by
    cases inner? with
    | none => exact .lift _
    | some inner => exact hread inner (hinner inner rfl)
  unfold readEntry
  split
  · rename_i es _
    have hif := hbranching fun inner h => keeps_readIf limits h es place
    have hchoose := hbranching fun inner h => keeps_readChoose limits h es place
    dsimp only
    split
    · cases inner? <;> exact hif
    · cases inner? <;> exact hchoose
    · exact .bind (.lift _) fun data => .bind (keeps_create limits _ data _ _) fun _ => .pure _
    · exact .bind (.lift _) fun _ => .bind (.note _) fun _ =>
        .bind (keeps_create limits _ _ _ _) fun _ => .pure _
  · exact .lift _

/-- Reading a list keeps the notices before it. Induction on the levels that may still be
entered. -/
theorem keeps_readList (levels : Nat) (entries : Value) (place : Place) :
    Keeps (readList limits levels entries place) := by
  induction levels generalizing entries place with
  | zero => exact .mapM (fun _ => keeps_readEntry (by simp) _ _) _
  | succ levels ih =>
    refine .mapM (fun _ => keeps_readEntry (fun inner hinner => ?_) _ _) _
    cases hinner
    exact ih

/-- The sections of a document are read alike, whatever there was to say before them. -/
theorem keeps_read (limits : Limits) (triggers : List Entries) (conditions : List Value)
    (actions : List Entries) : Keeps (read limits triggers conditions actions) :=
  .bind (.mapM (fun data => keeps_create limits _ data _ _) _) fun _ =>
    .bind (.mapM (fun _ => .bind (.lift _) fun data => keeps_create limits _ data _ _) _) fun _ =>
      .bind (keeps_readList _ _ _) fun _ => .pure _

end Program

end Automation
