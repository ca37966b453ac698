import Automation.Proofs.Condition
import Automation.Proofs.Limits

/-!
# The canonical form of conditions

A condition may be written in four ways, and a reader brings it into one (`Condition.Form`): a
mapping with a kind, and for a group the list of its parts, each in this form again. The form has a
depth, which is how many groups stand around its innermost condition, and a size, which is how many
conditions it is made of.

Both are told from the form alone, and they decide whether a condition is read at all: it is read
under all limits that allow for them and refused under all others (`Condition.hinges_normalize`).
The form of a condition has the depth and the size that the condition was read with, so it is read
as itself (`Condition.exists_form_of_normalize`).
-/

namespace Automation

namespace Condition

open Entries Outcome

mutual
/-- A mapping in canonical form, with its depth and its size. -/
inductive Form : Entries → Nat → Nat → Prop where
  | single {es : Entries} {kind : String} (hkind : es.get? "condition" = some (.str kind))
    (hplain : hasTemplate kind.toList = false) (hsingle : groupKinds.contains kind = false) :
    Form es 0 1
  | group {es : Entries} {kind : String} {parts : List Value} {depth size : Nat}
    (hkind : es.get? "condition" = some (.str kind)) (hgroup : groupKinds.contains kind = true)
    (hparts : es.get? "conditions" = some (.ofItems parts)) (hforms : Forms parts depth size) :
    Form es depth (size + 1)

/-- The parts of a group, each in canonical form, with the depth that they give to the group and
their size. -/
inductive Forms : List Value → Nat → Nat → Prop where
  | nil : Forms [] 0 0
  | cons {es : Entries} {rest : List Value} {depth size below others : Nat}
    (hfirst : Form es depth size) (hrest : Forms rest below others) :
    Forms (.ofEntries es :: rest) (max (depth + 1) below) (size + others)
end

section Inversion

variable {es : Entries} {kind : String} {parts : List Value} {depth size : Nat}

/-- The form of a condition that is no group. -/
theorem Form.of_single (h : Form es depth size) (hkind : es.get? "condition" = some (.str kind))
    (hsingle : groupKinds.contains kind = false) : depth = 0 ∧ size = 1 := by
  cases h with
  | single => exact ⟨rfl, rfl⟩
  | group hkind' hgroup =>
    cases hkind.symm.trans hkind'
    cases hsingle.symm.trans hgroup

/-- The form of a group is told from those of its parts. -/
theorem Form.of_group (h : Form es depth size) (hkind : es.get? "condition" = some (.str kind))
    (hgroup : groupKinds.contains kind = true)
    (hparts : es.get? "conditions" = some (.ofItems parts)) :
    ∃ inner, size = inner + 1 ∧ Forms parts depth inner := by
  cases h with
  | single hkind' _ hsingle =>
    cases hkind.symm.trans hkind'
    cases hsingle.symm.trans hgroup
  | group _ _ hparts' hforms =>
    cases hparts.symm.trans hparts'
    exact ⟨_, rfl, hforms⟩

end Inversion

/-- A form has one depth and one size. -/
theorem Form.unique {es : Entries} {depth size depth' size' : Nat} (h : Form es depth size)
    (h' : Form es depth' size') : depth' = depth ∧ size' = size := by
  -- for the parts of a group the same is said of their list
  refine @Form.rec
    (fun es depth size _ => ∀ depth' size',
      Form es depth' size' → depth' = depth ∧ size' = size)
    (fun parts depth size _ => ∀ depth' size',
      Forms parts depth' size' → depth' = depth ∧ size' = size)
    ?single ?group ?nil ?cons es depth size h depth' size' h'
  case single =>
    intro es kind hkind _ hsingle depth' size' h'
    exact h'.of_single hkind hsingle
  case group =>
    intro es kind parts depth size hkind hgroup hparts _ ih depth' size' h'
    obtain ⟨inner, rfl, hforms⟩ := h'.of_group hkind hgroup hparts
    obtain ⟨hdepth, hsize⟩ := ih _ _ hforms
    exact ⟨hdepth, by rw [hsize]⟩
  case nil =>
    intro depth' size' h'
    cases h'
    exact ⟨rfl, rfl⟩
  case cons =>
    intro es rest depth size below others _ _ ihFirst ihRest depth' size' h'
    cases h' with
    | cons hfirst hrest =>
      obtain ⟨hdepth, hsize⟩ := ihFirst _ _ hfirst
      obtain ⟨hbelow, hothers⟩ := ihRest _ _ hrest
      exact ⟨by rw [hdepth, hbelow], by rw [hsize, hothers]⟩

/-! ## What a reading counts -/

theorem get?_toEntries_kind (kind : String) (options : Entries) (parts : List Condition) :
    (toEntries (mk kind options parts)).get? "condition" = some (.str kind) := by
  rw [toEntries, List.cons_append, get?_cons_str, if_pos rfl]

theorem get?_toEntries_parts {kind : String} {options : Entries} (parts : List Condition)
    (hgroup : groupKinds.contains kind = true) (hoptions : options.has "conditions" = false) :
    (toEntries (mk kind options parts)).get? "conditions" = some (.ofItems (toValues parts)) := by
  rw [toEntries, if_pos hgroup, List.cons_append, get?_cons_str, if_neg (by decide), get?_append,
    get?_eq_none_iff.2 hoptions]
  rfl

/-- What was read as a condition has a form of some depth and size, and these decide under which
limits it is read. -/
structure Measured (v : Value) (c : Condition) (depth size : Nat) : Prop where
  form : Form (toEntries c) depth size
  hinges (limits : Limits) (levels count : Nat) : HingesOn ((read limits levels v).run count)
    (depth < levels ∧ ((count + size : Nat) : Int) ≤ limits.maxConditionLeaves) (c, count + size)

/-- No condition is read without a level. -/
theorem hinges_zero {limits : Limits} {v : Value} {count : Nat} {P : Prop}
    {result : Condition × Nat} (hP : ¬P) : HingesOn ((read limits 0 v).run count) P result :=
  (HingesOn.tooLarge _).congr (iff_of_false id hP)

/-- A condition that is counted, if one more is allowed, in front of all else that is read of it. -/
def counted (limits : Limits) (body : StateT Nat Outcome Condition) :
    StateT Nat Outcome Condition := do
  let count ← get
  if limits.maxConditionLeaves ≤ count then
    StateT.lift (Outcome.tooLarge (.conditionLeaves limits.maxConditionLeaves))
  set (count + 1)
  body

theorem of_counted_eq_ok {limits : Limits} {body : StateT Nat Outcome Condition} {count : Nat}
    {result : Condition × Nat} (h : (counted limits body).run count = .ok result) :
    body.run (count + 1) = .ok result := by
  unfold counted at h
  obtain ⟨⟨n, m⟩, hget, h⟩ := run_bind_eq_ok.1 h
  cases hget
  dsimp only at h
  split at h
  · obtain ⟨_, htoo, -⟩ := run_bind_eq_ok.1 h
    cases htoo
  · obtain ⟨_, hset, h⟩ := run_bind_eq_ok.1 h
    cases hset
    exact h

theorem hinges_counted {limits : Limits} {count : Nat} {P Q : Prop} {result : Condition × Nat}
    {body : StateT Nat Outcome Condition}
    (hbody : (count + 1 : Nat) ≤ limits.maxConditionLeaves →
      HingesOn (body.run (count + 1)) Q result)
    (hP : P ↔ (count + 1 : Nat) ≤ limits.maxConditionLeaves ∧ Q) :
    HingesOn ((counted limits body).run count) P result := by
  show HingesOn ((if limits.maxConditionLeaves ≤ count then _ else _ :
    StateT Nat Outcome Condition).run count) P result
  split
  · exact (HingesOn.tooLarge _).congr (iff_of_false id fun h => by have := (hP.1 h).1; omega)
  · have hroom : (count + 1 : Nat) ≤ limits.maxConditionLeaves := by omega
    exact (hbody hroom).congr (hP.trans (and_iff_right hroom)).symm

/-- A condition that is no group is all there is to read. -/
theorem Measured.single {v : Value} {c : Condition} (hform : Form (toEntries c) 0 1)
    (hread : ∀ limits levels, read limits (levels + 1) v = counted limits (pure c)) :
    Measured v c 0 1 where
  form := hform
  hinges limits levels count := by
    cases levels with
    | zero => exact hinges_zero (by omega)
    | succ levels =>
      rw [hread]
      exact hinges_counted (Q := True) (fun _ => HingesOn.ok rfl) (by simp)

/-- Parts of a group that were read one after the other: all of them have to fit into the levels,
and what is counted with all of them has to be allowed. -/
theorem exists_forms {r : Value → StateT Nat Outcome Condition} {vs : List Value} {count : Nat}
    {cs : List Condition × Nat} (h : (vs.mapM r).run count = .ok cs)
    (hr : ∀ v before c after, (r v).run before = .ok (c, after) →
      ∃ depth size, after = before + size ∧ Measured v c depth size) :
    ∃ depth size, cs.2 = count + size ∧ Forms (toValues cs.1) depth size
      ∧ ∀ (limits : Limits) (levels before : Nat), before ≤ limits.maxConditionLeaves →
        HingesOn ((vs.mapM (read limits levels)).run before)
          (depth ≤ levels ∧ ((before + size : Nat) : Int) ≤ limits.maxConditionLeaves)
          (cs.1, before + size) := by
  induction vs generalizing count cs with
  | nil =>
    cases h
    refine ⟨0, 0, rfl, .nil, fun limits levels before hroom => (HingesOn.ok rfl).congr ?_⟩
    exact iff_of_true trivial ⟨Nat.zero_le _, hroom⟩
  | cons v vs ih =>
    rw [List.mapM_cons] at h
    obtain ⟨⟨c, after⟩, hc, h⟩ := run_bind_eq_ok.1 h
    obtain ⟨⟨rest, last⟩, hrest, h⟩ := run_bind_eq_ok.1 h
    cases h
    obtain ⟨depth, size, rfl, hmeasured⟩ := hr v count c after hc
    obtain ⟨below, others, hlast, hforms, hothers⟩ := ih hrest
    refine ⟨max (depth + 1) below, size + others, by omega, .cons hmeasured.form hforms, ?_⟩
    intro limits levels before _
    rw [List.mapM_cons, StateT.run_bind]
    -- what allows for all parts allows for those so far, since the count only grows
    refine ((hmeasured.hinges limits levels before).bind fun hfirst => ?_).congr
      (Q := _ ∧ _) (P := _ ∧ (below ≤ levels
        ∧ ((before + size + others : Nat) : Int) ≤ limits.maxConditionLeaves)) (by omega)
    rw [StateT.run_bind]
    refine ((hothers limits levels (before + size) hfirst.2).bind fun _ => HingesOn.ok ?_).congr
      (by simp)
    rw [← Nat.add_assoc]
    rfl

/-- A group is counted in front of its parts, which have one level less. -/
theorem Measured.group {v : Value} {kind : String} {options : Entries} {parts : List Condition}
    {depth size : Nat}
    (hform : Form (toEntries (.mk kind (options.erase "conditions") parts)) depth (size + 1))
    (hread : ∀ limits levels, read limits (levels + 1) v = counted limits (do
      let parts ← (partsOf options).mapM (read limits levels)
      return Condition.mk kind (options.erase "conditions") parts))
    (hparts : ∀ (limits : Limits) (levels before : Nat), before ≤ limits.maxConditionLeaves →
      HingesOn (((partsOf options).mapM (read limits levels)).run before)
        (depth ≤ levels ∧ ((before + size : Nat) : Int) ≤ limits.maxConditionLeaves)
        (parts, before + size)) :
    Measured v (.mk kind (options.erase "conditions") parts) depth (size + 1) where
  form := hform
  hinges limits levels count := by
    cases levels with
    | zero => exact hinges_zero (by omega)
    | succ levels =>
      rw [hread, show count + (size + 1) = count + 1 + size by omega]
      -- the group takes up one place before its parts take up theirs
      refine hinges_counted (fun hroom => ?_) (Q := depth ≤ levels
        ∧ ((count + 1 + size : Nat) : Int) ≤ limits.maxConditionLeaves) (by omega)
      rw [StateT.run_bind]
      refine ((hparts limits levels (count + 1) hroom).bind fun _ => HingesOn.ok ?_).congr
        (and_iff_left trivial)
      rfl

/-- A reading of a condition counts its size. -/
theorem exists_measured {large : Limits} {levels : Nat} {v : Value} {count after : Nat}
    {c : Condition} (h : (read large levels v).run count = .ok (c, after)) :
    ∃ depth size, after = count + size ∧ Measured v c depth size := by
  induction levels generalizing v count after c with
  | zero => cases h
  | succ levels ih =>
    -- behind the count, a text and a condition without parts measure the same, and a group by its
    -- parts
    replace h := of_counted_eq_ok (show (counted large _).run count = _ by rwa [read] at h)
    split at h
    · rename_i s hexpose
      cases h
      exact ⟨0, 1, rfl, .single (.single rfl (by decide) (by decide)) fun limits levels => by
        rw [read]
        simp only [hexpose]
        rfl⟩
    · rename_i o es hexpose
      split at h
      · cases h
      rename_i kind options hkind
      split at h
      · rename_i hgroup
        obtain ⟨⟨parts, last⟩, hparts, h⟩ := run_bind_eq_ok.1 h
        cases h
        obtain ⟨depth, size, rfl, hforms, hinner⟩ := exists_forms hparts fun _ _ _ _ => ih
        have hform : Form (toEntries (mk kind (options.erase "conditions") parts)) depth (size + 1) :=
          .group (get?_toEntries_kind ..) hgroup (get?_toEntries_parts parts hgroup (has_erase ..))
            hforms
        refine ⟨depth, size + 1, by dsimp only; omega,
          .group hform (fun limits levels => ?_) hinner⟩
        rw [read]
        simp only [hexpose, hkind, hgroup, if_true]
        rfl
      · rename_i hgroup
        cases h
        refine ⟨0, 1, rfl, .single (.single (get?_toEntries_kind ..) (hasTemplate_of_kindOf? hkind)
          (by simpa using hgroup)) fun limits levels => ?_⟩
        rw [read]
        simp only [hexpose, hkind, hgroup]
        rfl
    · cases h

/-! ## Conditions under limits -/

/-- Limits allow for a condition of a depth and a size. -/
def Allowed (limits : Limits) (depth size : Nat) : Prop :=
  depth ≤ limits.maxConditionDepth ∧ size ≤ limits.maxConditionLeaves

theorem normalize_eq (limits : Limits) (v : Value) : normalize limits v = (do
    let result ← (read limits (limits.maxConditionDepth + 1).toNat v).run 0
    return toEntries result.1) := by
  unfold normalize ofValue
  cases (read limits (limits.maxConditionDepth + 1).toNat v).run 0 <;> rfl

/-- A condition that is read under some limits is read with the same result under all limits that
allow for it, and refused under all others. -/
theorem hinges_normalize {large : Limits} {v : Value} {es : Entries}
    (h : normalize large v = .ok es) :
    ∃ depth size, Form es depth size
      ∧ ∀ limits, HingesOn (normalize limits v) (Allowed limits depth size) es := by
  rw [normalize_eq] at h
  obtain ⟨⟨c, after⟩, hread, h⟩ := Outcome.bind_eq_ok.1 h
  cases h
  obtain ⟨depth, size, -, hmeasured⟩ := exists_measured hread
  refine ⟨depth, size, hmeasured.form, fun limits => ?_⟩
  rw [normalize_eq]
  have hlevels : depth < (limits.maxConditionDepth + 1).toNat ↔ depth ≤ limits.maxConditionDepth := by
    omega
  refine ((hmeasured.hinges limits _ 0).bind fun _ => HingesOn.ok ?_).congr ?_
  · rfl
  · rw [hlevels, Nat.zero_add, and_true, Allowed]

/-- The payload of a node is read, or refused, as the condition that it stands for. -/
theorem hinges_payload {large : Limits} {v : Value} {es : Entries}
    (h : payload large v = .ok es) :
    ∃ depth size, Form es depth size
      ∧ ∀ limits, HingesOn (payload limits v) (Allowed limits depth size) es := by
  unfold payload at h ⊢
  split at h <;> exact hinges_normalize h

/-- Whatever is read as a condition comes out in canonical form, within the limits that it was read
under, and is read as itself from then on: by itself, and as the list of conditions of a block. -/
theorem exists_form_of_normalize {limits : Limits} {v : Value} {es : Entries}
    (h : normalize limits v = .ok es) :
    ∃ depth size, Form es depth size ∧ depth ≤ limits.maxConditionDepth
      ∧ size ≤ limits.maxConditionLeaves ∧ normalize limits (.ofEntries es) = .ok es
      ∧ payload limits (.ofItems (spread es)) = .ok es := by
  obtain ⟨depth, size, hform, hhinges⟩ := hinges_normalize h
  obtain ⟨hdepth, hsize⟩ := (hhinges limits).holds h
  have hagain := normalize_of_normalize h
  refine ⟨depth, size, hform, hdepth, hsize, hagain, ?_⟩
  exact (payload_conditionsOf (n := { id := "", kind := .condition, data := es })
    (expose_conditions_of_normalize h)).trans hagain

/-- A group in which each condition is written in another way: as a template alone, as a template
in the place of the kind, as a group named by its key, and in canonical form. -/
def mixedGroup : Value := .ofEntries [
  (.str "or", .ofItems [
    .str "dark",
    .ofEntries [(.str "condition", .str "\x7b\x7b late \x7d\x7d"), (.str "alias", .str "late")],
    .ofEntries [(.str "not", .ofEntries [(.str "condition", .str "state"),
      (.str "entity_id", .str "person.ada"), (.str "state", .str "home")])]])]

/-- Five conditions on two levels are read when just these are allowed. -/
theorem exists_form_mixedGroup : ∃ es depth size,
    normalize { maxConditionDepth := 2, maxConditionLeaves := 5 } mixedGroup = .ok es
      ∧ Form es depth size ∧ (depth : Int) ≤ 2 ∧ (size : Int) ≤ 5
      ∧ normalize { maxConditionDepth := 2, maxConditionLeaves := 5 } (.ofEntries es) = .ok es := by
  obtain ⟨es, hes⟩ : ∃ es,
      normalize { maxConditionDepth := 2, maxConditionLeaves := 5 } mixedGroup = .ok es := ⟨_, rfl⟩
  obtain ⟨depth, size, hform, hdepth, hsize, hagain, -⟩ := exists_form_of_normalize hes
  exact ⟨es, depth, size, hes, hform, hdepth, hsize, hagain⟩

/-- One condition more than allowed is too much. -/
example : normalize { maxConditionLeaves := 4 } mixedGroup
    = Outcome.tooLarge (.conditionLeaves 4) := rfl

end Condition

end Automation
