import Automation.Proofs.Record.Fields
import Automation.Proofs.Value.Text
import Automation.Record.Automation
import Mathlib.Algebra.Group.Nat.Defs

/-!
# Records that can be written

The fields of a document whose integers can all be written can be written
(`AutomationRecord.HasText.ofEntries`). A whole number that is read out of a text has as few digits
as the text, so it can be written as well (`Reader.hasDecimal_of_integer`).
-/

namespace Automation

/-! ## Whole numbers -/

namespace Literal

/-- Digits in a row are less than the next power of their radix. -/
theorem lt_of_groupedFrom?_eq_some {radix value n : Nat} {after : Bool} {cs : List Char}
    (hradix : 0 < radix) (h : groupedFrom? radix value after cs = some n) :
    n < (value + 1) * radix ^ cs.length := by
  induction cs generalizing value after with
  | nil =>
    unfold groupedFrom? at h
    split at h
    · cases h
      simp
    · cases h
  | cons c cs ih =>
    rw [List.length_cons, Nat.pow_succ, Nat.mul_comm (radix ^ _), ← Nat.mul_assoc]
    unfold groupedFrom? at h
    split at h
    · -- a low line is no digit
      split at h
      · have hlt := ih h
        have hle : value + 1 ≤ (value + 1) * radix := Nat.le_mul_of_pos_right _ hradix
        exact Nat.lt_of_lt_of_le hlt (Nat.mul_le_mul_right _ hle)
      · cases h
    · split at h
      · rename_i d hd
        split at h
        · rename_i hdigit
          have hlt := ih h
          have hle : value * radix + d + 1 ≤ (value + 1) * radix := by
            rw [Nat.add_mul, Nat.one_mul]
            omega
          exact Nat.lt_of_lt_of_le hlt (Nat.mul_le_mul_right _ hle)
        · cases h
      · cases h

/-- A number of few digits can be written. -/
theorem hasDecimal_of_lt {n : Int} {k : Nat} (hk : k ≤ maxDigits) (h : n.natAbs < 10 ^ k) :
    hasDecimal n = true := by
  have hpow : ∀ m, k ≤ m → 10 ^ k ≤ Binary64.pow10 m := fun m hm =>
    Nat.pow_le_pow_right (by decide) hm
  rw [hasDecimal, writingBound, decide_eq_true_eq]
  exact Nat.lt_of_lt_of_le h (hpow maxDigits hk)

/-- A whole number in its plain form has as many digits as it is read from. -/
theorem hasDecimal_of_plainInteger {cs : List Char} {n : Int} (h : plainInteger cs = .ok n) :
    hasDecimal n = true := by
  -- digits that are too many or begin with a zero are no plain integer, but for one zero
  have hdigits : ∀ (negative : Bool) (body : List Char),
      (!((body.takeWhile Char.isDigit).head? == some '0')
          && maxDigits < (body.takeWhile Char.isDigit).length + (if negative then 1 else 0)) = false →
      (!((body.takeWhile Char.isDigit).head? == some '0')
          || (body.takeWhile Char.isDigit).length = 1) = true →
      (body.takeWhile Char.isDigit).length ≤ maxDigits := by
    intro negative body hshort hplain
    have hone : 1 ≤ maxDigits := by decide
    cases hzero : (body.takeWhile Char.isDigit).head? == some '0' with
    | true =>
      rw [hzero, Bool.not_true, Bool.false_or, decide_eq_true_eq] at hplain
      omega
    | false =>
      rw [hzero, Bool.not_false, Bool.true_and, decide_eq_false_iff_not] at hshort
      omega
  unfold plainInteger at h
  split at h
  rename_i negative body _
  dsimp only at h
  cases hshort : (!((body.takeWhile Char.isDigit).head? == some '0')
      && decide (maxDigits < (body.takeWhile Char.isDigit).length + (if negative then 1 else 0))) with
  | true =>
    rw [hshort, if_pos rfl] at h
    cases h
  | false =>
    rw [hshort, if_neg (by decide)] at h
    split at h
    · rename_i hplain
      rw [Bool.and_eq_true] at hplain
      split at h
      · rename_i m hm
        cases h
        have hlt := lt_of_groupedFrom?_eq_some (by decide) hm
        rw [Nat.zero_add, Nat.one_mul] at hlt
        refine hasDecimal_of_lt (hdigits negative body hshort hplain.2) ?_
        split
        · rwa [Int.natAbs_neg]
        · exact hlt
      · cases h
    · cases h

/-- A number that is read from a text has no more digits than the text. -/
theorem hasDecimal_of_wholeNumber {cs : List Char} {n : Int} (h : wholeNumber cs = .ok n) :
    hasDecimal n = true := by
  unfold wholeNumber at h
  split at h
  · split at h
    · exact hasDecimal_of_plainInteger h
    · cases h
  · exact hasDecimal_of_plainInteger h

end Literal

open Entries

namespace Reader

variable {α : Type}

/-- A number of 64 bits can be written. -/
theorem hasDecimal_of_le_integerLimit {n : Int} (h : n.natAbs ≤ integerLimit.natAbs) :
    Literal.hasDecimal n = true := by
  refine Literal.hasDecimal_of_lt (k := 19) (by decide) ?_
  have hlimit : integerLimit.natAbs < 10 ^ 19 := by decide
  omega

/-- What a reader of texts makes of a value is what is read out of some text. -/
theorem exists_of_ofText_eq_value {unreadable otherwise : FieldFault} {read : String → Reading α}
    {v : Value} {a : α} (h : ofText unreadable otherwise read v = .value a) :
    ∃ s, read s = .value a := by
  unfold ofText at h
  split at h
  · split at h
    · cases h
    · exact ⟨_, h⟩
  · split at h
    · exact ⟨_, h⟩
    · cases h
  · cases h

/-- A whole number that is read can be written, when it could be written where it is read from. -/
theorem hasDecimal_of_integer {v : Value} {n : Int} (hv : v.hasText = true)
    (h : integer v = .value n) : Literal.hasDecimal n = true := by
  cases v with
  | bool b =>
    cases h
    refine hasDecimal_of_le_integerLimit ?_
    cases b <;> decide
  | int m =>
    cases h
    exact hv
  | float x =>
    unfold integer at h
    dsimp only at h
    split at h
    · cases h
    · split at h
      · split at h
        · rename_i hsize
          cases h
          exact hasDecimal_of_le_integerLimit hsize
        · cases h
      · cases h
  | str s | bytes bs =>
    unfold integer at h
    obtain ⟨s, hs⟩ := exists_of_ofText_eq_value h
    split at hs
    · rename_i hwhole
      cases hs
      exact Literal.hasDecimal_of_wholeNumber hwhole
    · cases hs
    · cases hs
  | _ => cases h

/-! ## Mappings and lists -/

/-- A mapping that is read holds the values of the mapping it is read from. -/
theorem hasText_of_entries {v : Value} {es : Entries} (hv : v.hasText = true)
    (h : entries v = .value es) : es.HasText := by
  unfold entries at h
  split at h
  · rename_i source hexpose
    have hsource := Value.hasText_of_expose_eq_map hv hexpose
    obtain ⟨keys, -, rfl⟩ := Reading.map_eq_value.1 h
    have hfold : ∀ (pairs : List (String × (Value × Value))) (acc : Entries), acc.HasText →
        (∀ e ∈ pairs, e.2.2.hasText = true) →
        Entries.HasText (pairs.foldl (fun acc e => acc.insert (.str e.1) e.2.2) acc) := by
      intro pairs
      induction pairs with
      | nil => exact fun _ hacc _ => hacc
      | cons e pairs ih =>
        intro acc hacc hpairs
        obtain ⟨he, hpairs⟩ := List.forall_mem_cons.1 hpairs
        exact ih _ (hacc.insert rfl he) hpairs
    exact hfold _ _ hasText_nil fun e he => (hsource e.2 (List.of_mem_zip he).2).2
  · cases h

/-- What a sequence holds can be written when the sequence can. -/
theorem hasText_of_sequence? {v : Value} {items : List Value} (hv : v.hasText = true)
    (h : sequence? v = some items) : ∀ item ∈ items, item.hasText = true := by
  have hexpose := Value.hasText_expose hv
  unfold sequence? at h
  split at h <;> cases h <;> rename_i heq <;> rw [heq] at hexpose <;>
    exact Value.haveText_iff.1 hexpose

/-- What is read out of the items of a list holds when it holds of each item. -/
theorem forall_of_list {P : α → Prop} {read : Reader α} {v : Value} {as : List α}
    (hv : v.hasText = true) (hread : ∀ item, item.hasText = true → ∀ a, read item = .value a → P a)
    (h : list read v = .value as) : ∀ a ∈ as, P a := by
  obtain ⟨items, hitems, hall⟩ := of_list_eq_value h
  intro a ha
  obtain ⟨item, hitem, hitemRead⟩ := hall a ha
  exact hread item (hasText_of_sequence? hv hitems item hitem) a hitemRead

/-! ## Fields -/

variable {P : α → Prop} {read : Reader α} {es : Entries} {name : String}

/-- What is read from a field has what reading gives to all that can be written. -/
theorem of_field (hes : es.HasText) (hread : ∀ v, v.hasText = true → ∀ a, read v = .value a → P a)
    {a : α} (h : field es name read = .value a) : P a := by
  obtain ⟨v, hget, hv⟩ := of_field_eq_value h
  exact hread v (hes.get? hget) a hv

theorem of_fieldOr (hes : es.HasText)
    (hread : ∀ v, v.hasText = true → ∀ a, read v = .value a → P a) {a default : α}
    (hdefault : P default) (h : fieldOr es name default read = .value a) : P a := by
  rcases of_fieldOr_eq_value h with rfl | ⟨v, hget, hv⟩
  · exact hdefault
  · exact hread v (hes.get? hget) a hv

/-- What is read from an optional field has what reading gives to all that can be written. -/
theorem of_optionalField (hes : es.HasText)
    (hread : ∀ v, v.hasText = true → ∀ a, read v = .value a → P a) {o : Option α}
    (h : optionalField es name read = .value o) : ∀ a ∈ o, P a := by
  intro a ha
  obtain ⟨v, hget, hv⟩ := of_optionalField_eq_value h a ha
  exact hread v (hes.get? hget) a hv

end Reader

/-! ## Records -/

/-- The settings of an automation can be written. -/
structure Settings.HasText (s : Settings) : Prop where
  max : ∀ n ∈ s.max, Literal.hasDecimal n = true
  trace : ∀ es ∈ s.trace, Entries.HasText es
  vars : s.vars.HasText

/-- What is kept of a document can be written. -/
structure AutomationRecord.HasText (r : AutomationRecord) : Prop where
  settings : r.settings.HasText
  triggers : ∀ es ∈ r.triggers, Entries.HasText es
  conditions : ∀ v ∈ r.conditions, v.hasText = true
  actions : ∀ es ∈ r.actions, Entries.HasText es
  id : ∀ v ∈ r.id, v.hasText = true

open Reader

/-- The id of an automation can be written: it is a text, or a number of the document. -/
theorem Record.hasText_of_automationId {v id : Value} (hv : v.hasText = true)
    (h : automationId v = .value id) : id.hasText = true := by
  unfold automationId at h
  split at h
  · cases h
    rfl
  · rename_i n hn _
    cases h
    exact hasDecimal_of_integer hv hn
  · cases h

/-- The settings of a run can be written when the fields they are read from can. -/
theorem Record.hasText_of_runSettings {es : Entries} (hes : es.HasText) {s : Settings}
    (h : runSettings es = .value s) : s.HasText := by
  have hs := runSettings_eq_value_iff.1 h
  refine ⟨of_optionalField hes (fun v hv n hn => hasDecimal_of_integer hv hn) hs.max,
    of_optionalField hes (fun v hv es h => hasText_of_entries hv h) hs.trace, ?_⟩
  rw [hs.rest.2]
  exact hasText_nil

/-- The record in sections that can be written can be written. -/
theorem AutomationRecord.HasText.ofEntries {es : Entries} (hes : es.HasText) {r : AutomationRecord}
    (h : AutomationRecord.ofEntries es = .ok r) : r.HasText := by
  have hr := AutomationRecord.ofEntries_eq_ok_iff.1 h
  have hentries : ∀ v : Value, v.hasText = true → ∀ as, list entries v = .value as →
      ∀ es ∈ as, Entries.HasText es :=
    fun v hv as has => forall_of_list hv (fun item hitem es => hasText_of_entries hitem) has
  have hany : ∀ v : Value, v.hasText = true → ∀ as, list any v = .value as →
      ∀ w ∈ as, w.hasText = true :=
    fun v hv as has => forall_of_list hv (fun item hitem w hw => by cases hw; exact hitem) has
  refine ⟨?_, of_field hes hentries hr.triggers, of_fieldOr hes hany (by simp) hr.conditions,
    of_field hes hentries hr.actions,
    of_optionalField hes (fun v hv id => Record.hasText_of_automationId hv) hr.id⟩
  obtain ⟨run, vars, hrun, hvars, hsettings⟩ := hr.settings
  have hrun := Record.hasText_of_runSettings hes hrun
  have hvars : ∀ es ∈ vars, Entries.HasText es :=
    of_optionalField hes (fun v hv es h => hasText_of_entries hv h) hvars
  rw [hsettings]
  refine ⟨hrun.max, hrun.trace, ?_⟩
  cases vars with
  | none => exact hasText_nil
  | some vars => exact hvars vars rfl

end Automation
