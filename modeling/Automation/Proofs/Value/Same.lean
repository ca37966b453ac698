import Automation.Proofs.Value.Entries

/-!
# Values that count as the same

Every value matches itself (`Value.agrees_refl`), an undefined number as a part of a collection
included. So a mapping is the same as itself, and as any mapping of the same entries in another
order.
-/

namespace Automation

namespace Binary64.Exact

theorem compare?_self {x : Exact} (h : x ≠ .undefined) : x.compare? x = some .eq := by
  cases x with
  | undefined => exact absurd rfl h
  | infinite negative => simp [compare?]
  | dyadic m p => simp [compare?]

end Binary64.Exact

namespace Value

/-- A number is itself, unless it is undefined. -/
theorem agrees_float_self (x : Binary64) : (float x).agrees (.float x) = true := by
  simp only [agrees, isOneUndefined, same, sameNumber, beq_self_eq_true, Bool.and_true]
  by_cases h : x.isNaN = true
  · rw [h, Bool.true_or]
  · have hexact : x.exact ≠ .undefined := by
      unfold Binary64.exact
      rw [if_neg h]
      split <;> (intro heq; cases heq)
    rw [Binary64.Exact.compare?_self hexact]
    simp

theorem sameNumber_ofInt (n : Int) : (Binary64.Exact.ofInt n).compare? (.ofInt n) = some .eq :=
  Binary64.Exact.compare?_self nofun

mutual
/-- Every value matches itself. -/
theorem agrees_refl : ∀ v : Value, v.agrees v = true
  | .null => rfl
  | .bool b => by simp [agrees, same, sameNumber, sameNumber_ofInt]
  | .int n => by simp [agrees, same, sameNumber, sameNumber_ofInt]
  | .float x => agrees_float_self x
  | .str s => by simp [isText]
  | .bytes bs => by simp [agrees, same]
  | .date _ d => by simp [agrees, same]
  | .moment _ t => by simp [agrees, same, Moment.compare?]
  | .list _ items => by simp [agrees, same, sameItems_refl items]
  | .tuple _ items => by simp [agrees, same, sameItems_refl items]
  | .set _ items => by simp [agrees, same, allIn_of_subset items items fun _ h => h]
  | .map _ es => by simp [agrees, same, entriesIn_of_subset es es fun _ h => h]
  | .enclosing o isMap => by simp [agrees, same]

theorem sameItems_refl : ∀ items : List Value, sameItems items items = true
  | [] => rfl
  | v :: vs => by
    have hv := agrees_refl v
    unfold agrees at hv
    rw [sameItems, hv, sameItems_refl vs]
    rfl

/-- The items of a list are found in any list that has them. -/
theorem allIn_of_subset : ∀ items others : List Value, (∀ v ∈ items, v ∈ others) →
    allIn items others = true
  | [], _, _ => by rw [allIn]
  | v :: vs, others, h => by
    have hv := agrees_refl v
    unfold agrees at hv
    rw [allIn, Bool.and_eq_true, List.any_eq_true]
    exact ⟨⟨v, h v List.mem_cons_self, hv⟩,
      allIn_of_subset vs others fun w hw => h w (List.mem_cons_of_mem _ hw)⟩

/-- The entries of a mapping are found in any mapping that has them. -/
theorem entriesIn_of_subset : ∀ es others : List (Value × Value), (∀ e ∈ es, e ∈ others) →
    entriesIn es others = true
  | [], _, _ => by rw [entriesIn]
  | (k, v) :: es, others, h => by
    have hk := agrees_refl k
    have hv := agrees_refl v
    unfold agrees at hk hv
    rw [entriesIn, Bool.and_eq_true, List.any_eq_true]
    exact ⟨⟨(k, v), h _ List.mem_cons_self, by rw [hk, hv]; rfl⟩,
      entriesIn_of_subset es others fun e he => h e (List.mem_cons_of_mem _ he)⟩
end

/-- Mappings of the same entries are the same, whatever their order. -/
theorem same_ofEntries_of_perm {es others : Entries} (h : es.Perm others) :
    (ofEntries es).same (ofEntries others) = true := by
  simp [ofEntries, same, h.length_eq, entriesIn_of_subset es others fun _ he => h.mem_iff.1 he]

theorem same_ofEntries_self (es : Entries) : (ofEntries es).same (ofEntries es) = true :=
  same_ofEntries_of_perm (.refl es)

end Value

end Automation
