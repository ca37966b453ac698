import Automation.Value.Basic

/-!
# How high values are

The height of a value is how many collections stand around its innermost part, keys of mappings
apart. A value that counts as the same as another is not higher (`Value.height_le_of_same`). A
collection that occurs inside itself is higher when it stands in full, as its inner occurrences have
no height of their own (`Value.expose_eq_or_height_lt`). So what counts as the same as a collection
in full cannot occur inside itself.
-/

namespace Automation

namespace Value

mutual
/-- How many collections stand around the innermost part of a value. -/
def height : Value → Nat
  | .list _ items => itemsHeight items + 1
  | .tuple _ items => itemsHeight items + 1
  | .set _ items => itemsHeight items + 1
  | .map _ es => entriesHeight es + 1
  | _ => 0

/-- The height of the highest item. -/
def itemsHeight : List Value → Nat
  | [] => 0
  | v :: vs => max (height v) (itemsHeight vs)

/-- The height of the highest value of some entries. -/
def entriesHeight : List (Value × Value) → Nat
  | [] => 0
  | (_, v) :: es => max (height v) (entriesHeight es)
end

/-- A list is at most as high as each of its items. -/
theorem itemsHeight_le_iff {items : List Value} {n : Nat} :
    itemsHeight items ≤ n ↔ ∀ v ∈ items, v.height ≤ n := by
  induction items with
  | nil => simp [itemsHeight]
  | cons v items ih => rw [itemsHeight, Nat.max_le, ih, List.forall_mem_cons]

theorem entriesHeight_le_iff {es : List (Value × Value)} {n : Nat} :
    entriesHeight es ≤ n ↔ ∀ e ∈ es, e.2.height ≤ n := by
  induction es with
  | nil => simp [entriesHeight]
  | cons e es ih => rw [entriesHeight, Nat.max_le, ih, List.forall_mem_cons]

/-- An item is at most as high as its list. -/
theorem height_le_of_mem {items : List Value} {v : Value} (h : v ∈ items) :
    v.height ≤ itemsHeight items :=
  itemsHeight_le_iff.1 (Nat.le_refl _) v h

theorem height_le_of_mem_entries {es : List (Value × Value)} {e : Value × Value} (h : e ∈ es) :
    e.2.height ≤ entriesHeight es :=
  entriesHeight_le_iff.1 (Nat.le_refl _) e h

/-! ## Values that count as the same -/

/-- Only a list counts as the same as a list. -/
theorem exists_of_same_list {o : Origin} {items : List Value} {b : Value}
    (h : same (list o items) b = true) :
    ∃ p others, b = .list p others ∧ sameItems items others = true := by
  cases b with
  | list p others => exact ⟨p, others, rfl, by rwa [same] at h⟩
  | _ => simp [same] at h

/-- Only a mapping with as many entries, among which all of them are found, counts as the same as a
mapping. -/
theorem exists_of_same_map {o : Origin} {es : List (Value × Value)} {b : Value}
    (h : same (map o es) b = true) :
    ∃ p others, b = .map p others ∧ es.length = others.length ∧ entriesIn es others = true := by
  cases b with
  | map p others =>
    rw [same, Bool.and_eq_true, beq_iff_eq] at h
    exact ⟨p, others, rfl, h⟩
  | _ => simp [same] at h

/-- Undefined numbers have no height. -/
theorem height_le_of_matches {a b : Value} (h : same a b = true → a.height ≤ b.height)
    (hab : (isOneUndefined a b || same a b) = true) : a.height ≤ b.height := by
  cases hsame : same a b with
  | true => exact h hsame
  | false =>
    rw [hsame, Bool.or_false] at hab
    cases a <;> first
      | exact Nat.zero_le _
      | cases hab

mutual
/-- A value is not higher than one that it counts as the same as. -/
theorem height_le_of_same : ∀ a b : Value, same a b = true → a.height ≤ b.height
  | .null, _ | .bool _, _ | .int _, _ | .float _, _ | .str _, _ | .bytes _, _ =>
    fun _ => Nat.zero_le _
  | .date .., _ | .moment .., _ | .enclosing .., _ => fun _ => Nat.zero_le _
  | .list _ items, b => fun h => by
    obtain ⟨p, others, rfl, hitems⟩ := exists_of_same_list h
    exact Nat.succ_le_succ (itemsHeight_le_of_sameItems items others hitems)
  | .map _ es, b => fun h => by
    obtain ⟨p, others, rfl, -, hes⟩ := exists_of_same_map h
    exact Nat.succ_le_succ (entriesHeight_le_of_entriesIn es others hes)
  | .tuple _ items, b => fun h => by
    cases b with
    | tuple p others =>
      rw [same] at h
      exact Nat.succ_le_succ (itemsHeight_le_of_sameItems items others h)
    | _ => simp [same] at h
  | .set _ items, b => fun h => by
    cases b with
    | set p others =>
      rw [same, Bool.and_eq_true] at h
      exact Nat.succ_le_succ (itemsHeight_le_of_allIn items others h.2)
    | _ => simp [same] at h

/-- No list is higher than one that it is the same as. Induction on the items. -/
theorem itemsHeight_le_of_sameItems : ∀ items others : List Value,
    sameItems items others = true → itemsHeight items ≤ itemsHeight others
  | [], _ => fun _ => Nat.zero_le _
  | _ :: _, [] => by
    intro h
    rw [sameItems] at h
    cases h
  | v :: vs, w :: ws => by
    intro h
    rw [sameItems, Bool.and_eq_true] at h
    rw [itemsHeight, itemsHeight]
    have hv := height_le_of_matches (height_le_of_same v w) h.1
    have hvs := itemsHeight_le_of_sameItems vs ws h.2
    omega

/-- A set is at most as high as one that it lies in. -/
theorem itemsHeight_le_of_allIn : ∀ items others : List Value,
    allIn items others = true → itemsHeight items ≤ itemsHeight others
  | [], _ => fun _ => Nat.zero_le _
  | v :: vs, others => by
    intro h
    rw [allIn, Bool.and_eq_true] at h
    obtain ⟨w, hw, hmatches⟩ := List.any_eq_true.1 h.1
    refine Nat.max_le.2 ⟨?_, itemsHeight_le_of_allIn vs others h.2⟩
    exact Nat.le_trans (height_le_of_matches (height_le_of_same v w) hmatches)
      (height_le_of_mem hw)

theorem entriesHeight_le_of_entriesIn : ∀ es others : List (Value × Value),
    entriesIn es others = true → entriesHeight es ≤ entriesHeight others
  | [], _ => fun _ => Nat.zero_le _
  | (k, v) :: es, others => by
    intro h
    rw [entriesIn, Bool.and_eq_true] at h
    obtain ⟨e, he, hmatches⟩ := List.any_eq_true.1 h.1
    rw [Bool.and_eq_true] at hmatches
    refine Nat.max_le.2 ⟨?_, entriesHeight_le_of_entriesIn es others h.2⟩
    exact Nat.le_trans (height_le_of_matches (height_le_of_same v e.2) hmatches.2)
      (height_le_of_mem_entries he)
end

/-! ## Collections in full -/

mutual
/-- A value is left as it is when nothing in it is replaced, and is as high as what is put in its
place otherwise. -/
theorem fill_eq_or_height_le (o : Origin) (new : Value) : ∀ v : Value,
    fill o new v = v ∨ new.height ≤ (fill o new v).height
  | .null | .bool _ | .int _ | .float _ | .str _ | .bytes _ | .date .. | .moment .. => .inl rfl
  | .set .. => .inl rfl
  | .enclosing p isMap => by
    -- where the collection stands inside itself, all of the new value is put in
    rw [fill]
    split
    · exact .inr (Nat.le_refl _)
    · exact .inl rfl
  | .list p items => by
    rw [fill]
    split
    · exact .inl rfl
    · rcases fillItems_eq_or_height_le o new items with h | h
      · exact .inl (by rw [h])
      · exact .inr (Nat.le_succ_of_le h)
  | .tuple p items => by
    rw [fill]
    rcases fillItems_eq_or_height_le o new items with h | h
    · exact .inl (by rw [h])
    · exact .inr (Nat.le_succ_of_le h)
  | .map p es => by
    rw [fill]
    split
    · exact .inl rfl
    · rcases fillEntries_eq_or_height_le o new es with h | h
      · exact .inl (by rw [h])
      · exact .inr (Nat.le_succ_of_le h)

/-- Filling in changes nothing, or what is filled in lies within the result. -/
theorem fillItems_eq_or_height_le (o : Origin) (new : Value) : ∀ items : List Value,
    fillItems o new items = items ∨ new.height ≤ itemsHeight (fillItems o new items)
  | [] => .inl rfl
  | v :: vs => by
    rw [fillItems, itemsHeight]
    rcases fill_eq_or_height_le o new v with hv | hv
    · rcases fillItems_eq_or_height_le o new vs with hvs | hvs
      · exact .inl (by rw [hv, hvs])
      · exact .inr (Nat.le_trans hvs (Nat.le_max_right ..))
    · exact .inr (Nat.le_trans hv (Nat.le_max_left ..))

theorem fillEntries_eq_or_height_le (o : Origin) (new : Value) : ∀ es : List (Value × Value),
    fillEntries o new es = es ∨ new.height ≤ entriesHeight (fillEntries o new es)
  | [] => .inl rfl
  | (k, v) :: es => by
    rw [fillEntries, entriesHeight]
    rcases fill_eq_or_height_le o new v with hv | hv
    · rcases fillEntries_eq_or_height_le o new es with hes | hes
      · exact .inl (by rw [hv, hes])
      · exact .inr (Nat.le_trans hes (Nat.le_max_right ..))
    · exact .inr (Nat.le_trans hv (Nat.le_max_left ..))
end

/-- A value stands in full, or it is higher when it does. -/
theorem expose_eq_or_height_lt (v : Value) : v.expose = v ∨ v.height < v.expose.height := by
  cases v with
  | list o items =>
    unfold expose partItems
    dsimp only
    split
    · rcases fillItems_eq_or_height_le o (.list o items) items with h | h
      · exact .inl (by rw [h])
      · exact .inr (Nat.lt_succ_of_le h)
    · exact .inl rfl
  | map o es =>
    unfold expose partEntries
    dsimp only
    split
    · rcases fillEntries_eq_or_height_le o (.map o es) es with h | h
      · exact .inl (by rw [h])
      · exact .inr (Nat.lt_succ_of_le h)
    · exact .inl rfl
  | _ => exact .inl rfl

/-- A value that does not grow when it is looked into does not hold itself. -/
theorem expose_eq_of_height_le {v : Value} (h : v.expose.height ≤ v.height) : v.expose = v :=
  (expose_eq_or_height_lt v).resolve_right (Nat.not_lt.2 h)

/-- Looking into a value makes it no lower. -/
theorem height_le_expose (v : Value) : v.height ≤ v.expose.height := by
  rcases expose_eq_or_height_lt v with h | h
  · exact Nat.le_of_eq (by rw [h])
  · exact Nat.le_of_lt h

/-- A list of itself is higher than it looks. -/
example (o : Origin) (ho : o.isKnot = true) :
    (list o [.enclosing o false]).height = 1 ∧ (list o [.enclosing o false]).expose.height = 2 := by
  simp [expose, partItems, ho, fillItems, fill, height, itemsHeight]

end Value

end Automation
