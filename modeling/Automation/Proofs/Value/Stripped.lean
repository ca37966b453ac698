import Automation.Proofs.Value.Origins
import Automation.Proofs.Value.Same
import Automation.Proofs.Value.Text

/-!
# Values that differ in their origins alone

Two values that are one value without their origins count as the same, when nothing in them occurs
inside itself (`Value.agrees_of_stripped_eq`): an inner occurrence is told by its origin.
-/

namespace Automation

namespace Value

mutual
/-- Whether no collection in a value occurs inside itself. -/
def isTree : Value → Bool
  | .list _ items => areTrees items
  | .tuple _ items => areTrees items
  | .set _ items => areTrees items
  | .map _ es => entriesAreTrees es
  | .enclosing .. => false
  | _ => true

/-- Whether no collection in some values occurs inside itself. -/
def areTrees : List Value → Bool
  | [] => true
  | v :: vs => isTree v && areTrees vs

/-- Whether no collection in some entries occurs inside itself. -/
def entriesAreTrees : List (Value × Value) → Bool
  | [] => true
  | (k, v) :: es => (isTree k && isTree v) && entriesAreTrees es
end

mutual
/-- Values that differ in their origins alone match each other. -/
theorem agrees_of_stripped_eq : ∀ a b : Value, a.isTree = true → a.stripped = b.stripped →
    a.agrees b = true
  | .null, b, _, h => by cases b <;> cases h; rfl
  | .bool _, b, _, h => by cases b <;> cases h; exact agrees_refl _
  | .int _, b, _, h => by cases b <;> cases h; exact agrees_refl _
  | .float _, b, _, h => by cases b <;> cases h; exact agrees_refl _
  | .str _, b, _, h => by cases b <;> cases h; exact agrees_refl _
  | .bytes _, b, _, h => by cases b <;> cases h; exact agrees_refl _
  | .date .., b, _, h => by
    cases b <;> cases h
    exact agrees_refl (.date {} _)
  | .moment .., b, _, h => by
    cases b <;> cases h
    exact agrees_refl (.moment {} _)
  | .enclosing .., _, htree, _ => by cases htree
  | .list _ items, b, htree, h => by
    cases b with
    | list _ others => exact sameItems_of_stripped_eq items others htree (Value.list.inj h).2
    | _ => cases h
  | .tuple _ items, b, htree, h => by
    cases b with
    | tuple _ others => exact sameItems_of_stripped_eq items others htree (Value.tuple.inj h).2
    | _ => cases h
  | .set _ items, b, htree, h => by
    cases b with
    | set _ others =>
      have hitems : items.map stripped = others.map stripped := by
        have hsame := (Value.set.inj h).2
        rwa [mapItems_eq_map, mapItems_eq_map] at hsame
      -- sets and mappings are compared by their length and what is in them
      have hlength := congrArg List.length hitems
      rw [List.length_map, List.length_map] at hlength
      show (items.length == others.length && allIn items others) = true
      rw [hlength, beq_self_eq_true, Bool.true_and]
      exact allIn_of_stripped_mem items others htree fun v hv => hitems ▸ List.mem_map_of_mem hv
    | _ => cases h
  | .map _ es, b, htree, h => by
    cases b with
    | map _ others =>
      have hes : (es.map fun e => (e.1.stripped, e.2.stripped))
          = others.map fun e => (e.1.stripped, e.2.stripped) := by
        have hsame := (Value.map.inj h).2
        rwa [mapEntries_eq_map, mapEntries_eq_map] at hsame
      have hlength := congrArg List.length hes
      rw [List.length_map, List.length_map] at hlength
      show (es.length == others.length && entriesIn es others) = true
      rw [hlength, beq_self_eq_true, Bool.true_and]
      exact entriesIn_of_stripped_mem es others htree fun e he => hes ▸ List.mem_map_of_mem he
    | _ => cases h

theorem sameItems_of_stripped_eq : ∀ items others : List Value, areTrees items = true →
    mapItems (fun _ => {}) items = mapItems (fun _ => {}) others → sameItems items others = true
  | [], [], _, _ => rfl
  | [], _ :: _, _, h => by cases h
  | _ :: _, [], _, h => by cases h
  | v :: vs, w :: ws, htree, h => by
    obtain ⟨hv, hvs⟩ := Bool.and_eq_true_iff.1 htree
    obtain ⟨hvw, hrest⟩ := List.cons.inj h
    have hfirst := agrees_of_stripped_eq v w hv hvw
    unfold agrees at hfirst
    rw [sameItems, hfirst, sameItems_of_stripped_eq vs ws hvs hrest]
    rfl

/-- Items are found in a list that has them up to their origins. -/
theorem allIn_of_stripped_mem : ∀ items others : List Value, areTrees items = true →
    (∀ v ∈ items, v.stripped ∈ others.map stripped) → allIn items others = true
  | [], _, _, _ => by rw [allIn]
  | v :: vs, others, htree, h => by
    obtain ⟨hv, hvs⟩ := Bool.and_eq_true_iff.1 htree
    obtain ⟨w, hw, heq⟩ := List.mem_map.1 (h v List.mem_cons_self)
    have hfirst := agrees_of_stripped_eq v w hv heq.symm
    unfold agrees at hfirst
    rw [allIn, Bool.and_eq_true, List.any_eq_true]
    exact ⟨⟨w, hw, hfirst⟩,
      allIn_of_stripped_mem vs others hvs fun u hu => h u (List.mem_cons_of_mem _ hu)⟩

/-- Entries are found in a mapping that has them up to their origins. -/
theorem entriesIn_of_stripped_mem : ∀ es others : List (Value × Value), entriesAreTrees es = true →
    (∀ e ∈ es, (e.1.stripped, e.2.stripped) ∈ others.map fun e => (e.1.stripped, e.2.stripped)) →
    entriesIn es others = true
  | [], _, _, _ => by rw [entriesIn]
  | (k, v) :: es, others, htree, h => by
    obtain ⟨hentry, hes⟩ := Bool.and_eq_true_iff.1 htree
    obtain ⟨hk, hv⟩ := Bool.and_eq_true_iff.1 hentry
    obtain ⟨e, he, heq⟩ := List.mem_map.1 (h (k, v) List.mem_cons_self)
    have hkey := agrees_of_stripped_eq k e.1 hk (congrArg Prod.fst heq).symm
    have hvalue := agrees_of_stripped_eq v e.2 hv (congrArg Prod.snd heq).symm
    unfold agrees at hkey hvalue
    rw [entriesIn, Bool.and_eq_true, List.any_eq_true]
    exact ⟨⟨e, he, by rw [hkey, hvalue]; rfl⟩,
      entriesIn_of_stripped_mem es others hes fun e he => h e (List.mem_cons_of_mem _ he)⟩
end

/-- Mappings that differ in the origins of their parts alone are the same. -/
theorem same_ofEntries_of_stripped_eq {es others : Entries} (htree : (ofEntries es).isTree = true)
    (h : (ofEntries es).stripped = (ofEntries others).stripped) :
    (ofEntries es).same (ofEntries others) = true :=
  agrees_of_stripped_eq (ofEntries es) (ofEntries others) htree h

/-- What can be put into text can be put into text wherever it was written. -/
theorem hasText_of_stripped_eq {v v' : Value} (h : v'.stripped = v.stripped) :
    v'.hasText = v.hasText := by
  rw [← hasText_mapOrigin (fun _ => {}) v', ← hasText_mapOrigin (fun _ => {}) v]
  exact congrArg hasText h

end Value

end Automation
