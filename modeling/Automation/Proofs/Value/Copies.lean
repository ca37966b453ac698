import Automation.Proofs.Value.Origins
import Automation.Proofs.Value.Same
import Automation.Proofs.Value.Text
import Mathlib.Data.List.Forall2
import Mathlib.Logic.Function.Basic

/-!
# Copies of mappings

A copy that tells origins apart as the original does agrees with other copies where the original
agrees (`Value.agrees_mapOrigin`). So mappings are merged alike in a document and in its copy
(`Entries.Copied.merge`), and one of them can be written as text exactly when the other can
(`Entries.Copied.hasText_iff`). So can a copy whose collections are its own
(`Value.hasText_detach`).
-/

namespace Automation

/-- A copy of an origin is told apart from copies of others. -/
theorem Origin.inside_injective (place : Place) : Function.Injective (Origin.inside place) := by
  rintro ⟨path, isKnot⟩ ⟨path', isKnot'⟩ h
  obtain ⟨hpath, hknot⟩ := Origin.mk.inj h
  have hcons : Function.Injective fun steps : List Place => place :: steps :=
    fun _ _ h => (List.cons.inj h).2
  exact Origin.mk.injEq .. ▸ ⟨Option.map_injective hcons hpath, hknot⟩

namespace Value

variable {f : Origin → Origin}

theorem isOneUndefined_mapOrigin (a b : Value) :
    isOneUndefined (a.mapOrigin f) (b.mapOrigin f) = isOneUndefined a b := by
  cases a with
  | float x => cases b <;> rfl
  | _ => rfl

theorem sameNumber_mapOrigin (x : Binary64.Exact) (b : Value) :
    sameNumber x (b.mapOrigin f) = sameNumber x b := by
  cases b <;> rfl

mutual
/-- Values are the same when they are with other origins, as long as these are told apart. -/
theorem same_mapOrigin (hf : Function.Injective f) : ∀ a b : Value,
    same (a.mapOrigin f) (b.mapOrigin f) = same a b
  | .null, b => by cases b <;> rfl
  | .bool _, b | .int _, b | .float _, b => by
    simp only [mapOrigin, same]
    exact sameNumber_mapOrigin _ b
  | .str s, b => by
    simp only [mapOrigin, same]
    exact isText_mapOrigin f b s
  | .bytes _, b | .date .., b | .moment .., b => by cases b <;> rfl
  | .enclosing o _, b => by
    cases b with
    | enclosing p _ =>
      simp only [mapOrigin, same]
      -- two collections that enclose are the same by their origins, which the map keeps apart
      rw [Bool.eq_iff_iff, beq_iff_eq, beq_iff_eq, hf.eq_iff]
    | _ => rfl
  | .list _ items, b => by
    cases b with
    | list _ others => exact sameItems_mapItems hf items others
    | _ => rfl
  | .tuple _ items, b => by
    cases b with
    | tuple _ others => exact sameItems_mapItems hf items others
    | _ => rfl
  | .set _ items, b => by
    cases b with
    | set _ others =>
      simp only [mapOrigin, same]
      rw [allIn_mapItems hf, mapItems_eq_map, mapItems_eq_map, List.length_map, List.length_map]
    | _ => rfl
  | .map _ es, b => by
    cases b with
    | map _ others =>
      simp only [mapOrigin, same]
      rw [entriesIn_mapEntries hf, mapEntries_eq_map, mapEntries_eq_map, List.length_map,
        List.length_map]
    | _ => rfl

theorem sameItems_mapItems (hf : Function.Injective f) : ∀ items others : List Value,
    sameItems (mapItems f items) (mapItems f others) = sameItems items others
  | [], others => by cases others <;> rfl
  | v :: vs, [] => rfl
  | v :: vs, w :: ws => by
    rw [mapItems, mapItems, sameItems, sameItems, isOneUndefined_mapOrigin, same_mapOrigin hf v w,
      sameItems_mapItems hf vs ws]

theorem allIn_mapItems (hf : Function.Injective f) : ∀ items others : List Value,
    allIn (mapItems f items) (mapItems f others) = allIn items others
  | [], _ => by rw [mapItems, allIn, allIn]
  | v :: vs, others => by
    rw [mapItems, allIn, allIn, allIn_mapItems hf vs others, mapItems_eq_map, List.any_map]
    refine congrArg (· && _) (List.any_congr rfl fun w => ?_)
    rw [Function.comp_apply, isOneUndefined_mapOrigin, same_mapOrigin hf v w]

theorem entriesIn_mapEntries (hf : Function.Injective f) : ∀ es others : List (Value × Value),
    entriesIn (mapEntries f es) (mapEntries f others) = entriesIn es others
  | [], _ => by rw [mapEntries, entriesIn, entriesIn]
  | (k, v) :: es, others => by
    rw [mapEntries, entriesIn, entriesIn, entriesIn_mapEntries hf es others, mapEntries_eq_map,
      List.any_map]
    refine congrArg (· && _) (List.any_congr rfl fun e => ?_)
    rw [Function.comp_apply, isOneUndefined_mapOrigin, isOneUndefined_mapOrigin,
      same_mapOrigin hf k e.1, same_mapOrigin hf v e.2]
end

/-- Keys agree when they do with other origins. -/
theorem agrees_mapOrigin (hf : Function.Injective f) (a b : Value) :
    (a.mapOrigin f).agrees (b.mapOrigin f) = a.agrees b := by
  unfold agrees
  rw [isOneUndefined_mapOrigin, same_mapOrigin hf]

/-! ## Copies with collections of their own -/

variable {o : Origin}

mutual
/-- What can be put into text with its inner occurrences replaced can be put into text as it is. -/
theorem hasText_of_fill {new : Value} : ∀ v : Value, (fill o new v).hasText = true →
    v.hasText = true
  | .null | .bool _ | .int _ | .float _ | .str _ | .bytes _ | .date .. | .moment .. | .set .. => id
  | .enclosing .. => fun _ => rfl
  | .list p items => by
    intro h
    rw [fill] at h
    split at h
    · exact h
    · exact haveText_of_fillItems items h
  | .tuple _ items => haveText_of_fillItems items
  | .map p es => by
    intro h
    rw [fill] at h
    split at h
    · exact h
    · exact entriesHaveText_of_fillEntries es h

/-- What can be written when filled in can be written before. Induction on the items. -/
theorem haveText_of_fillItems {new : Value} : ∀ items : List Value,
    haveText (fillItems o new items) = true → haveText items = true
  | [] => id
  | v :: vs => by
    intro h
    rw [fillItems, haveText, Bool.and_eq_true] at h
    rw [haveText, Bool.and_eq_true]
    exact ⟨hasText_of_fill v h.1, haveText_of_fillItems vs h.2⟩

theorem entriesHaveText_of_fillEntries {new : Value} : ∀ es : List (Value × Value),
    entriesHaveText (fillEntries o new es) = true → entriesHaveText es = true
  | [] => id
  | (k, v) :: es => by
    intro h
    rw [fillEntries, entriesHaveText, Bool.and_eq_true, Bool.and_eq_true] at h
    rw [entriesHaveText, Bool.and_eq_true, Bool.and_eq_true]
    exact ⟨⟨h.1.1, hasText_of_fill v h.1.2⟩, entriesHaveText_of_fillEntries es h.2⟩
end

/-- The parts of a collection can be put into text when the collection can. -/
theorem haveText_partItems_eq {whole : Value} {items parts : List Value}
    (hwhole : whole.hasText = haveText items) (hparts : haveText parts = haveText items) :
    haveText (partItems o whole parts) = haveText items := by
  unfold partItems
  split
  · rw [Bool.eq_iff_iff]
    exact ⟨fun h => hparts ▸ haveText_of_fillItems parts h,
      fun h => haveText_fillItems (hwhole.trans h) parts (hparts.trans h)⟩
  · exact hparts

/-- The entries of a mapping that holds itself can be written just if they can be one by one. -/
theorem entriesHaveText_partEntries_eq {whole : Value} {es parts : List (Value × Value)}
    (hwhole : whole.hasText = entriesHaveText es) (hparts : entriesHaveText parts = entriesHaveText es) :
    entriesHaveText (partEntries o whole parts) = entriesHaveText es := by
  unfold partEntries
  split
  · rw [Bool.eq_iff_iff]
    exact ⟨fun h => hparts ▸ entriesHaveText_of_fillEntries parts h,
      fun h => entriesHaveText_fillEntries (hwhole.trans h) parts (hparts.trans h)⟩
  · exact hparts

mutual
/-- A copy can be put into text when the value can. -/
theorem hasText_detach : ∀ v : Value, v.detach.hasText = v.hasText
  | .null | .bool _ | .int _ | .float _ | .str _ | .bytes _ | .date .. | .moment .. => rfl
  | .enclosing .. => rfl
  | .tuple _ items | .set _ items => haveText_detachItems items
  | .list _ items => haveText_partItems_eq rfl (haveText_detachItems items)
  | .map _ es => entriesHaveText_partEntries_eq rfl (entriesHaveText_detachEntries es)

/-- A list of copies can be written just if the list can. -/
theorem haveText_detachItems : ∀ items : List Value,
    haveText (detachItems items) = haveText items
  | [] => rfl
  | v :: vs => by rw [detachItems, haveText, haveText, hasText_detach v, haveText_detachItems vs]

theorem entriesHaveText_detachEntries : ∀ es : List (Value × Value),
    entriesHaveText (detachEntries es) = entriesHaveText es
  | [] => rfl
  | (k, v) :: es => by
    rw [detachEntries, entriesHaveText, entriesHaveText, hasText_detach k, hasText_detach v,
      entriesHaveText_detachEntries es]
end

@[simp] theorem isText_detach (v : Value) (s : String) : v.detach.isText s = v.isText s := by
  cases v <;> rfl

theorem detach_ofEntries (es : Entries) : (ofEntries es).detach = ofEntries (detachEntries es) := rfl

theorem detachItems_eq_map (items : List Value) : detachItems items = items.map detach := by
  induction items with
  | nil => rfl
  | cons v items ih => rw [List.map_cons, ← ih]; rfl

/-- A copy of entries has copies of their keys and values. -/
theorem detachEntries_eq_map (es : Entries) :
    detachEntries es = es.map fun e => (e.1.detach, e.2.detach) := by
  induction es with
  | nil => rfl
  | cons e es ih => rw [List.map_cons, ← ih]; rfl

/-- A field is set in the copy as in the entries. -/
theorem detachEntries_set (es : Entries) (name : String) (v : Value) :
    detachEntries (es.set name v) = Entries.set (detachEntries es) name v.detach := by
  have hhas : Entries.has (es.map fun e => (e.1.detach, e.2.detach)) name = es.has name := by
    simp [Entries.has, List.any_map, Function.comp_def]
  rw [detachEntries_eq_map, detachEntries_eq_map, Entries.set, Entries.set, hhas]
  split
  · rw [List.map_map, List.map_map]
    refine List.map_congr_left fun e _ => ?_
    simp only [Function.comp_apply, isText_detach]
    split <;> rfl
  · rw [List.map_append]
    rfl

end Value

namespace Entries

/-- The entries of a mapping with their keys copied, and values that have texts where the others
have. -/
def Copied (f : Origin → Origin) (es es' : Entries) : Prop :=
  List.Forall₂ (fun e e' => e'.1 = e.1.mapOrigin f ∧ e'.2.hasText = e.2.hasText) es es'

variable {f : Origin → Origin} {es es' more more' : Entries} {v v' : Value}

/-- Entries with other origins are a copy. -/
theorem copied_mapEntries (f : Origin → Origin) (es : Entries) :
    Copied f es (Value.mapEntries f es) := by
  rw [Value.mapEntries_eq_map]
  induction es with
  | nil => exact .nil
  | cons e es ih => exact .cons ⟨rfl, Value.hasText_mapOrigin f e.2⟩ ih

namespace Copied

/-- A copy can be written just if the entries can. -/
theorem hasText_iff (h : Copied f es es') : es'.HasText ↔ es.HasText := by
  induction h with
  | nil => exact Iff.rfl
  | @cons e e' es es' he _ ih =>
    obtain ⟨k, v⟩ := e
    obtain ⟨k', v'⟩ := e'
    obtain ⟨rfl, hv⟩ := he
    rw [hasText_cons, hasText_cons, ih, hv, Value.hasText_mapOrigin]

theorem append (h : Copied f es es') (hmore : Copied f more more') :
    Copied f (es ++ more) (es' ++ more') :=
  List.rel_append h hmore

theorem single (f : Origin → Origin) (name : String) (hv : v'.hasText = v.hasText) :
    Copied f [(.str name, v)] [(.str name, v')] :=
  .cons ⟨rfl, hv⟩ .nil

/-- Under each key that a test accepts, the values are replaced. -/
theorem map_if (h : Copied f es es') {p q : Value → Bool} (hq : ∀ k, q (k.mapOrigin f) = p k)
    (hv : v'.hasText = v.hasText) :
    Copied f (es.map fun e => if p e.1 then (e.1, v) else e)
      (es'.map fun e => if q e.1 then (e.1, v') else e) := by
  induction h with
  | nil => exact .nil
  | @cons e e' _ _ he _ ih =>
    refine .cons ?_ ih
    dsimp only
    rw [he.1, hq]
    split
    · exact ⟨rfl, hv⟩
    · exact he

/-- What is asked of the keys of a copy is answered as for the entries. -/
theorem any_eq (h : Copied f es es') {p q : Value → Bool} (hq : ∀ k, q (k.mapOrigin f) = p k) :
    (es'.any fun e => q e.1) = es.any fun e => p e.1 := by
  induction h with
  | nil => rfl
  | cons he _ ih => rw [List.any_cons, List.any_cons, ih, he.1, hq]

/-- A copy stays one when one field is set in both. -/
theorem set (h : Copied f es es') (name : String) (hv : v'.hasText = v.hasText) :
    Copied f (es.set name v) (es'.set name v') := by
  have hq (k : Value) : (k.mapOrigin f).isText name = k.isText name := Value.isText_mapOrigin f k name
  unfold Entries.set has
  rw [h.any_eq (p := (Value.isText · name)) (q := (Value.isText · name)) hq]
  split
  · exact h.map_if (p := (Value.isText · name)) (q := (Value.isText · name)) hq hv
  · exact h.append (single f name hv)

/-- A copy stays one when an entry is put into both, under copies of one key. -/
theorem insert (hf : Function.Injective f) (h : Copied f es es') (k : Value)
    (hv : v'.hasText = v.hasText) : Copied f (es.insert k v) (es'.insert (k.mapOrigin f) v') := by
  have hq (key : Value) : (key.mapOrigin f).agrees (k.mapOrigin f) = key.agrees k :=
    Value.agrees_mapOrigin hf key k
  unfold Entries.insert
  rw [h.any_eq (p := (Value.agrees · k)) (q := (Value.agrees · (k.mapOrigin f))) hq]
  split
  · exact h.map_if (p := (Value.agrees · k)) (q := (Value.agrees · (k.mapOrigin f))) hq hv
  · exact h.append (.cons ⟨rfl, hv⟩ .nil)

/-- Mappings are merged alike in a copy. -/
theorem merge (hf : Function.Injective f) (h : Copied f es es') (hmore : Copied f more more') :
    Copied f (es.merge more) (es'.merge more') := by
  unfold Entries.merge
  induction hmore generalizing es es' with
  | nil => exact h
  | @cons e e' _ _ he _ ih =>
    rw [List.foldl_cons, List.foldl_cons, he.1]
    exact ih (h.insert hf e.1 he.2)

end Copied

end Entries

end Automation
