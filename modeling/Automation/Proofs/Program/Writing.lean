import Automation.Program.Entries
import Automation.Proofs.Program.Shape
import Automation.Proofs.Value.Entries

/-!
# What programs are written as

Programs of one shape are written as related values when what their nodes are written as is related
(`Program.Alike.related_actions`). The relation has to go through lists and mappings
(`Value.IsCongruence`), as being equal does, and being equal but for the origins of values. So what
a program is written as does not depend on the ids of its nodes (`Program.Alike.actions_eq`).
-/

namespace Automation

/-- Mappings with the same keys, and related values in the places of each other. -/
abbrev Entries.Related (Q : Value → Value → Prop) (es es' : Entries) : Prop :=
  List.Forall₂ (fun e e' => e'.1 = e.1 ∧ Q e.2 e'.2) es es'

/-- A relation that goes through lists and mappings. -/
structure Value.IsCongruence (Q : Value → Value → Prop) : Prop where
  refl (v : Value) : Q v v
  items {items items' : List Value} (h : List.Forall₂ Q items items') :
    Q (.ofItems items) (.ofItems items')
  entries {es es' : Entries} (h : Entries.Related Q es es') : Q (.ofEntries es) (.ofEntries es')

namespace Entries

variable {Q : Value → Value → Prop} {es es' : Entries}

theorem Related.refl (hQ : ∀ v, Q v v) (es : Entries) : Related Q es es :=
  List.forall₂_same.2 fun e _ => ⟨rfl, hQ e.2⟩

/-- Entries whose values are related have the same fields. -/
theorem Related.has_eq (h : Related Q es es') (name : String) : es'.has name = es.has name := by
  induction h with
  | nil => rfl
  | cons he _ ih =>
    unfold has at ih ⊢
    rw [List.any_cons, List.any_cons, ih, he.1]

/-- A field set to related values. -/
theorem Related.set (h : Related Q es es') (name : String) {v v' : Value} (hv : Q v v') :
    Related Q (es.set name v) (es'.set name v') := by
  unfold Entries.set
  rw [h.has_eq]
  split
  · refine List.forall₂_map_left_iff.2 (List.forall₂_map_right_iff.2 (h.imp ?_))
    rintro ⟨k, w⟩ ⟨_, w'⟩ ⟨rfl, hw⟩
    dsimp only
    split
    · exact ⟨rfl, hv⟩
    · exact ⟨rfl, hw⟩
  · exact List.rel_append h (.cons ⟨rfl, hv⟩ .nil)

/-- Entries stay related when a field is set to related values. -/
theorem related_set (hQ : ∀ v, Q v v) (es : Entries) (name : String) {v v' : Value} (h : Q v v') :
    Related Q (es.set name v) (es.set name v') :=
  (Related.refl hQ es).set name h

theorem Related.setAny (hQ : Value.IsCongruence Q) (h : Related Q es es') (name : String)
    {items items' : List Value} (hitems : List.Forall₂ Q items items') :
    Related Q (es.setAny name items) (es'.setAny name items') := by
  unfold Entries.setAny
  cases hitems with
  | nil => exact h
  | cons hv hrest => exact h.set name (hQ.items (.cons hv hrest))

end Entries

variable {Q : Value → Value → Prop}

/-- Two nodes that are written as related values, with the same name and the same flags. -/
structure Node.Related (Q : Value → Value → Prop) (m n : Node) : Prop where
  data : Q (.ofEntries m.data) (.ofEntries n.data)
  conditions : List.Forall₂ Q (Condition.spread m.data) (Condition.spread n.data)
  label : n.label.ifTruthy = m.label.ifTruthy
  flags : n.flags = m.flags

namespace Block

open Entries

section Entry

variable (hQ : Value.IsCongruence Q) {m n : Node}
  {items items' otherwise otherwise' : List Value}

include hQ

/-- Entries for conditions are related when the nodes and what is in the branches are. -/
theorem related_ifEntry (h : m.Related Q n) (hitems : List.Forall₂ Q items items')
    (hotherwise : List.Forall₂ Q otherwise otherwise') :
    Related Q (ifEntry m items otherwise) (ifEntry n items' otherwise') := by
  have hfront : Related Q ((aliasOf m).merge m.flags) ((aliasOf n).merge n.flags) := by
    rw [aliasOf, aliasOf, h.label, h.flags]
    exact .refl hQ.refl _
  exact ((hfront.set _ (hQ.items h.conditions)).set _ (hQ.items hitems)).setAny hQ _ hotherwise

theorem related_chooseEntry (flags : Entries) (hitems : List.Forall₂ Q items items')
    (hotherwise : List.Forall₂ Q otherwise otherwise') :
    Related Q (chooseEntry flags items otherwise) (chooseEntry flags items' otherwise') :=
  (related_set hQ.refl _ _ (hQ.items hitems)).setAny hQ _ hotherwise

/-- Entries for options are related when the nodes and what is in the bodies are. -/
theorem related_optionEntry (h : m.Related Q n) (hitems : List.Forall₂ Q items items') :
    Related Q (optionEntry m items) (optionEntry n items') := by
  rw [optionEntry, optionEntry, aliasOf, aliasOf, h.label]
  exact List.rel_append (Related.refl hQ.refl _)
    (.cons ⟨rfl, hQ.items h.conditions⟩ (.cons ⟨rfl, hQ.items hitems⟩ .nil))

end Entry

variable {R : Node → Node → Prop}

/-- Options are written as related values when their bodies are. -/
theorem related_optionEntries (hQ : Value.IsCongruence Q) (hR : ∀ m n, R m n → m.Related Q n)
    {options others : List (Node × List Block)} (h : OptionsAlike R options others)
    (hbodies : List.Forall₂ (List.Forall₂ Q) (bodyValues options) (bodyValues others)) :
    List.Forall₂ Q
      ((options.zip (bodyValues options)).map fun o => .ofEntries (optionEntry o.1.1 o.2))
      ((others.zip (bodyValues others)).map fun o => .ofEntries (optionEntry o.1.1 o.2)) := by
  induction options generalizing others with
  | nil =>
    cases h
    exact .nil
  | cons o options ih =>
    cases h with
    | cons hnode _ hrest =>
      simp only [bodyValues, List.forall₂_cons] at hbodies
      exact .cons (hQ.entries (related_optionEntry hQ (hR _ _ hnode) hbodies.1))
        (ih hrest hbodies.2)

mutual
/-- Blocks of one shape are written as related values when their nodes are. -/
theorem Alike.related (hQ : Value.IsCongruence Q) (hR : ∀ m n, R m n → m.Related Q n)
    {a b : Block} : Alike R a b → Q (.ofEntries (toEntries a)) (.ofEntries (toEntries b))
  | .step hnode => by
    rw [toEntries, toEntries]
    exact (hR _ _ hnode).data
  | .choice hoptions hotherwise => by
    have hrest := ListAlike.related hQ hR hotherwise
    have hbodies := OptionsAlike.related hQ hR hoptions
    have hentries := related_optionEntries hQ hR hoptions hbodies
    refine hQ.entries ?_
    -- one option is written as an if block, several as a choose block with the flags of the first
    cases hoptions with
    | nil => exact related_chooseEntry hQ [] .nil hrest
    | cons hnode _ hmore =>
      cases hmore with
      | nil =>
        simp only [bodyValues, List.forall₂_cons] at hbodies
        exact related_ifEntry hQ (hR _ _ hnode) hbodies.1 hrest
      | cons =>
        have hflags := (hR _ _ hnode).flags
        show Related Q (chooseEntry (headFlags _) (List.map _ (List.zip _ (bodyValues _))) _)
          (chooseEntry (headFlags _) (List.map _ (List.zip _ (bodyValues _))) _)
        rw [headFlags, headFlags, hflags]
        exact related_chooseEntry hQ _ hentries hrest

/-- Alike lists are written as related entries, when related nodes are. -/
theorem ListAlike.related (hQ : Value.IsCongruence Q) (hR : ∀ m n, R m n → m.Related Q n)
    {as bs : List Block} : ListAlike R as bs → List.Forall₂ Q (listValues as) (listValues bs)
  | .nil => .nil
  | .cons hblock hrest => .cons (Alike.related hQ hR hblock) (ListAlike.related hQ hR hrest)

/-- The bodies of alike options are written as related entries. -/
theorem OptionsAlike.related (hQ : Value.IsCongruence Q) (hR : ∀ m n, R m n → m.Related Q n)
    {options others : List (Node × List Block)} : OptionsAlike R options others →
    List.Forall₂ (List.Forall₂ Q) (bodyValues options) (bodyValues others)
  | .nil => .nil
  | .cons _ hbody hrest => .cons (ListAlike.related hQ hR hbody) (OptionsAlike.related hQ hR hrest)
end

end Block

namespace Program

variable {R : Node → Node → Prop} (hR : ∀ m n, R m n → m.Related Q n)

include hR

/-- The payloads of nodes are related when the nodes are. -/
theorem related_payloads {ms ns : List Node} (h : List.Forall₂ R ms ns) :
    List.Forall₂ Q (payloads ms) (payloads ns) :=
  List.forall₂_map_left_iff.2 (List.forall₂_map_right_iff.2 (h.imp fun _ _ hn => (hR _ _ hn).data))

/-- Programs of one shape are written as related values when their nodes are. -/
theorem Alike.related_actions (hQ : Value.IsCongruence Q) {p q : Program} (h : p.Alike R q) :
    List.Forall₂ Q p.actions q.actions :=
  Block.ListAlike.related hQ hR h.body

end Program

/-! ## Nodes that are written alike -/

/-- To be equal is a congruence. -/
theorem Value.isCongruence_eq : IsCongruence Eq where
  refl := Eq.refl
  items h := by
    rw [List.forall₂_eq_eq_eq] at h
    rw [h]
  entries h := by
    have heq (e e' : Value × Value) (he : e'.1 = e.1 ∧ e.2 = e'.2) : e = e' :=
      Prod.ext he.1.symm he.2
    have h := h.imp heq
    rw [List.forall₂_eq_eq_eq] at h
    rw [h]

/-- Nodes that are written alike. -/
structure Node.WrittenAlike (m n : Node) : Prop where
  data : n.data = m.data
  label : n.label.ifTruthy = m.label.ifTruthy
  flags : n.flags = m.flags

theorem Node.WrittenAlike.related {m n : Node} (h : m.WrittenAlike n) : m.Related Eq n where
  data := by rw [h.data]
  conditions := by rw [List.forall₂_eq_eq_eq, h.data]
  label := h.label
  flags := h.flags

namespace Program

variable {R : Node → Node → Prop} (hR : ∀ m n, R m n → m.WrittenAlike n)

include hR

/-- Nodes that are written alike have the same payloads. -/
theorem payloads_eq {ms ns : List Node} (h : List.Forall₂ R ms ns) : payloads ns = payloads ms := by
  have h := related_payloads (fun m n hmn => (hR m n hmn).related) h
  rw [List.forall₂_eq_eq_eq] at h
  exact h.symm

/-- Programs of one shape are written alike when their nodes are. -/
theorem Alike.actions_eq {p q : Program} (h : Alike R p q) : q.actions = p.actions := by
  have h := h.related_actions (fun m n hmn => (hR m n hmn).related) Value.isCongruence_eq
  rw [List.forall₂_eq_eq_eq] at h
  exact h.symm

end Program

end Automation
