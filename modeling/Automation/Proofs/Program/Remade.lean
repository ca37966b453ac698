import Automation.Proofs.Program.Restoring
import Automation.Proofs.Program.Settled
import Automation.Proofs.Program.Writing
import Automation.Proofs.Value.Stripped

/-!
# Nodes that are made again

What a reader makes of a node that was written is the same node when it is settled: the same
payload, up to the origins of what stands in it, the same name and the same flags
(`Node.Settled.remade`). So it is written as the same value again, up to origins
(`Node.Remade.related`).
-/

namespace Automation

open Entries

/-- Two values that are one value without their origins. -/
abbrev Value.SameStripped (v v' : Value) : Prop := v'.stripped = v.stripped

/-- To be the same up to origins is a congruence. -/
theorem Value.isCongruence_sameStripped : IsCongruence SameStripped where
  refl _ := rfl
  items h := by
    show (ofItems _).stripped = (ofItems _).stripped
    rw [ofItems, stripped_list, ofItems, stripped_list]
    refine congrArg (list {}) (List.forall₂_eq_eq_eq ▸ List.forall₂_map_left_iff.2 ?_)
    exact List.forall₂_map_right_iff.2 (List.Forall₂.flip h)
  entries h := by
    show Value.map {} (Entries.stripped _) = .map {} (Entries.stripped _)
    refine congrArg (map {}) ?_
    rw [Entries.stripped_eq_map, Entries.stripped_eq_map]
    refine List.forall₂_eq_eq_eq ▸ List.forall₂_map_left_iff.2 (List.forall₂_map_right_iff.2 ?_)
    exact (List.Forall₂.flip h).imp fun _ _ he => Prod.ext (congrArg Value.stripped he.1) he.2

/-- The conditions that a payload stands for, without their origins. -/
theorem Condition.spread_stripped (data : Entries) :
    (spread data).map Value.stripped = spread data.stripped := by
  have hget (name : String) : data.stripped.get name = (data.get name).stripped := by
    rw [Entries.get, Entries.get?_stripped, Entries.get]
    cases data.get? name <;> rfl
  unfold spread
  rw [hget, hget, Value.isText_stripped, Entries.stripped_eq_map, List.length_map,
    ← Entries.stripped_eq_map]
  cases data.get "conditions" with
  | list o parts =>
    rw [Value.stripped_list]
    dsimp only
    rw [List.length_map]
    split <;> rfl
  | _ => rfl

/-- Two nodes that are written as one, up to the origins of what stands in their payloads. -/
structure Node.Remade (m n : Node) : Prop where
  kind : n.kind = m.kind
  data : n.data.stripped = m.data.stripped
  label : n.label.ifTruthy = m.label.ifTruthy
  flags : n.flags = m.flags

namespace Node

variable {limits : Limits} {m n : Node}

/-- A node that was made again has payloads that are the same up to origins. -/
theorem Remade.related (h : m.Remade n) : m.Related Value.SameStripped n where
  data := congrArg (Value.map {}) h.data
  conditions := by
    have heq : (Condition.spread n.data).map Value.stripped
        = (Condition.spread m.data).map Value.stripped := by
      rw [Condition.spread_stripped, Condition.spread_stripped, h.data]
    refine List.Forall₂.flip ?_
    rw [← List.forall₂_eq_eq_eq, List.forall₂_map_left_iff, List.forall₂_map_right_iff] at heq
    exact heq
  label := h.label
  flags := h.flags

theorem Rereads.kind (h : m.Rereads limits n) : m.kind = n.kind := by
  cases h with
  | trigger htrigger => exact (NodeKind.isTrigger_iff.1 htrigger).symm
  | condition hcondition => exact (NodeKind.isCondition_iff.1 hcondition).symm
  | step => rfl

/-- A reader puts no node anywhere. -/
theorem Rereads.position (h : m.Rereads limits n) : m.position = none := by
  cases h <;> rfl

/-- What a reader makes of a settled node is the node, up to origins. -/
theorem Settled.remade (hn : n.Settled limits) (h : m.Rereads limits n) : n.Remade m := by
  cases h with
  | trigger htrigger =>
    have hkind := NodeKind.isTrigger_iff.1 htrigger
    obtain ⟨hlabel, hflags⟩ := hn.bare (by rw [hkind]; rfl)
    exact ⟨hkind.symm, rfl, by rw [hlabel], hflags.symm⟩
  | condition hcondition hdata hlabel hflags =>
    subst hlabel hflags
    -- what was read of a normal payload is the payload
    have hkept := hn.normal hcondition
    rw [hdata] at hkept
    obtain ⟨es, heq⟩ := hn.flags
    refine ⟨(NodeKind.isCondition_iff.1 hcondition).symm, by rw [Except.ok.inj hkept],
      Value.ifTruthy_getD_ifTruthy _, ?_⟩
    show Entry.flagsOf n.flags = n.flags
    rw [heq, Entry.flagsOf_flagsOf]
  | step place htrigger hcondition hdata =>
    subst hdata
    obtain ⟨hlabel, hflags⟩ := hn.bare hcondition
    obtain ⟨-, hmodern⟩ := hn.step htrigger hcondition
    exact ⟨rfl, (Entry.modernStep_apart hmodern place).1, by rw [hlabel], hflags.symm⟩

end Node

end Automation
