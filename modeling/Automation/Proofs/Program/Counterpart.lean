import Automation.Proofs.Program.Lowering
import Automation.Proofs.Program.Shape
import Automation.Proofs.Topology.Counterpart

/-!
# Programs of graphs that correspond

Graphs that correspond, with reports that agree, are lowered alike: both lowerings fail for the same
reason, or both give a program, and the programs have one shape with related nodes in the places of
each other (`Graph.Counterpart.matches_program`).
-/

namespace Automation

namespace Graph.Counterpart

open Outcome Block

variable {σ : Equiv.Perm String} {R : Node → Node → Prop} {g g' : Graph} {r r' : TopologyReport}
  {limits : Limits} (h : Counterpart σ R g g') (hr : r.Counterpart σ r')

include h

/-- A node is found on both sides or on neither. -/
theorem matches_nodeAt (id : String) :
    Matches (fun m n => R m n ∧ m ∈ g.nodes ∧ m.id = id) (g.nodeAt id) (g'.nodeAt (σ id)) := by
  unfold nodeAt
  cases hlast : g.lastNode? id with
  | none =>
    rw [h.lastNode?_eq_none hlast]
    exact .error _
  | some m =>
    obtain ⟨n, hn, hR⟩ := h.lastNode?_eq hlast
    rw [hn]
    exact .ok ⟨hR, mem_of_lastNode?_eq_some hlast⟩

/-- A node is a gate just if its counterpart is. -/
theorem isGate_eq {m n : Node} (hR : R m n) : g'.isGate n = g.isGate m := by
  have hnode := h.node hR
  unfold isGate
  rw [hnode.kind, hnode.id, whenFalse?, h.branch?_eq, Option.isNone_map, hnode.label, hnode.flags]
  rfl

/-- The gates that lead a program are counterparts, one by one. Induction on the steps. -/
theorem matches_leadingGates (steps : Nat) (current : Option String) :
    Matches (fun x y => List.Forall₂ R x.1 y.1 ∧ y.2 = x.2.map σ)
      (g.leadingGates steps current) (g'.leadingGates steps (current.map σ)) := by
  induction steps generalizing current with
  | zero =>
    cases current with
    | none => exact .ok ⟨.nil, rfl⟩
    | some id => exact .ok ⟨.nil, rfl⟩
  | succ steps ih =>
    cases current with
    | none => exact .ok ⟨.nil, rfl⟩
    | some id =>
      rw [Option.map_some, leadingGates, leadingGates]
      -- a gate leads on where it holds, on both sides
      refine (h.matches_nodeAt id).bind fun m n hR => ?_
      obtain ⟨hR, -⟩ := hR
      rw [h.isGate_eq hR]
      split
      · rw [whenTrue?, whenTrue?, h.branch?_eq]
        exact (ih (g.branch? id handleTrue)).bind fun x y hxy => .ok ⟨.cons hR hxy.1, hxy.2⟩
      · exact .ok ⟨.nil, rfl⟩

include hr

/-- The further options of a block are counterparts, one by one. Induction on the steps. -/
theorem matches_furtherOptions (join : Option String) (steps : Nat) (id : String) :
    Matches (List.Forall₂ R) (g.furtherOptions r join steps id)
      (g'.furtherOptions r' (join.map σ) steps (σ id)) := by
  have hsame (target : Option String) : target.map σ = join.map σ ↔ target = join :=
    (Option.map_injective σ.injective).eq_iff
  induction steps generalizing id with
  | zero => exact .ok .nil
  | succ steps ih =>
    rw [furtherOptions, furtherOptions, whenFalse?, whenFalse?, h.branch?_eq]
    cases g.branch? id handleFalse with
    | none => exact .ok .nil
    | some target =>
      have htarget : some (σ target) = join.map σ ↔ some target = join := hsame (some target)
      dsimp only [Option.map_some]
      -- an option that fails to the join is the last one, before and behind the renaming
      by_cases hjoin : some target = join
      · rw [if_pos hjoin, if_pos (htarget.2 hjoin)]
        exact .ok .nil
      · rw [if_neg hjoin, if_neg (mt htarget.1 hjoin)]
        refine (h.matches_nodeAt target).bind fun m n hR => ?_
        have hnode := h.node hR.1
        rw [hnode.kind, hnode.flags, h.length_incoming, hr.join?]
        simp only [hsame]
        split
        · exact (ih target).bind fun x y hxy => .ok (.cons hR.1 hxy)
        · exact .ok .nil

omit h hr in
/-- Options with related conditions and bodies of one shape. -/
theorem optionsAlike_of_forall₂ {options others : List (Node × List Block)}
    (h : List.Forall₂ (fun x y => R x.1 y.1 ∧ ListAlike R x.2 y.2) options others) :
    OptionsAlike R options others := by
  induction h with
  | nil => exact .nil
  | cons hxy _ ih => exact .cons hxy.1 hxy.2 ih

/-- Conditions that correspond are lowered to choices of one shape, when walks with fewer steps are
lowered alike. -/
theorem matches_lowerChoice {steps : Nat}
    (hwalks : ∀ (stop : Option String) (levels : Nat) (current : Option String),
      Matches (ListAlike R) (g.lowerFrom limits r stop steps levels current)
        (g'.lowerFrom limits r' (stop.map σ) steps levels (current.map σ)))
    (levels : Nat) {m n : Node} (hR : R m n) :
    Matches (Alike R) (g.lowerChoice limits r steps levels m)
      (g'.lowerChoice limits r' steps levels n) := by
  have hbranch (target : Option String) : Matches (ListAlike R)
      (lowerBranch limits g r (r.join? m.id) steps levels target)
      (lowerBranch limits g' r' ((r.join? m.id).map σ) steps levels (target.map σ)) := by
    cases target with
    | none => exact .ok .nil
    | some target =>
      cases levels with
      | zero => exact .error _
      | succ levels => exact hwalks (r.join? m.id) levels (some target)
  rw [lowerChoice, lowerChoice, (h.node hR).id, hr.join?]
  refine (h.matches_furtherOptions hr (r.join? m.id) steps m.id).bind fun more more' hmore => ?_
  have hchain : List.Forall₂ R (m :: more) (n :: more') := .cons hR hmore
  refine (Matches.mapM (P := fun x y => R x.1 y.1 ∧ ListAlike R x.2 y.2) hchain
    fun a b hab => ?_).bind fun options options' hoptions => ?_
  · rw [(h.node hab).id, whenTrue?, whenTrue?, h.branch?_eq]
    exact (hbranch _).bind fun x y hxy => .ok ⟨hab, hxy⟩
  · -- the last condition of the choice is in the same place on both sides
    have hlast : (((n :: more').getLast?.map (·.id)).bind g'.whenFalse?)
        = (((m :: more).getLast?.map (·.id)).bind g.whenFalse?).map σ := by
      rw [← List.getLast?_map, h.map_id hchain, ← List.getLast?_map (l := m :: more),
        List.getLast?_map]
      cases ((m :: more).map (·.id)).getLast? with
      | none => rfl
      | some id => exact h.branch?_eq id handleFalse
    rw [hlast]
    exact (hbranch _).bind fun otherwise otherwise' hotherwise =>
      .ok (.choice (optionsAlike_of_forall₂ hoptions) hotherwise)

/-- Both sides are lowered alike, or both fail for the same reason. Induction on the levels. -/
theorem matches_lowerFrom (stop : Option String) (steps levels : Nat) (current : Option String) :
    Matches (ListAlike R) (g.lowerFrom limits r stop steps levels current)
      (g'.lowerFrom limits r' (stop.map σ) steps levels (current.map σ)) := by
  induction steps generalizing stop levels current with
  | zero => exact .ok .nil
  | succ steps ih =>
    cases current with
    | none => exact .ok .nil
    | some id =>
      by_cases hstop : stop = some id
      · rw [← hstop, lowerFrom_stop, lowerFrom_stop]
        exact .ok .nil
      have hstop' : stop.map σ ≠ some (σ id) :=
        mt (fun h => Option.map_injective σ.injective h) hstop
      rw [Option.map_some, lowerFrom_succ hstop, lowerFrom_succ hstop']
      refine (h.matches_nodeAt id).bind fun m n hR => ?_
      obtain ⟨hR, hm, rfl⟩ := hR
      have hnode := h.node hR
      -- what the walk stops at, and what it goes on at, are renamed alike
      have hblock : Matches (Alike R) (g.lowerNode limits r steps levels m)
          (g'.lowerNode limits r' steps levels n) := by
        rw [lowerNode, lowerNode, hnode.kind, h.isGate_eq hR]
        split
        · exact h.matches_lowerChoice hr (fun stop levels => ih stop levels) levels hR
        · exact .ok (.step hR)
      have hbehind : g'.behind? r' n = (g.behind? r m).map σ := by
        rw [behind?, behind?, hnode.kind, h.isGate_eq hR, hnode.id, hr.join?]
        split
        · rename_i hcondition
          exact h.successor?_eq (by simpa [h.left.isConditionAt_of_mem hm] using hcondition)
        · split
          · exact h.branch?_eq _ _
          · rfl
      rw [hbehind]
      exact hblock.bind fun b b' hb => (ih stop levels _).bind fun x y hxy => .ok (.cons hb hxy)

/-- Graphs that correspond are lowered alike. -/
theorem matches_program :
    Matches (Program.Alike R) (g.program limits r) (g'.program limits r') := by
  unfold program stepBound
  rw [h.length_nodes, hr.entry]
  refine (h.matches_leadingGates _ _).bind fun x y hxy => ?_
  obtain ⟨gates, next⟩ := x
  obtain ⟨gates', next'⟩ := y
  dsimp only at hxy ⊢
  rw [hxy.2]
  split
  · exact .error _
  · exact (h.matches_lowerFrom hr none _ _ next).bind fun a b hab => .ok ⟨h.triggers, hxy.1, hab⟩

end Graph.Counterpart

end Automation
