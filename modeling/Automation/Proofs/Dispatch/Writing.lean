import Automation.Dispatch.Loop
import Automation.Proofs.Program.Writing
import Automation.Proofs.Topology.Redrawing

/-!
# What loops are written as

A loop runs its nodes in their order, each by its option, and an option asks the graph only where
runs go on behind its node. So graphs that are walked alike have loops that are related when their
nodes are written as related values (`Dispatch.related_actions`), and the same loop when the nodes
are written alike (`Dispatch.actions_congr`).
-/

namespace Automation.Dispatch

open Entries

/-- Two nodes of one kind that a loop has under one name, written as related values. -/
structure RunAlike (Q : Value → Value → Prop) (m n : Node) : Prop extends m.Related Q n where
  id : n.id = m.id
  kind : n.kind = m.kind

theorem runAlike_of_writtenAlike {m n : Node} (h : m.WrittenAlike n) (hid : n.id = m.id)
    (hkind : n.kind = m.kind) : RunAlike Eq m n :=
  { h.related with id := hid, kind := hkind }

variable {Q : Value → Value → Prop} {g g' : Graph} {f : Edge → Edge}

section Related

variable (hQ : Value.IsCongruence Q) (hg : g.Redrawn f g')

include hQ hg

/-- In the states of nodes that are written as related values a loop does what is related. -/
theorem related_steps (joins : List (String × Option String)) {m n : Node} (h : RunAlike Q m n) :
    List.Forall₂ Q (steps g joins m) (steps g' joins n) := by
  have hassign (target : Option String) : List.Forall₂ Q [assign target] [assign target] :=
    .cons (hQ.refl _) .nil
  unfold steps Graph.whenTrue? Graph.whenFalse?
  dsimp only
  rw [h.kind, h.id, h.flags, hg.branch?_eq, hg.branch?_eq, hg.successor?_eq]
  split
  · have hblock := Block.related_ifEntry hQ h.toRelated (hassign (g.branch? m.id handleTrue))
      (hassign (g.branch? m.id handleFalse))
    refine List.rel_append ?_ (.cons (hQ.entries hblock) .nil)
    split
    · exact hassign _
    · exact .nil
  · exact .cons h.data (hassign _)

/-- Loops over nodes that are written as related values are related. -/
theorem related_actions (htitle : titleOf g' = titleOf g) (limits : Limits)
    (joins : List (String × Option String)) {body others : List Node}
    (h : List.Forall₂ (RunAlike Q) body others) :
    List.Forall₂ Q (actions limits g joins body) (actions limits g' joins others) := by
  have hfields (name other : String) {v v' : Value} (hv : Q v v') {w w' : Value} (hw : Q w w') :
      Q (.ofEntries [(.str name, v), (.str other, w)])
        (.ofEntries [(.str name, v'), (.str other, w')]) :=
    hQ.entries (.cons ⟨rfl, hv⟩ (.cons ⟨rfl, hw⟩ .nil))
  have hoptions : List.Forall₂ Q (body.map (option g joins)) (others.map (option g' joins)) := by
    rw [List.forall₂_map_left_iff, List.forall₂_map_right_iff]
    refine h.imp fun m n hmn => ?_
    unfold option
    rw [hmn.id]
    exact hfields _ _ (hQ.refl _) (hQ.items (related_steps hQ hg joins hmn))
  have hchoice : Q (choice g joins body) (choice g' joins others) := by
    unfold choice
    rw [htitle]
    exact hfields _ _ (hQ.items hoptions) (hQ.refl _)
  have hloop := hfields "sequence" "until" (hQ.items (.cons hchoice .nil))
    (hQ.refl (.ofItems [untilCondition limits]))
  unfold actions ceilingReport
  rw [hg.firstNodes_eq, htitle]
  -- without nodes there is nothing to run on either side
  cases h with
  | nil => exact .nil
  | cons =>
    exact .cons (hQ.refl _) (.cons (hQ.entries (.cons ⟨rfl, hloop⟩ .nil)) (.cons (hQ.refl _) .nil))

end Related

/-- Loops over nodes that are written alike are the same. -/
theorem actions_congr (hg : g.Redrawn f g') (htitle : titleOf g' = titleOf g) (limits : Limits)
    (joins : List (String × Option String)) {body others : List Node}
    (h : List.Forall₂ (RunAlike Eq) body others) :
    actions limits g' joins others = actions limits g joins body := by
  have hactions := related_actions Value.isCongruence_eq hg htitle limits joins h
  rw [List.forall₂_eq_eq_eq] at hactions
  exact hactions.symm

end Automation.Dispatch
