import Automation.Proofs.Entry
import Automation.Proofs.Program.Derivation
import Automation.Proofs.Text.Plain

/-!
# Names of nodes that are read

A reading names its nodes by their kinds and numbers (`Program.Numbered`). The names of a program
that was read are therefore all different (`Program.SectionsRead.nodup`).
-/

namespace Automation

namespace NodeKind

/-- A kind that a reading creates nodes of is the same as itself. -/
theorem sameKnown_self {kind : NodeKind} (h : kind.isKnown = true) : kind.sameKnown kind = true := by
  cases kind <;> first | rfl | cases h

end NodeKind

namespace Program

/-- The name of a node of a kind behind nodes of the given kinds. -/
def nameOf (created : List NodeKind) (kind : NodeKind) : String :=
  kind.toValue.plain ++ "_" ++ toString (created.countP kind.sameKnown + 1)

/-- Nodes that are named in a row, behind nodes of the given kinds. -/
def Numbered : List NodeKind → List Node → Prop
  | _, [] => True
  | created, n :: ns => (n.id = nameOf created n.kind ∧ n.kind.isKnown = true)
      ∧ Numbered (n.kind :: created) ns

/-- The kinds behind a row of nodes. -/
def kindsAfter (created : List NodeKind) (ns : List Node) : List NodeKind :=
  (ns.map (·.kind)).reverse ++ created

theorem kindsAfter_cons (created : List NodeKind) (n : Node) (ns : List Node) :
    kindsAfter created (n :: ns) = kindsAfter (n.kind :: created) ns := by
  simp [kindsAfter]

/-- What is created in two parts is created in turn. -/
theorem kindsAfter_append (created : List NodeKind) (xs ys : List Node) :
    kindsAfter created (xs ++ ys) = kindsAfter (kindsAfter created xs) ys := by
  simp [kindsAfter]

/-- Nodes are numbered when their first part is, and the rest goes on from there. -/
theorem numbered_append {created : List NodeKind} {xs ys : List Node} :
    Numbered created (xs ++ ys) ↔ Numbered created xs ∧ Numbered (kindsAfter created xs) ys := by
  induction xs generalizing created with
  | nil => simp [Numbered, kindsAfter]
  | cons n xs ih => rw [List.cons_append, Numbered, Numbered, ih, kindsAfter_cons, and_assoc (a := _ ∧ _)]

/-- Names tell the kinds of their nodes, and of nodes of one kind how many there are in front. -/
theorem nameOf_inj {a b : List NodeKind} {k l : NodeKind} (hk : k.isKnown = true)
    (hl : l.isKnown = true) (h : nameOf a k = nameOf b l) :
    k = l ∧ a.countP k.sameKnown = b.countP l.sameKnown := by
  have hlist := congrArg String.toList h
  unfold nameOf at hlist
  rw [String.toList_append, String.toList_append, String.toList_append, String.toList_append]
    at hlist
  -- the names of the kinds differ in their first letter
  have hkind : k = l := by
    cases k <;> cases l <;> first
      | rfl
      | (cases hk; done)
      | (cases hl; done)
      | exact absurd (List.cons.inj hlist).1 (by decide)
  subst hkind
  exact ⟨rfl, Nat.succ.inj (Text.toList_toString_inj (List.append_cancel_left hlist))⟩

/-- A node that is numbered has the name of a known kind. -/
theorem Numbered.exists_of_mem {created : List NodeKind} {ns : List Node} (h : Numbered created ns)
    {m : Node} (hm : m ∈ ns) :
    m.kind.isKnown = true ∧ ∃ before, m.id = nameOf (before ++ created) m.kind := by
  induction ns generalizing created with
  | nil => cases hm
  | cons n ns ih =>
    obtain ⟨⟨hid, hknown⟩, hrest⟩ := h
    rcases List.mem_cons.1 hm with rfl | hm
    · exact ⟨hknown, [], hid⟩
    · obtain ⟨hknown, before, hid⟩ := ih hrest hm
      exact ⟨hknown, before ++ [n.kind], by rw [hid, List.append_assoc]; rfl⟩

/-- No two nodes that are named in a row have one name. -/
theorem Numbered.nodup {created : List NodeKind} {ns : List Node} (h : Numbered created ns) :
    (ns.map (·.id)).Nodup := by
  induction ns generalizing created with
  | nil => exact List.nodup_nil
  | cons n ns ih =>
    obtain ⟨⟨hid, hknown⟩, hrest⟩ := h
    refine List.nodup_cons.2 ⟨fun hmem => ?_, ih hrest⟩
    obtain ⟨m, hm, heq⟩ := List.mem_map.1 hmem
    obtain ⟨hknown', before, hid'⟩ := hrest.exists_of_mem hm
    rw [hid', show (fun x : Node => x.id) n = _ from hid] at heq
    obtain ⟨hkind, hcount⟩ := nameOf_inj hknown' hknown heq
    -- the later node counts the earlier one
    rw [hkind, List.countP_append, List.countP_cons, NodeKind.sameKnown_self hknown, if_pos rfl]
      at hcount
    omega

/-- Nodes that are created one after the other are numbered. -/
theorem numbered_freshNodes {kind : NodeKind} (hkind : kind.isKnown = true) (datas : List Entries)
    (created : List NodeKind) : Numbered created (freshNodes kind created datas) := by
  induction datas generalizing created with
  | nil => trivial
  | cons data datas ih => exact ⟨⟨rfl, hkind⟩, ih (kind :: created)⟩

variable {limits : Limits}

mutual
/-- A block that is read has its nodes named in a row. -/
theorem EntryRead.numbered {levels : Nat} {place : Place} {entry : Value}
    {created after : List NodeKind} {b : Block} :
    EntryRead limits levels place entry created b after →
    Numbered created b.nodes ∧ after = kindsAfter created b.nodes
  | .step hentry hkind _ => ⟨⟨⟨rfl, Entry.isKnown_of_kind hkind⟩, trivial⟩, rfl⟩
  | .gate hentry hkind hdata => ⟨⟨⟨rfl, rfl⟩, trivial⟩, rfl⟩
  | .ifBlock hentry hkind hdata hthen helse => by
    obtain ⟨hnames, rfl⟩ := ListRead.numbered hthen
    obtain ⟨hrest, rfl⟩ := ListRead.numbered helse
    rw [Block.nodes, Block.optionNodes, Block.optionNodes, List.append_nil]
    refine ⟨numbered_append.2 ⟨⟨⟨rfl, rfl⟩, hnames⟩, ?_⟩, ?_⟩
    · rw [kindsAfter_cons]
      exact hrest
    · rw [kindsAfter_append, kindsAfter_cons]
      rfl
  | .chooseBlock hentry hkind hoptions hdefault => by
    obtain ⟨hnames, rfl⟩ := OptionsRead.numbered hoptions
    obtain ⟨hrest, rfl⟩ := ListRead.numbered hdefault
    rw [Block.nodes]
    exact ⟨numbered_append.2 ⟨hnames, hrest⟩, (kindsAfter_append ..).symm⟩

/-- The nodes of a list are numbered in the order in which they are created. -/
theorem ListRead.numbered {levels : Nat} {place : Place} {i : Nat} {entries : List Value}
    {created after : List NodeKind} {bs : List Block} :
    ListRead limits levels place i entries created bs after →
    Numbered created (Block.listNodes bs) ∧ after = kindsAfter created (Block.listNodes bs)
  | .nil => ⟨trivial, rfl⟩
  | .cons hentry hrest => by
    obtain ⟨hnames, rfl⟩ := EntryRead.numbered hentry
    obtain ⟨hothers, rfl⟩ := ListRead.numbered hrest
    rw [Block.listNodes]
    exact ⟨numbered_append.2 ⟨hnames, hothers⟩, (kindsAfter_append ..).symm⟩

/-- The nodes of options are numbered option by option. -/
theorem OptionsRead.numbered {levels : Nat} {place : Place} {i : Nat} {flags : Entries}
    {options : List Value} {created after : List NodeKind} {read : List (Node × List Block)} :
    OptionsRead limits levels place i flags options created read after →
    Numbered created (Block.optionNodes read) ∧ after = kindsAfter created (Block.optionNodes read)
  | .nil => ⟨trivial, rfl⟩
  | .cons hoption hhas hdata hbody hrest => by
    obtain ⟨hnames, rfl⟩ := ListRead.numbered hbody
    obtain ⟨hothers, rfl⟩ := OptionsRead.numbered hrest
    rw [Block.optionNodes]
    refine ⟨numbered_append.2 ⟨⟨⟨rfl, rfl⟩, hnames⟩, ?_⟩, ?_⟩
    · rw [kindsAfter_cons]
      exact hothers
    · rw [kindsAfter_append, kindsAfter_cons]
      rfl
end

section Sections

variable {triggers actions : List Entries} {conditions : List Value} {p : Program}

/-- The nodes of a program that was read are named in a row. -/
theorem SectionsRead.numbered (h : SectionsRead limits triggers conditions actions p) :
    Numbered [] p.nodes := by
  obtain ⟨tests, -, hgates⟩ := h.gates
  obtain ⟨after, hbody⟩ := h.body
  refine numbered_append.2 ⟨numbered_append.2 ⟨?_, ?_⟩, ?_⟩
  · rw [h.triggers]
    exact numbered_freshNodes rfl _ _
  · rw [hgates, kindsAfter, List.append_nil]
    exact numbered_freshNodes rfl _ _
  · rw [kindsAfter, List.append_nil]
    exact hbody.numbered.1

/-- A program that was read has no two nodes of one name. -/
theorem SectionsRead.nodup (h : SectionsRead limits triggers conditions actions p) :
    (p.nodes.map (·.id)).Nodup :=
  h.numbered.nodup

end Sections

end Program

end Automation
