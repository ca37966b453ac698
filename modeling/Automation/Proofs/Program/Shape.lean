import Automation.Program.Basic
import Mathlib.Data.List.Forall2

/-!
# Programs of one shape

Two programs are alike when they have the same shape, with related nodes in the places of each other
(`Program.Alike`). When the ids of the one become those of the other by renaming, so do its edges
(`Program.Alike.map_edges`): how a program is wired depends on its shape alone.
-/

namespace Automation

/-- An open end of a node under another id. -/
def OpenEnd.rename (f : String → String) (x : OpenEnd) : OpenEnd := (f x.1, x.2)

/-- An edge between nodes under other ids. -/
def Edge.rename (f : String → String) (e : Edge) : Edge :=
  .between (f e.source) (f e.target) e.handle e.label

namespace Block

mutual
/-- Blocks of one shape, with related nodes. -/
inductive Alike (R : Node → Node → Prop) : Block → Block → Prop where
  | step {m n : Node} (hnode : R m n) : Alike R (.step m) (.step n)
  | choice {options others : List (Node × List Block)} {otherwise rest : List Block}
    (hoptions : OptionsAlike R options others) (hotherwise : ListAlike R otherwise rest) :
    Alike R (.choice options otherwise) (.choice others rest)

/-- Lists of blocks of one shape. -/
inductive ListAlike (R : Node → Node → Prop) : List Block → List Block → Prop where
  | nil : ListAlike R [] []
  | cons {a b : Block} {as bs : List Block} (hblock : Alike R a b) (hrest : ListAlike R as bs) :
    ListAlike R (a :: as) (b :: bs)

/-- Options of one shape. -/
inductive OptionsAlike (R : Node → Node → Prop) :
    List (Node × List Block) → List (Node × List Block) → Prop where
  | nil : OptionsAlike R [] []
  | cons {m n : Node} {as bs : List Block} {options others : List (Node × List Block)}
    (hnode : R m n) (hbody : ListAlike R as bs) (hrest : OptionsAlike R options others) :
    OptionsAlike R ((m, as) :: options) ((n, bs) :: others)
end

variable {R Q : Node → Node → Prop}

mutual
/-- Nodes in the places of each other are related. -/
theorem Alike.nodes {a b : Block} : Alike R a b → List.Forall₂ R a.nodes b.nodes
  | .step hnode => .cons hnode .nil
  | .choice hoptions hotherwise => by
    rw [Block.nodes, Block.nodes]
    exact List.rel_append (OptionsAlike.nodes hoptions) (ListAlike.nodes hotherwise)

/-- Alike lists have related nodes, one by one. -/
theorem ListAlike.nodes {as bs : List Block} :
    ListAlike R as bs → List.Forall₂ R (listNodes as) (listNodes bs)
  | .nil => .nil
  | .cons hblock hrest => by
    rw [listNodes, listNodes]
    exact List.rel_append (Alike.nodes hblock) (ListAlike.nodes hrest)

/-- Alike options have related nodes, one by one. -/
theorem OptionsAlike.nodes {options others : List (Node × List Block)} :
    OptionsAlike R options others → List.Forall₂ R (optionNodes options) (optionNodes others)
  | .nil => .nil
  | .cons hnode hbody hrest => by
    rw [optionNodes, optionNodes]
    exact .cons hnode (List.rel_append (ListAlike.nodes hbody) (OptionsAlike.nodes hrest))
end

/-- The pairs of two lists put together, the first parts of which are of one length. -/
theorem mem_zip_append {α β : Type} {as cs : List α} {bs ds : List β} (h : as.length = bs.length)
    {x : α × β} : x ∈ (as ++ cs).zip (bs ++ ds) ↔ x ∈ as.zip bs ∨ x ∈ cs.zip ds := by
  rw [List.zip_append h, List.mem_append]

mutual
/-- What holds of the pairs of nodes in the places of each other may be asked of the pairs alone. -/
theorem Alike.imp_of_mem {a b : Block} :
    Alike R a b → (∀ x ∈ a.nodes.zip b.nodes, R x.1 x.2 → Q x.1 x.2) → Alike Q a b
  | .step hnode, h => .step (h _ List.mem_cons_self hnode)
  | .choice hoptions hotherwise, h => by
    rw [Block.nodes, Block.nodes] at h
    have hlength := (OptionsAlike.nodes hoptions).length_eq
    exact .choice
      (hoptions.imp_of_mem fun x hx => h x ((mem_zip_append hlength).2 (.inl hx)))
      (hotherwise.imp_of_mem fun x hx => h x ((mem_zip_append hlength).2 (.inr hx)))

/-- What is related need only imply more for the nodes that are there. -/
theorem ListAlike.imp_of_mem {as bs : List Block} :
    ListAlike R as bs → (∀ x ∈ (listNodes as).zip (listNodes bs), R x.1 x.2 → Q x.1 x.2) →
    ListAlike Q as bs
  | .nil, _ => .nil
  | .cons hblock hrest, h => by
    rw [listNodes, listNodes] at h
    have hlength := (Alike.nodes hblock).length_eq
    exact .cons
      (hblock.imp_of_mem fun x hx => h x ((mem_zip_append hlength).2 (.inl hx)))
      (hrest.imp_of_mem fun x hx => h x ((mem_zip_append hlength).2 (.inr hx)))

theorem OptionsAlike.imp_of_mem {options others : List (Node × List Block)} :
    OptionsAlike R options others →
    (∀ x ∈ (optionNodes options).zip (optionNodes others), R x.1 x.2 → Q x.1 x.2) →
    OptionsAlike Q options others
  | .nil, _ => .nil
  | .cons hnode hbody hrest, h => by
    rw [optionNodes, optionNodes, List.cons_append, List.cons_append, List.zip_cons_cons] at h
    have hlength := (ListAlike.nodes hbody).length_eq
    exact .cons (h _ List.mem_cons_self hnode)
      (hbody.imp_of_mem fun x hx =>
        h x (List.mem_cons_of_mem _ ((mem_zip_append hlength).2 (.inl hx))))
      (hrest.imp_of_mem fun x hx =>
        h x (List.mem_cons_of_mem _ ((mem_zip_append hlength).2 (.inr hx))))
end

/-! ## Wiring -/

/-- Two nodes of one kind, the second under the name that the first one gets. -/
structure Renamed (f : String → String) (m n : Node) : Prop where
  id : f m.id = n.id
  kind : m.kind = n.kind

variable {f : String → String}

/-- A join of renamed ends leads to the renamed node. -/
theorem map_rename_join (ends : List OpenEnd) (id : String) :
    (join ends id).map (Edge.rename f) = join (ends.map (OpenEnd.rename f)) (f id) := by
  unfold join
  rw [List.map_map, List.map_map]
  rfl

theorem Renamed.exit {m n : Node} (h : Renamed f m n) : m.exit.rename f = n.exit := by
  rw [Node.exit, Node.exit, OpenEnd.rename, h.id, h.kind]

mutual
/-- A block is wired like another under other ids. -/
theorem Alike.wire {a b : Block} (ends : List OpenEnd) : Alike (Renamed f) a b →
    (Block.wire ends a).1.map (Edge.rename f) = (Block.wire (ends.map (OpenEnd.rename f)) b).1
      ∧ (Block.wire ends a).2.map (OpenEnd.rename f)
        = (Block.wire (ends.map (OpenEnd.rename f)) b).2
  | .step hnode => by
    rw [Block.wire, Block.wire, map_rename_join, hnode.id, List.map_singleton, hnode.exit]
    exact ⟨rfl, rfl⟩
  | .choice hoptions hotherwise => by
    obtain ⟨htried, hexits, hpending⟩ := OptionsAlike.wire ends hoptions
    obtain ⟨hlast, hleft⟩ := ListAlike.wire _ hotherwise
    rw [Block.wire, Block.wire]
    dsimp only
    rw [List.map_append, List.map_append, htried, hexits, hlast, hleft, hpending]
    exact ⟨rfl, rfl⟩

/-- Lists with renamed nodes are wired alike: the edges are renamed, and so are the ends that are
left. -/
theorem ListAlike.wire {as bs : List Block} (ends : List OpenEnd) : ListAlike (Renamed f) as bs →
    (wireList ends as).1.map (Edge.rename f) = (wireList (ends.map (OpenEnd.rename f)) bs).1
      ∧ (wireList ends as).2.map (OpenEnd.rename f)
        = (wireList (ends.map (OpenEnd.rename f)) bs).2
  | .nil => by
    rw [wireList, wireList]
    exact ⟨rfl, rfl⟩
  | .cons hblock hrest => by
    obtain ⟨hfirst, hends⟩ := Alike.wire ends hblock
    obtain ⟨hothers, hleft⟩ := ListAlike.wire _ hrest
    rw [wireList, wireList]
    dsimp only
    rw [List.map_append, hfirst, hothers, hleft, hends]
    exact ⟨rfl, rfl⟩

/-- Options with renamed nodes are wired alike. -/
theorem OptionsAlike.wire {options others : List (Node × List Block)} (ends : List OpenEnd) :
    OptionsAlike (Renamed f) options others →
    (wireOptions ends options).edges.map (Edge.rename f)
        = (wireOptions (ends.map (OpenEnd.rename f)) others).edges
      ∧ (wireOptions ends options).exits.map (OpenEnd.rename f)
        = (wireOptions (ends.map (OpenEnd.rename f)) others).exits
      ∧ (wireOptions ends options).pending.map (OpenEnd.rename f)
        = (wireOptions (ends.map (OpenEnd.rename f)) others).pending
  | .nil => by
    rw [wireOptions, wireOptions]
    exact ⟨rfl, rfl, rfl⟩
  | .cons (m := m) (n := n) hnode hbody hrest => by
    obtain ⟨hinner, hexits⟩ := ListAlike.wire [(m.id, some handleTrue)] hbody
    obtain ⟨hothers, hleft, hpending⟩ := OptionsAlike.wire [(m.id, some handleFalse)] hrest
    -- the ends that an option leaves open are renamed with its node
    have hend (handle : String) : ([(m.id, some handle)] : List OpenEnd).map (OpenEnd.rename f)
        = [(n.id, some handle)] := by
      rw [List.map_singleton, OpenEnd.rename, hnode.id]
    rw [hend] at hinner hexits hothers hleft hpending
    rw [wireOptions, wireOptions]
    dsimp only
    rw [List.map_append, List.map_append, List.map_append, map_rename_join, hnode.id, hinner,
      hothers, hexits, hleft, hpending]
    exact ⟨rfl, rfl, rfl⟩
end

/-- Gates are wired like others under other ids. -/
theorem wireGates_of_renamed {gates others : List Node} (h : List.Forall₂ (Renamed f) gates others)
    (ends : List OpenEnd) :
    (wireGates ends gates).1.map (Edge.rename f)
        = (wireGates (ends.map (OpenEnd.rename f)) others).1
      ∧ (wireGates ends gates).2.map (OpenEnd.rename f)
        = (wireGates (ends.map (OpenEnd.rename f)) others).2 := by
  induction h generalizing ends with
  | nil => exact ⟨rfl, rfl⟩
  | @cons m n gates others hnode _ ih =>
    obtain ⟨hedges, hleft⟩ := ih [(m.id, some handleTrue)]
    rw [List.map_singleton, OpenEnd.rename, hnode.id] at hedges hleft
    rw [wireGates, wireGates]
    dsimp only
    rw [List.map_append, map_rename_join, hnode.id, hedges, hleft]
    exact ⟨rfl, rfl⟩

end Block

namespace Program

/-- Programs of one shape, with related nodes. -/
structure Alike (R : Node → Node → Prop) (p q : Program) : Prop where
  triggers : List.Forall₂ R p.triggers q.triggers
  gates : List.Forall₂ R p.gates q.gates
  body : Block.ListAlike R p.body q.body

variable {R Q : Node → Node → Prop} {p q : Program}

/-- Alike programs have related nodes, one by one. -/
theorem Alike.nodes (h : p.Alike R q) : List.Forall₂ R p.nodes q.nodes :=
  List.rel_append (List.rel_append h.triggers h.gates) h.body.nodes

theorem Alike.imp_of_mem (h : p.Alike R q)
    (himp : ∀ x ∈ p.nodes.zip q.nodes, R x.1 x.2 → Q x.1 x.2) : p.Alike Q q := by
  have hlist {as bs : List Node} (hab : List.Forall₂ R as bs)
      (hmem : ∀ x ∈ as.zip bs, x ∈ p.nodes.zip q.nodes) : List.Forall₂ Q as bs :=
    List.forall₂_iff_zip.2 ⟨hab.length_eq, fun hx =>
      himp _ (hmem _ hx) ((List.forall₂_iff_zip.1 hab).2 hx)⟩
  have hfront := List.rel_append h.triggers h.gates
  have hmem {x : Node × Node} (hx : x ∈ p.triggers.zip q.triggers ∨ x ∈ p.gates.zip q.gates
      ∨ x ∈ (Block.listNodes p.body).zip (Block.listNodes q.body)) : x ∈ p.nodes.zip q.nodes := by
    rw [Program.nodes, Program.nodes, Block.mem_zip_append hfront.length_eq,
      Block.mem_zip_append h.triggers.length_eq, or_assoc]
    exact hx
  exact ⟨hlist h.triggers fun x hx => hmem (.inl hx), hlist h.gates fun x hx => hmem (.inr (.inl hx)),
    h.body.imp_of_mem fun x hx => himp x (hmem (.inr (.inr hx)))⟩

/-- The edges of a program are those of another under other ids. -/
theorem Alike.map_edges {f : String → String} (h : p.Alike (Block.Renamed f) q) :
    p.edges.map (Edge.rename f) = q.edges := by
  have hends : (p.triggers.map fun t : Node => ((t.id, none) : OpenEnd)).map (OpenEnd.rename f)
      = q.triggers.map fun t => (t.id, none) := by
    rw [List.map_map]
    refine List.forall₂_eq_eq_eq ▸ List.forall₂_map_left_iff.2 (List.forall₂_map_right_iff.2 ?_)
    exact h.triggers.imp fun m n hnode => by
      rw [Function.comp_apply, OpenEnd.rename, hnode.id]
  obtain ⟨hgates, hleft⟩ := Block.wireGates_of_renamed h.gates
    (p.triggers.map fun t => (t.id, none))
  obtain ⟨hbody, -⟩ := h.body.wire (Block.wireGates (p.triggers.map fun t => (t.id, none)) p.gates).2
  rw [hends] at hgates hleft
  rw [hleft] at hbody
  unfold edges
  dsimp only
  rw [List.map_append, hgates, hbody]

end Program

end Automation
