import Automation.Proofs.Graph.Descent
import Automation.Proofs.Outcome
import Automation.Proofs.Topology.Listing
import Automation.Proofs.Value.Entries
import Automation.Proofs.Value.Same
import Mathlib.Data.Set.Function

/-!
# Equivalence is isomorphism

Two graphs are isomorphic when the nodes of one are those of the other under new ids, with the same
kinds and payloads, the triggers in the same order, and the edges of the one between the nodes of
the other (`Graph.Isomorphism`). Well-formed graphs that are found to be equivalent are isomorphic,
and isomorphic graphs are found to be equivalent when triggers lead to every node
(`Graph.equivalent_isomorphic`).

Equivalence numbers the nodes of both graphs in their canonical orders. Graphs whose orders
correspond are equivalent exactly when they are isomorphic (`Graph.equivalent_iff_isomorphism`), and
an isomorphism takes the one walk along with the other (`Isomorphism.descend_map`): at most one edge
for each outcome leads out of a node, so the structure alone decides how a walk goes on.
-/

namespace Automation

/-! ## Nodes that agree -/

namespace NodeKind

theorem toValue_inj {k l : NodeKind} (hk : k.isKnown = true) (hl : l.isKnown = true)
    (h : k.toValue = l.toValue) : k = l := by
  rw [← ofValue_toValue hk, h, ofValue_toValue hl]

/-- The names of known kinds are texts. -/
theorem exists_toValue_eq_str {k : NodeKind} (h : k.isKnown = true) :
    ∃ name, k.toValue = .str name := by
  cases k with
  | foreign name => cases h
  | _ => exact ⟨_, rfl⟩

/-- Known kinds have the same name only when they are the same. -/
theorem agrees_toValue_iff {k l : NodeKind} (hk : k.isKnown = true) (hl : l.isKnown = true) :
    k.toValue.agrees l.toValue = true ↔ k = l := by
  obtain ⟨name, hname⟩ := exists_toValue_eq_str hl
  refine ⟨fun h => toValue_inj hk hl ?_, fun h => h ▸ Value.agrees_refl _⟩
  rw [hname] at h ⊢
  rw [Value.agrees_str, Value.isText_iff] at h
  exact h

end NodeKind

/-- Nodes of known kinds agree when they are of one kind and have the same payload, label and
flags. -/
theorem Node.agrees_iff {m n : Node} (hm : m.kind.isKnown = true) (hn : n.kind.isKnown = true) :
    m.agrees n = true ↔ m.kind = n.kind ∧ (Value.ofEntries m.data).same (.ofEntries n.data) = true
      ∧ m.label.agrees n.label = true
      ∧ (Value.ofEntries m.flags).same (.ofEntries n.flags) = true := by
  unfold Node.agrees
  rw [Bool.and_eq_true, Bool.and_eq_true, Bool.and_eq_true, NodeKind.agrees_toValue_iff hm hn]
  tauto

/-! ## Lists under new names -/

/-- A list without repetitions becomes any list of the same length under some renaming. -/
theorem exists_eq_map_of_nodup {xs ys : List String} (h : xs.Nodup)
    (hlength : ys.length = xs.length) : ∃ f : String → String, ys = xs.map f := by
  induction xs generalizing ys with
  | nil => exact ⟨id, List.length_eq_zero_iff.1 hlength⟩
  | cons x xs ih =>
    obtain ⟨hnew, hnodup⟩ := List.nodup_cons.1 h
    cases ys with
    | nil => cases hlength
    | cons y ys =>
      obtain ⟨f, rfl⟩ := ih hnodup (by simpa using hlength)
      refine ⟨Function.update f x y, ?_⟩
      rw [List.map_cons, Function.update_self]
      refine congrArg (y :: ·) (List.map_congr_left fun z hz => ?_)
      rw [Function.update_of_ne (by rintro rfl; exact hnew hz)]

/-- A renaming that tells ids apart keeps their numbers. -/
theorem idxOf_map_of_injOn {f : String → String} {xs : List String} {x : String} (hx : x ∈ xs)
    (h : ∀ y ∈ xs, f y = f x → y = x) : (xs.map f).idxOf (f x) = xs.idxOf x := by
  induction xs with
  | nil => cases hx
  | cons y xs ih =>
    obtain ⟨hy, h⟩ := List.forall_mem_cons.1 h
    rw [List.map_cons]
    by_cases heq : y = x
    · rw [heq, List.idxOf_cons_self, List.idxOf_cons_self]
    · rw [List.idxOf_cons_ne _ fun hf => heq (hy hf), List.idxOf_cons_ne _ heq,
        ih ((List.mem_cons.1 hx).resolve_left (Ne.symm heq)) h]

namespace Graph

/-- The ends of an edge under new names. -/
def renameEnds (f : String → String) (x : String × String × Option String) :
    String × String × Option String :=
  (f x.1, f x.2.1, x.2.2)

/-- The nodes of one graph are those of another under new ids: of the same kinds, with payloads,
labels and flags that count as the same. The triggers come in the same order, and the edges lead
between the same nodes by the same handles. -/
structure Isomorphism (f : String → String) (g g' : Graph) : Prop where
  ids : Set.BijOn f {id | id ∈ g.nodes.map (·.id)} {id | id ∈ g'.nodes.map (·.id)}
  node : ∀ m ∈ g.nodes, ∀ n ∈ g'.nodes, n.id = f m.id →
    m.kind = n.kind ∧ (Value.ofEntries m.data).same (.ofEntries n.data) = true
      ∧ m.label.agrees n.label = true
      ∧ (Value.ofEntries m.flags).same (.ofEntries n.flags) = true
  triggers : g'.triggers.map (·.id) = (g.triggers.map (·.id)).map f
  edges : ((g.edges.map Edge.ends).map (renameEnds f)).Perm (g'.edges.map Edge.ends)

variable {g g' : Graph} {f : String → String}

/-! ## Canonical forms -/

/-- The numbers of the ends of an edge. -/
def numbersOf (order : List String) (x : String × String × Option String) :
    Nat × Nat × Option String :=
  (order.idxOf x.1, order.idxOf x.2.1, x.2.2)

/-- The node that a look-up by an id gives. -/
def found (g : Graph) (id : String) : Node := (g.lastNode? id).getD default

theorem WellFormed.found_of_mem (hwf : g.WellFormed) {n : Node} (hn : n ∈ g.nodes) :
    g.found n.id = n := by
  rw [found, hwf.lastNode?_of_mem hn, Option.getD_some]

theorem WellFormed.mem_canonicalOrder (hwf : g.WellFormed) {id : String} :
    id ∈ g.canonicalOrder ↔ id ∈ g.nodes.map (·.id) :=
  hwf.perm_canonicalOrder.mem_iff

/-- Both ends of an edge are in the canonical order. -/
theorem WellFormed.ends_mem_canonicalOrder (hwf : g.WellFormed)
    {x : String × String × Option String} (hx : x ∈ g.edges.map Edge.ends) :
    x.1 ∈ g.canonicalOrder ∧ x.2.1 ∈ g.canonicalOrder := by
  obtain ⟨e, he, rfl⟩ := List.mem_map.1 hx
  obtain ⟨-, m, hm, n, hn, hsource, htarget, -⟩ := hwf.edge he
  rw [hwf.mem_canonicalOrder, hwf.mem_canonicalOrder, Edge.ends, hsource, htarget]
  exact ⟨List.mem_map_of_mem hm, List.mem_map_of_mem hn⟩

/-- A well-formed graph has a canonical form: its nodes in canonical order, and the numbers of its
edges. -/
theorem WellFormed.canonical_eq (hwf : g.WellFormed) : g.canonical = .ok
    { nodes := g.canonicalOrder.map g.found
      edges := (g.edges.map Edge.ends).map (numbersOf g.canonicalOrder) } := by
  have hnodes : g.canonicalOrder.mapM (fun id => Outcome.orFault (g.lastNode? id) .key)
      = .ok (g.canonicalOrder.map g.found) :=
    Outcome.mapM_eq_ok_of_forall fun id hid => by
      obtain ⟨n, hn, rfl⟩ := List.mem_map.1 (hwf.mem_canonicalOrder.1 hid)
      rw [hwf.lastNode?_of_mem hn, hwf.found_of_mem hn]
      rfl
  -- all nodes are in the order, so each has a number in it
  have hnumber {id : String} (hid : id ∈ g.canonicalOrder) :
      Outcome.orFault (g.canonicalOrder.idxOf? id) .key = .ok (g.canonicalOrder.idxOf id) := by
    obtain ⟨i, hi⟩ := Option.isSome_iff_exists.1 (List.isSome_idxOf?.2 hid)
    rw [List.idxOf_eq_getD_idxOf?, hi]
    rfl
  have hedges : (g.edges.mapM fun e => do
      return (← Outcome.orFault (g.canonicalOrder.idxOf? e.source) .key,
        ← Outcome.orFault (g.canonicalOrder.idxOf? e.target) .key, e.handle))
      = .ok (g.edges.map fun e => numbersOf g.canonicalOrder e.ends) :=
    Outcome.mapM_eq_ok_of_forall fun e he => by
      obtain ⟨hsource, htarget⟩ := hwf.ends_mem_canonicalOrder (List.mem_map_of_mem he)
      rw [show e.source = e.ends.1 from rfl, show e.target = e.ends.2.1 from rfl, hnumber hsource,
        hnumber htarget]
      rfl
  rw [List.map_map]
  unfold canonical
  dsimp only
  rw [hnodes, Outcome.ok_bind]
  exact congrArg (· >>= _) hedges

/-- Forms are the same when the nodes in the same places agree and neither has an edge of its
own. -/
theorem same_iff {order : List String} {u v : String → Node}
    {es fs : List (Nat × Nat × Option String)} :
    CanonicalGraph.same ⟨order.map u, es⟩ ⟨order.map v, fs⟩ = true ↔
      (∀ id ∈ order, (u id).agrees (v id) = true) ∧ ∀ x, x ∈ es ↔ x ∈ fs := by
  unfold CanonicalGraph.same
  dsimp only
  rw [List.length_map, List.length_map, beq_self_eq_true, Bool.true_and, List.zip_map',
    List.all_map, Bool.and_eq_true, Bool.and_eq_true, List.all_eq_true, List.all_eq_true,
    List.all_eq_true]
  simp only [Function.comp_apply, List.contains_iff_mem]
  constructor
  · rintro ⟨⟨hnodes, hes⟩, hfs⟩
    exact ⟨hnodes, fun x => ⟨hes x, hfs x⟩⟩
  · rintro ⟨hnodes, hedges⟩
    exact ⟨⟨hnodes, fun x => (hedges x).1⟩, fun x => (hedges x).2⟩

/-- Whether well-formed graphs are equivalent can be told. -/
theorem WellFormed.equivalent_eq (hwf : g.WellFormed) (hwf' : g'.WellFormed) :
    g.equivalent g' = .ok (g.nodes.length == g'.nodes.length && g.edges.length == g'.edges.length
      && CanonicalGraph.same
        ⟨g.canonicalOrder.map g.found, (g.edges.map Edge.ends).map (numbersOf g.canonicalOrder)⟩
        ⟨g'.canonicalOrder.map g'.found,
          (g'.edges.map Edge.ends).map (numbersOf g'.canonicalOrder)⟩) := by
  unfold equivalent
  rw [hwf.canonical_eq, hwf'.canonical_eq]
  by_cases hnodes : g.nodes.length = g'.nodes.length
  · by_cases hedges : g.edges.length = g'.edges.length
    · simp [hnodes, hedges]
    · simp [hedges]
  · simp [hnodes]

/-! ## Orders that correspond -/

section Orders

variable (hwf : g.WellFormed) (hwf' : g'.WellFormed)
  (horder : g'.canonicalOrder = g.canonicalOrder.map f)

include hwf hwf' horder

/-- Orders that correspond tell ids apart alike. -/
theorem bijOn_of_canonicalOrder :
    Set.BijOn f {id | id ∈ g.nodes.map (·.id)} {id | id ∈ g'.nodes.map (·.id)} := by
  have hnodup := nodup_canonicalOrder g'
  rw [horder] at hnodup
  refine ⟨fun id hid => ?_, fun a ha b hb => ?_, fun id hid => ?_⟩
  · exact hwf'.mem_canonicalOrder.1 (horder ▸ List.mem_map_of_mem (hwf.mem_canonicalOrder.2 hid))
  · exact List.inj_on_of_nodup_map hnodup (hwf.mem_canonicalOrder.2 ha)
      (hwf.mem_canonicalOrder.2 hb)
  · have hid := hwf'.mem_canonicalOrder.2 hid
    rw [horder] at hid
    obtain ⟨a, ha, rfl⟩ := List.mem_map.1 hid
    exact ⟨a, hwf.mem_canonicalOrder.1 ha, rfl⟩

/-- An edge has the numbers of its ends under new names. -/
theorem numbersOf_renameEnds {x : String × String × Option String}
    (hx : x ∈ g.edges.map Edge.ends) :
    numbersOf g'.canonicalOrder (renameEnds f x) = numbersOf g.canonicalOrder x := by
  have hinj := (bijOn_of_canonicalOrder hwf hwf' horder).injOn
  have hindex {id : String} (hid : id ∈ g.canonicalOrder) :
      g'.canonicalOrder.idxOf (f id) = g.canonicalOrder.idxOf id := by
    rw [horder]
    exact idxOf_map_of_injOn hid fun y hy => hinj (hwf.mem_canonicalOrder.1 hy)
      (hwf.mem_canonicalOrder.1 hid)
  obtain ⟨hsource, htarget⟩ := hwf.ends_mem_canonicalOrder hx
  rw [numbersOf, renameEnds, hindex hsource, hindex htarget, numbersOf]

/-- No two edges get the same ends under new names. -/
theorem nodup_renameEnds : ((g.edges.map Edge.ends).map (renameEnds f)).Nodup := by
  have hinj := (bijOn_of_canonicalOrder hwf hwf' horder).injOn
  have hmem {id : String} : id ∈ g.canonicalOrder → id ∈ g.nodes.map (·.id) :=
    hwf.mem_canonicalOrder.1
  refine hwf.nodup_ends.map_on fun x hx y hy heq => ?_
  obtain ⟨hx₁, hx₂⟩ := hwf.ends_mem_canonicalOrder hx
  obtain ⟨hy₁, hy₂⟩ := hwf.ends_mem_canonicalOrder hy
  simp only [renameEnds, Prod.mk.injEq] at heq
  exact Prod.ext (hinj (hmem hx₁) (hmem hy₁) heq.1)
    (Prod.ext (hinj (hmem hx₂) (hmem hy₂) heq.2.1) heq.2.2)

/-- Edges have the same numbers exactly when they join the same nodes. -/
theorem numbers_iff_perm_edges :
    (∀ x, x ∈ (g.edges.map Edge.ends).map (numbersOf g.canonicalOrder)
        ↔ x ∈ (g'.edges.map Edge.ends).map (numbersOf g'.canonicalOrder))
      ↔ ((g.edges.map Edge.ends).map (renameEnds f)).Perm (g'.edges.map Edge.ends) := by
  have hnumbers : (g.edges.map Edge.ends).map (numbersOf g.canonicalOrder)
      = ((g.edges.map Edge.ends).map (renameEnds f)).map (numbersOf g'.canonicalOrder) := by
    rw [List.map_map (f := renameEnds f)]
    exact List.map_congr_left fun x hx => (numbersOf_renameEnds hwf hwf' horder hx).symm
  rw [hnumbers]
  refine ⟨fun h => ?_, fun h x => (h.map _).mem_iff⟩
  -- the ends of an edge can be told from its numbers
  have hinj : ∀ x ∈ (g.edges.map Edge.ends).map (renameEnds f), ∀ y ∈ g'.edges.map Edge.ends,
      numbersOf g'.canonicalOrder x = numbersOf g'.canonicalOrder y → x = y := by
    intro x' hx' y hy heq
    obtain ⟨x, hx, rfl⟩ := List.mem_map.1 hx'
    obtain ⟨hx₁, hx₂⟩ := hwf.ends_mem_canonicalOrder hx
    have hmem {id : String} (hid : id ∈ g.canonicalOrder) : f id ∈ g'.canonicalOrder :=
      horder ▸ List.mem_map_of_mem hid
    simp only [numbersOf, Prod.mk.injEq] at heq
    exact Prod.ext ((List.idxOf_inj (hmem hx₁)).1 heq.1)
      (Prod.ext ((List.idxOf_inj (hmem hx₂)).1 heq.2.1) heq.2.2)
  refine (List.perm_ext_iff_of_nodup (nodup_renameEnds hwf hwf' horder) hwf'.nodup_ends).2
    fun x => ⟨fun hx => ?_, fun hx => ?_⟩
  · obtain ⟨y, hy, heq⟩ := List.mem_map.1 ((h _).1 (List.mem_map_of_mem hx))
    rwa [hinj x hx y hy heq.symm]
  · obtain ⟨y, hy, heq⟩ := List.mem_map.1 ((h _).2 (List.mem_map_of_mem hx))
    rwa [← hinj y hy x hx heq]

/-- The nodes in the same places agree exactly when each agrees with the node under its new id. -/
theorem agrees_iff_nodes :
    (∀ id ∈ g.canonicalOrder, (g.found id).agrees (g'.found (f id)) = true)
      ↔ ∀ m ∈ g.nodes, ∀ n ∈ g'.nodes, n.id = f m.id → m.agrees n = true := by
  constructor
  · intro h m hm n hn hid
    have := h m.id (hwf.mem_canonicalOrder.2 (List.mem_map_of_mem hm))
    rwa [← hid, hwf.found_of_mem hm, hwf'.found_of_mem hn] at this
  · intro h id hid
    obtain ⟨m, hm, rfl⟩ := List.mem_map.1 (hwf.mem_canonicalOrder.1 hid)
    obtain ⟨n, hn, hid'⟩ := List.mem_map.1
      ((bijOn_of_canonicalOrder hwf hwf' horder).mapsTo (hwf.mem_canonicalOrder.1 hid))
    rw [← hid', hwf.found_of_mem hm, hwf'.found_of_mem hn]
    exact h m hm n hn hid'

/-- Nodes of the same kinds: the triggers come in the same order. -/
theorem triggers_of_canonicalOrder
    (hkind : ∀ m ∈ g.nodes, ∀ n ∈ g'.nodes, n.id = f m.id → m.kind = n.kind) :
    g'.triggers.map (·.id) = (g.triggers.map (·.id)).map f := by
  rw [← hwf'.filter_canonicalOrder, horder, List.filter_map, ← hwf.filter_canonicalOrder]
  refine congrArg (List.map f) (List.filter_congr fun id hid => ?_)
  obtain ⟨m, hm, rfl⟩ := List.mem_map.1 (hwf.mem_canonicalOrder.1 hid)
  obtain ⟨n, hn, hid'⟩ := List.mem_map.1
    ((bijOn_of_canonicalOrder hwf hwf' horder).mapsTo (hwf.mem_canonicalOrder.1 hid))
  rw [Function.comp_apply, isTriggerAt, isTriggerAt, hwf.kind?_of_mem hm, ← hid',
    hwf'.kind?_of_mem hn, hkind m hm n hn hid']

/-- Graphs whose orders correspond are equivalent exactly when they are isomorphic. -/
theorem equivalent_iff_isomorphism : g.equivalent g' = .ok true ↔ Isomorphism f g g' := by
  have hnodes : g.nodes.length = g'.nodes.length := by
    have := congrArg List.length horder
    rwa [List.length_map, hwf.perm_canonicalOrder.length_eq, hwf'.perm_canonicalOrder.length_eq,
      List.length_map, List.length_map, eq_comm] at this
  -- what the comparison asks of two nodes is what an isomorphism asks of them
  have hagrees : ∀ m ∈ g.nodes, ∀ n ∈ g'.nodes, m.agrees n = true ↔
      m.kind = n.kind ∧ (Value.ofEntries m.data).same (.ofEntries n.data) = true
        ∧ m.label.agrees n.label = true
        ∧ (Value.ofEntries m.flags).same (.ofEntries n.flags) = true :=
    fun m hm n hn => Node.agrees_iff (hwf.isKnown hm) (hwf'.isKnown hn)
  have hfound : g'.canonicalOrder.map g'.found
      = g.canonicalOrder.map fun id => g'.found (f id) := by
    rw [horder, List.map_map]
    rfl
  rw [hwf.equivalent_eq hwf', hfound, Except.ok.injEq, Bool.and_eq_true, Bool.and_eq_true,
    beq_iff_eq, beq_iff_eq, same_iff, agrees_iff_nodes hwf hwf' horder,
    numbers_iff_perm_edges hwf hwf' horder]
  constructor
  · rintro ⟨-, hnode, hedges⟩
    have hnode : ∀ m ∈ g.nodes, ∀ n ∈ g'.nodes, n.id = f m.id → _ :=
      fun m hm n hn hid => (hagrees m hm n hn).1 (hnode m hm n hn hid)
    exact
      { ids := bijOn_of_canonicalOrder hwf hwf' horder
        node := hnode
        triggers := triggers_of_canonicalOrder hwf hwf' horder
          fun m hm n hn hid => (hnode m hm n hn hid).1
        edges := hedges }
  · intro h
    refine ⟨⟨hnodes, ?_⟩, fun m hm n hn hid => (hagrees m hm n hn).2 (h.node m hm n hn hid),
      h.edges⟩
    simpa using h.edges.length_eq

end Orders

/-! ## Walks that correspond -/

namespace Isomorphism

variable (h : Isomorphism f g g') (hwf : g.WellFormed)

include h hwf

/-- For each outcome the edges out of a node have the same ends: there is at most one. -/
theorem filter_ends_eq {id : String} (hid : id ∈ g.nodes.map (·.id)) (failed : Bool) :
    ((g'.edges.map Edge.ends).filter fun x =>
        ((x.2.2 == some handleFalse) == failed) && x.1 == f id)
      = ((g.edges.map Edge.ends).filter fun x =>
          ((x.2.2 == some handleFalse) == failed) && x.1 == id).map (renameEnds f) := by
  have hlength : ((g.edges.map Edge.ends).filter fun x =>
      ((x.2.2 == some handleFalse) == failed) && x.1 == id).length ≤ 1 := by
    rw [List.filter_map, List.length_map]
    have := hwf.length_outcome_le_one id failed
    rwa [outgoing, List.filter_filter] at this
  -- new names tell sources apart, so it makes no difference whether edges are renamed first
  have hrename : ((g.edges.map Edge.ends).map (renameEnds f)).filter
        (fun x => ((x.2.2 == some handleFalse) == failed) && x.1 == f id)
      = ((g.edges.map Edge.ends).filter fun x =>
          ((x.2.2 == some handleFalse) == failed) && x.1 == id).map (renameEnds f) := by
    rw [List.filter_map (f := renameEnds f)]
    refine congrArg (List.map (renameEnds f)) (List.filter_congr fun x hx => ?_)
    have hsource := hwf.mem_canonicalOrder.1 (hwf.ends_mem_canonicalOrder hx).1
    rw [Function.comp_apply, renameEnds, Bool.eq_iff_iff]
    simp [h.ids.injOn.eq_iff hsource hid]
  rw [← hrename]
  -- a list of one edge at most is in order
  refine (eq_of_perm_of_length_le_one (h.edges.filter _) ?_).symm
  rwa [hrename, List.length_map]

/-- The edges out of a node lead to the same nodes in the same order. -/
theorem targets_eq {id : String} (hid : id ∈ g.nodes.map (·.id)) :
    (g'.outEdges (f id)).map (·.target) = ((g.outEdges id).map (·.target)).map f := by
  have htargets (k : Graph) (x : String) :
      (k.outEdges x).map (·.target) = ((k.outEdges x).map Edge.ends).map (·.2.1) := by
    rw [List.map_map]
    rfl
  have hfalse := h.filter_ends_eq hwf hid false
  have htrue := h.filter_ends_eq hwf hid true
  simp only [beq_false, beq_true] at hfalse htrue
  rw [htargets, htargets, map_ends_outEdges, map_ends_outEdges, hfalse, htrue, ← List.map_append,
    List.map_map, List.map_map]
  rfl

/-- An isomorphism takes the one walk along with the other. -/
theorem descend_map (seen waiting : List String) (hseen : ∀ id ∈ seen, id ∈ g.nodes.map (·.id))
    (hwaiting : ∀ id ∈ waiting, id ∈ g.nodes.map (·.id)) :
    g'.descend (seen.map f) (waiting.map f) = (g.descend seen waiting).map f := by
  -- the map is injective on the nodes, so a node is met exactly if its counterpart is
  have hcontains {seen : List String} {id : String} (hseen : ∀ id ∈ seen, id ∈ g.nodes.map (·.id))
      (hid : id ∈ g.nodes.map (·.id)) : (seen.map f).contains (f id) = seen.contains id := by
    rw [Bool.eq_iff_iff, List.contains_iff_mem, List.contains_iff_mem, List.mem_map]
    refine ⟨?_, fun hmem => ⟨id, hmem, rfl⟩⟩
    rintro ⟨a, ha, heq⟩
    rwa [← h.ids.injOn (hseen a ha) hid heq]
  -- the walk over the first graph decides on the cases, and what it meets stays among its nodes
  induction seen, waiting using descend.induct g with
  | case1 seen => rw [List.map_nil, descend_nil, descend_nil]
  | case2 seen id waiting hnew ih =>
    obtain ⟨hid, hwaiting⟩ := List.forall_mem_cons.1 hwaiting
    have htargets : ∀ x ∈ (g.outEdges id).map (·.target), x ∈ g.nodes.map (·.id) := by
      intro x hx
      obtain ⟨e, he, rfl⟩ := List.mem_map.1 hx
      exact hwf.mem_canonicalOrder.1
        (hwf.ends_mem_canonicalOrder (List.mem_map_of_mem (mem_outEdges.1 he).1)).2
    rw [List.map_cons, descend_of_new ((hcontains hseen hid).trans hnew), descend_of_new hnew,
      h.targets_eq hwf hid, ← List.map_append, ← List.map_cons]
    exact ih (List.forall_mem_cons.2 ⟨hid, hseen⟩) (List.forall_mem_append.2 ⟨htargets, hwaiting⟩)
  | case3 seen id waiting hold ih =>
    obtain ⟨hid, hwaiting⟩ := List.forall_mem_cons.1 hwaiting
    rw [List.map_cons, descend_of_old (by rwa [hcontains hseen hid]), descend_of_old hold]
    exact ih hseen hwaiting

/-- Where triggers lead to every node, the orders correspond. -/
theorem canonicalOrder_eq (hreaches : ∀ n ∈ g.nodes, g.Reaches n.id) :
    g'.canonicalOrder = g.canonicalOrder.map f := by
  have hwalk := h.descend_map hwf [] (g.triggers.map (·.id)) nofun fun _ => triggers_subset
  rw [Graph.canonicalOrder_eq, canonicalOrder_eq_of_reaches hreaches, List.map_reverse, ← hwalk,
    ← h.triggers, List.map_nil, descend_of_subset fun id hid => ?_]
  -- the walk from the triggers meets the second graph whole, so nothing is left for its other roots
  obtain ⟨a, ha, rfl⟩ := h.ids.surjOn hid
  obtain ⟨n, hn, rfl⟩ := List.mem_map.1 ha
  rw [h.triggers, ← List.map_nil, hwalk]
  exact List.mem_map_of_mem (mem_descend_of_reaches (hreaches n hn))

end Isomorphism

/-- Whether well-formed graphs are equivalent can be told. Equivalent graphs are isomorphic, and
isomorphic graphs are equivalent when triggers lead to every node. -/
theorem equivalent_isomorphic (hwf : g.WellFormed) (hwf' : g'.WellFormed) :
    (∃ same, g.equivalent g' = .ok same)
      ∧ (g.equivalent g' = .ok true → ∃ f, Isomorphism f g g')
      ∧ ((∀ n ∈ g.nodes, g.Reaches n.id) → (∃ f, Isomorphism f g g') →
        g.equivalent g' = .ok true) := by
  refine ⟨⟨_, hwf.equivalent_eq hwf'⟩, fun h => ?_, fun hreaches ⟨f, hf⟩ => ?_⟩
  · -- orders of the same length correspond under the renaming that reads one off the other
    have hlength : g'.canonicalOrder.length = g.canonicalOrder.length := by
      rw [hwf.equivalent_eq hwf', Except.ok.injEq, Bool.and_eq_true, Bool.and_eq_true,
        beq_iff_eq] at h
      rw [hwf.perm_canonicalOrder.length_eq, hwf'.perm_canonicalOrder.length_eq, List.length_map,
        List.length_map, h.1.1]
    obtain ⟨f, horder⟩ := exists_eq_map_of_nodup (nodup_canonicalOrder g) hlength
    exact ⟨f, (equivalent_iff_isomorphism hwf hwf' horder).1 h⟩
  · exact (equivalent_iff_isomorphism hwf hwf' (hf.canonicalOrder_eq hwf hreaches)).2 hf

/-- A lamp that two triggers turn on again and again while it is dark. -/
def darkLamp : Graph where
  nodes := [
    { id := "t1", kind := .trigger, data := [(.str "trigger", .str "time")] },
    { id := "t2", kind := .trigger, data := [(.str "trigger", .str "sun")] },
    { id := "c1", kind := .condition, data := [(.str "condition", .str "state")] },
    { id := "a1", kind := .action, data := [(.str "action", .str "light.turn_on")] },
    { id := "d1", kind := .delay, data := [(.str "delay", .int 5)] }]
  edges := [.between "t1" "c1", .between "t2" "c1", .between "c1" "a1" (some handleTrue),
    .between "c1" "d1" (some handleFalse), .between "a1" "c1"]

/-- The same lamp, drawn in another order and with other ids. -/
def darkHall : Graph where
  nodes := [
    { id := "hall.d1", kind := .delay, data := [(.str "delay", .int 5)] },
    { id := "hall.a1", kind := .action, data := [(.str "action", .str "light.turn_on")] },
    { id := "hall.t1", kind := .trigger, data := [(.str "trigger", .str "time")] },
    { id := "hall.c1", kind := .condition, data := [(.str "condition", .str "state")] },
    { id := "hall.t2", kind := .trigger, data := [(.str "trigger", .str "sun")] }]
  edges := [.between "hall.a1" "hall.c1", .between "hall.c1" "hall.d1" (some handleFalse),
    .between "hall.c1" "hall.a1" (some handleTrue), .between "hall.t2" "hall.c1",
    .between "hall.t1" "hall.c1"]

theorem isomorphism_darkHall : Isomorphism ("hall." ++ ·) darkLamp darkHall where
  ids := by
    refine ⟨?_, ?_, ?_⟩
    · show ∀ id ∈ darkLamp.nodes.map (·.id), "hall." ++ id ∈ darkHall.nodes.map (·.id)
      decide +kernel
    · intro a _ b _ heq
      exact (String.append_right_inj _).1 heq
    · show ∀ id ∈ darkHall.nodes.map (·.id), ∃ a ∈ darkLamp.nodes.map (·.id), "hall." ++ a = id
      decide +kernel
  node m hm n hn hid := by
    have hagrees : ∀ m ∈ darkLamp.nodes, ∀ n ∈ darkHall.nodes, n.id = "hall." ++ m.id →
        m.kind.isKnown = true ∧ n.kind.isKnown = true ∧ m.agrees n = true := by decide +kernel
    obtain ⟨hkind, hkind', hagrees⟩ := hagrees m hm n hn hid
    exact (Node.agrees_iff hkind hkind').1 hagrees
  triggers := by decide +kernel
  edges := by decide +kernel

theorem equivalent_darkHall :
    darkLamp.WellFormed ∧ darkHall.WellFormed ∧ (∀ n ∈ darkLamp.nodes, darkLamp.Reaches n.id)
      ∧ (∃ f, Isomorphism f darkLamp darkHall) ∧ darkLamp.equivalent darkHall = .ok true := by
  have hwf : darkLamp.WellFormed := List.isEmpty_iff.1 (by decide +kernel)
  have hwf' : darkHall.WellFormed := List.isEmpty_iff.1 (by decide +kernel)
  have hreaches : ∀ n ∈ darkLamp.nodes, darkLamp.Reaches n.id := by
    have : ∀ n ∈ darkLamp.nodes, n.id ∈ darkLamp.reachable := by decide +kernel
    exact fun n hn => mem_reachable_iff.1 (this n hn)
  obtain ⟨-, hsound, hcomplete⟩ := equivalent_isomorphic hwf hwf'
  have hsame := hcomplete hreaches ⟨_, isomorphism_darkHall⟩
  exact ⟨hwf, hwf', hreaches, hsound hsame, hsame⟩

end Graph

end Automation
