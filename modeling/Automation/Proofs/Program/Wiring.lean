import Automation.Program.Basic
import Automation.Proofs.Graph.Structure
import Automation.Proofs.Graph.Walk
import Mathlib.Data.List.Pairwise

/-!
# Graphs that follow programs

A graph follows a list of blocks when every open end of it leads where the program goes on
(`Block.ListFollows`). That says the same as the edges that the list is wired with: in a graph that
follows a program, every edge of the program is the one that a run takes
(`Program.FollowedBy.taken`), and a graph with the edges of a program follows it
(`Program.followedBy_of_edges_eq`).

No open end is used twice: the ends that edges start from and those that are left are together the
exits of the nodes (`Program.perm_edges`), which are apart from each other when the nodes are
(`Program.pairwise_exits`).
-/

namespace Automation

/-- The open end that an edge starts from. -/
def Edge.origin (e : Edge) : OpenEnd := (e.source, e.handle)

/-- Where a run goes on from an open end. -/
def Graph.next? (g : Graph) (e : OpenEnd) : Option String :=
  match e.2 with
  | some handle => g.branch? e.1 handle
  | none => g.successor? e.1

namespace Block

/-! ## Where blocks start -/

/-- The node that options start at; without options, the place where they fail to. -/
def optionFirst (fallback : Option String) : List (Node × List Block) → Option String
  | [] => fallback
  | (node, _) :: _ => some node.id

mutual
/-- The node that a block starts at; a block without nodes leads on to the next place. -/
def first (next : Option String) : Block → Option String
  | step node => some node.id
  | choice options otherwise => optionFirst (listFirst next otherwise) options
termination_by structural b => b

/-- The node that a list of blocks starts at. -/
def listFirst (next : Option String) : List Block → Option String
  | [] => next
  | b :: bs => first (listFirst next bs) b
termination_by structural bs => bs
end

/-! ## Following -/

mutual
/-- Whether the open ends of a block lead where the program goes on, with a place behind it. -/
def Follows (g : Graph) (next : Option String) : Block → Prop
  | step node => g.next? node.exit = next
      ∧ (node.kind.isCondition = true → g.whenFalse? node.id = none)
  | choice options otherwise =>
    OptionsFollow g next (listFirst next otherwise) options ∧ ListFollows g next otherwise
termination_by structural b => b

/-- Whether the open ends of a list of blocks lead where the program goes on. -/
def ListFollows (g : Graph) (next : Option String) : List Block → Prop
  | [] => True
  | b :: bs => Follows g (listFirst next bs) b ∧ ListFollows g next bs
termination_by structural bs => bs

/-- Whether the open ends of options lead where the program goes on, with a place to go to when none
holds. -/
def OptionsFollow (g : Graph) (next fallback : Option String) : List (Node × List Block) → Prop
  | [] => True
  | (node, body) :: rest => (g.whenTrue? node.id = listFirst next body
      ∧ g.whenFalse? node.id = optionFirst fallback rest)
      ∧ ListFollows g next body ∧ OptionsFollow g next fallback rest
termination_by structural options => options
end

/-! ## Exits -/

mutual
/-- The open ends of the nodes of a block: one of each step, two of each condition of a choice. -/
def exits : Block → List OpenEnd
  | step node => [node.exit]
  | choice options otherwise => optionExits options ++ listExits otherwise

/-- The open ends of the nodes of a list of blocks. -/
def listExits : List Block → List OpenEnd
  | [] => []
  | b :: bs => exits b ++ listExits bs

/-- The open ends of the nodes of options. -/
def optionExits : List (Node × List Block) → List OpenEnd
  | [] => []
  | (node, body) :: rest =>
    [(node.id, some handleTrue), (node.id, some handleFalse)] ++ listExits body ++ optionExits rest
end

/-- The edges that join ends to a node start from these ends, in this order. -/
theorem map_origin_join (ends : List OpenEnd) (id : String) :
    (join ends id).map Edge.origin = ends := by
  unfold join
  rw [List.map_map]
  exact List.map_id ends

mutual
/-- An open end is followed by one edge or left open. -/
theorem perm_wire (ends : List OpenEnd) : ∀ b : Block,
    ((wire ends b).1.map Edge.origin ++ (wire ends b).2).Perm (ends ++ b.exits)
  | step node => by
    rw [wire, exits, map_origin_join]
  | choice options otherwise => by
    have htried := perm_wireOptions ends options
    have hlast := perm_wireList (wireOptions ends options).pending otherwise
    -- an end stands on both sides as often, which is a sum over the parts of the choice
    rw [List.perm_iff_count] at htried hlast ⊢
    intro x
    have := htried x
    have := hlast x
    simp only [wire, exits, List.map_append, List.count_append] at *
    omega
termination_by structural b => b

/-- Each end of a list, and each end that comes into it, is followed by one edge or left open. -/
theorem perm_wireList (ends : List OpenEnd) : ∀ bs : List Block,
    ((wireList ends bs).1.map Edge.origin ++ (wireList ends bs).2).Perm (ends ++ listExits bs)
  | [] => by
    rw [wireList, listExits, List.append_nil]
    exact List.Perm.refl ends
  | b :: bs => by
    have hfirst := perm_wire ends b
    have hrest := perm_wireList (wire ends b).2 bs
    rw [List.perm_iff_count] at hfirst hrest ⊢
    intro x
    have := hfirst x
    have := hrest x
    simp only [wireList, listExits, List.map_append, List.count_append] at *
    omega
termination_by structural bs => bs

/-- Each end of options is followed by one edge, left open, or pending when no option holds. -/
theorem perm_wireOptions (ends : List OpenEnd) : ∀ options : List (Node × List Block),
    ((wireOptions ends options).edges.map Edge.origin ++ ((wireOptions ends options).exits
      ++ (wireOptions ends options).pending)).Perm (ends ++ optionExits options)
  | [] => by
    rw [wireOptions, optionExits, List.append_nil]
    exact List.Perm.refl ends
  | (node, body) :: rest => by
    -- the success of the condition comes into its body, its failure into the next option
    have hbody := perm_wireList [(node.id, some handleTrue)] body
    have hrest := perm_wireOptions [(node.id, some handleFalse)] rest
    rw [List.perm_iff_count] at hbody hrest ⊢
    intro x
    have := hbody x
    have := hrest x
    simp only [wireOptions, optionExits, List.map_append, map_origin_join, List.count_append,
      List.count_cons, List.count_nil] at *
    omega
termination_by structural options => options
end

/-! ## Taking the edges of a wiring -/

/-- An edge of a join leads from one of the ends to the node. -/
theorem mem_join {ends : List OpenEnd} {id : String} {e : Edge} (h : e ∈ join ends id) :
    e.origin ∈ ends ∧ e.target = id := by
  refine ⟨?_, join_targets ends id e h⟩
  rw [← map_origin_join ends id]
  exact List.mem_map_of_mem h

/-- Whether a run takes an edge. -/
def Taken (g : Graph) (e : Edge) : Prop := g.next? e.origin = some e.target

variable {g : Graph}

/-- Runs take the edges of a join just if they go on from the ends at the node. -/
theorem taken_join {ends : List OpenEnd} {id : String} :
    (∀ e ∈ join ends id, Taken g e) ↔ ∀ x ∈ ends, g.next? x = some id := by
  constructor
  · intro h x hx
    exact h (.between x.1 id x.2) (List.mem_map_of_mem hx)
  · intro h e he
    obtain ⟨horigin, htarget⟩ := mem_join he
    rw [Taken, htarget]
    exact h _ horigin

mutual
/-- In a graph that follows a block, a run takes the edges of its wiring, and the ends that are left
lead on. -/
theorem Follows.wire {next : Option String} (ends : List OpenEnd) : ∀ {b : Block},
    Follows g next b → (∀ x ∈ ends, g.next? x = first next b) →
    (∀ e ∈ (Block.wire ends b).1, Taken g e) ∧ ∀ x ∈ (Block.wire ends b).2, g.next? x = next
  | .step node, h, hends => by
    rw [Block.wire]
    refine ⟨taken_join.2 hends, fun x hx => ?_⟩
    rw [List.mem_singleton.1 hx]
    exact h.1
  | .choice options otherwise, h, hends => by
    obtain ⟨hoptions, hotherwise⟩ := h
    obtain ⟨htried, hexits, hpending⟩ := hoptions.wireOptions ends hends
    -- the ends that no option takes come into the blocks that are run otherwise
    obtain ⟨hlast, hleft⟩ := hotherwise.wireList _ hpending
    rw [Block.wire]
    refine ⟨fun e he => ?_, fun x hx => ?_⟩
    · exact (List.mem_append.1 he).elim (htried e) (hlast e)
    · exact (List.mem_append.1 hx).elim (hexits x) (hleft x)
termination_by structural b => b

/-- What `Follows.wire` says of one block: the ends that are left of each block come into the
next. -/
theorem ListFollows.wireList {next : Option String} (ends : List OpenEnd) : ∀ {bs : List Block},
    ListFollows g next bs → (∀ x ∈ ends, g.next? x = listFirst next bs) →
    (∀ e ∈ (Block.wireList ends bs).1, Taken g e) ∧ ∀ x ∈ (Block.wireList ends bs).2, g.next? x = next
  | [], _, hends => by
    rw [Block.wireList]
    exact ⟨by simp, hends⟩
  | b :: bs, h, hends => by
    obtain ⟨hb, hbs⟩ := h
    obtain ⟨hfirst, hleft⟩ := hb.wire ends hends
    obtain ⟨hrest, hlast⟩ := hbs.wireList _ hleft
    rw [Block.wireList]
    exact ⟨fun e he => (List.mem_append.1 he).elim (hfirst e) (hrest e), hlast⟩
termination_by structural bs => bs

/-- The ends that are left of the bodies lead on, and those that are pending lead to the
fallback. -/
theorem OptionsFollow.wireOptions {next fallback : Option String} (ends : List OpenEnd) :
    ∀ {options : List (Node × List Block)}, OptionsFollow g next fallback options →
    (∀ x ∈ ends, g.next? x = optionFirst fallback options) →
    (∀ e ∈ (Block.wireOptions ends options).edges, Taken g e)
      ∧ (∀ x ∈ (Block.wireOptions ends options).exits, g.next? x = next)
      ∧ ∀ x ∈ (Block.wireOptions ends options).pending, g.next? x = fallback
  | [], _, hends => by
    rw [Block.wireOptions]
    exact ⟨by simp, by simp, hends⟩
  | (node, body) :: rest, h, hends => by
    obtain ⟨⟨htrue, hfalse⟩, hbody, hrest⟩ := h
    obtain ⟨hinner, hexits⟩ := hbody.wireList [(node.id, some handleTrue)]
      fun x hx => by rw [List.mem_singleton.1 hx]; exact htrue
    obtain ⟨hothers, hleft, hpending⟩ := hrest.wireOptions [(node.id, some handleFalse)]
      fun x hx => by rw [List.mem_singleton.1 hx]; exact hfalse
    rw [Block.wireOptions]
    refine ⟨fun e he => ?_, fun x hx => ?_, hpending⟩
    · rcases List.mem_append.1 he with he | he
      · exact (List.mem_append.1 he).elim (taken_join.2 hends e) (hinner e)
      · exact hothers e he
    · exact (List.mem_append.1 hx).elim (hexits x) (hleft x)
termination_by structural options => options
end

/-! ## Ends that are apart -/

/-- Ends of different nodes, or of different outcomes of one. -/
def Apart (x y : OpenEnd) : Prop := x.1 = y.1 → x.2 ≠ none ∧ y.2 ≠ none ∧ x.2 ≠ y.2

instance : Std.Symm Apart where
  symm _ _ h hid :=
    have := h hid.symm
    ⟨this.2.1, this.1, Ne.symm this.2.2⟩

mutual
/-- The exits of a block are ends of its nodes, and an end without a handle is one of a step that is
no condition. -/
theorem exists_of_mem_exits {x : OpenEnd} : ∀ {b : Block}, x ∈ b.exits →
    ∃ n ∈ b.nodes, n.id = x.1 ∧ (x.2 = none → n.kind.isCondition = false)
  | .step node, h => by
    rw [exits] at h
    rw [List.mem_singleton.1 h]
    refine ⟨node, List.mem_singleton.2 rfl, rfl, fun hnone => ?_⟩
    -- the exit of a condition has a handle, that of its success
    by_contra hcondition
    rw [Node.exit, if_pos (by simpa using hcondition)] at hnone
    cases hnone
  | .choice options otherwise, h => by
    rw [exits] at h
    rw [nodes]
    rcases List.mem_append.1 h with h | h
    · obtain ⟨n, hn, hid⟩ := exists_of_mem_optionExits h
      exact ⟨n, List.mem_append_left _ hn, hid⟩
    · obtain ⟨n, hn, hid⟩ := exists_of_mem_listExits h
      exact ⟨n, List.mem_append_right _ hn, hid⟩
termination_by structural b => b

/-- The exits of a list of blocks are ends of its nodes, as those of a block are. -/
theorem exists_of_mem_listExits {x : OpenEnd} : ∀ {bs : List Block}, x ∈ listExits bs →
    ∃ n ∈ listNodes bs, n.id = x.1 ∧ (x.2 = none → n.kind.isCondition = false)
  | [], h => nomatch h
  | b :: bs, h => by
    rw [listExits] at h
    rw [listNodes]
    rcases List.mem_append.1 h with h | h
    · obtain ⟨n, hn, hid⟩ := exists_of_mem_exits h
      exact ⟨n, List.mem_append_left _ hn, hid⟩
    · obtain ⟨n, hn, hid⟩ := exists_of_mem_listExits h
      exact ⟨n, List.mem_append_right _ hn, hid⟩
termination_by structural bs => bs

/-- The exits of options are ends of their conditions or of the nodes in their bodies. -/
theorem exists_of_mem_optionExits {x : OpenEnd} : ∀ {options : List (Node × List Block)},
    x ∈ optionExits options →
    ∃ n ∈ optionNodes options, n.id = x.1 ∧ (x.2 = none → n.kind.isCondition = false)
  | [], h => nomatch h
  | (node, body) :: rest, h => by
    rw [optionExits, List.append_assoc] at h
    rw [optionNodes, List.cons_append]
    rcases List.mem_append.1 h with h | h
    · refine ⟨node, List.mem_cons_self, ?_⟩
      simp only [List.mem_cons, List.not_mem_nil, or_false] at h
      rcases h with rfl | rfl
      · exact ⟨rfl, fun hnone => nomatch hnone⟩
      · exact ⟨rfl, fun hnone => nomatch hnone⟩
    · rcases List.mem_append.1 h with h | h
      · obtain ⟨n, hn, hid⟩ := exists_of_mem_listExits h
        exact ⟨n, List.mem_cons_of_mem _ (List.mem_append_left _ hn), hid⟩
      · obtain ⟨n, hn, hid⟩ := exists_of_mem_optionExits h
        exact ⟨n, List.mem_cons_of_mem _ (List.mem_append_right _ hn), hid⟩
termination_by structural options => options
end

/-- An exit of a block has the id of a node of the block. -/
theorem fst_mem_of_mem_exits {x : OpenEnd} {b : Block} (h : x ∈ b.exits) :
    x.1 ∈ b.nodes.map (·.id) := by
  obtain ⟨n, hn, hid, -⟩ := exists_of_mem_exits h
  exact hid ▸ List.mem_map_of_mem hn

theorem fst_mem_of_mem_listExits {x : OpenEnd} {bs : List Block} (h : x ∈ listExits bs) :
    x.1 ∈ (listNodes bs).map (·.id) := by
  obtain ⟨n, hn, hid, -⟩ := exists_of_mem_listExits h
  exact hid ▸ List.mem_map_of_mem hn

theorem fst_mem_of_mem_optionExits {x : OpenEnd} {options : List (Node × List Block)}
    (h : x ∈ optionExits options) : x.1 ∈ (optionNodes options).map (·.id) := by
  obtain ⟨n, hn, hid, -⟩ := exists_of_mem_optionExits h
  exact hid ▸ List.mem_map_of_mem hn

/-- Ends of different nodes are apart. -/
theorem pairwise_append_of_disjoint {xs ys : List OpenEnd} {a b : List String}
    (hx : xs.Pairwise Apart) (hy : ys.Pairwise Apart) (hxs : ∀ x ∈ xs, x.1 ∈ a)
    (hys : ∀ y ∈ ys, y.1 ∈ b) (hdisjoint : List.Disjoint a b) : (xs ++ ys).Pairwise Apart :=
  List.pairwise_append.2 ⟨hx, hy, fun x hmx y hmy hid =>
    absurd (hid ▸ hys y hmy) (hdisjoint (hxs x hmx))⟩

mutual
/-- The exits of different nodes are apart. -/
theorem pairwise_exits : ∀ {b : Block}, (b.nodes.map (·.id)).Nodup → b.exits.Pairwise Apart
  | .step node, _ => List.pairwise_singleton _ _
  | .choice options otherwise, h => by
    rw [nodes, List.map_append] at h
    obtain ⟨hoptions, hotherwise, hdisjoint⟩ := List.nodup_append'.1 h
    rw [exits]
    exact pairwise_append_of_disjoint (pairwise_optionExits hoptions) (pairwise_listExits hotherwise)
      (fun _ => fst_mem_of_mem_optionExits) (fun _ => fst_mem_of_mem_listExits) hdisjoint
termination_by structural b => b

/-- The exits of different nodes of a list are apart. -/
theorem pairwise_listExits : ∀ {bs : List Block}, ((listNodes bs).map (·.id)).Nodup →
    (listExits bs).Pairwise Apart
  | [], _ => List.Pairwise.nil
  | b :: bs, h => by
    rw [listNodes, List.map_append] at h
    obtain ⟨hb, hbs, hdisjoint⟩ := List.nodup_append'.1 h
    rw [listExits]
    exact pairwise_append_of_disjoint (pairwise_exits hb) (pairwise_listExits hbs)
      (fun _ => fst_mem_of_mem_exits) (fun _ => fst_mem_of_mem_listExits) hdisjoint
termination_by structural bs => bs

/-- The two exits of a condition are apart from each other, and from those of the other nodes. -/
theorem pairwise_optionExits : ∀ {options : List (Node × List Block)},
    ((optionNodes options).map (·.id)).Nodup → (optionExits options).Pairwise Apart
  | [], _ => List.Pairwise.nil
  | (node, body) :: rest, h => by
    rw [optionNodes, List.cons_append, List.map_cons, List.nodup_cons, List.map_append] at h
    obtain ⟨hnode, h⟩ := h
    obtain ⟨hbody, hrest, hdisjoint⟩ := List.nodup_append'.1 h
    -- of the two ends of one condition the handles differ
    have hbranches : ([(node.id, some handleTrue), (node.id, some handleFalse)] : List OpenEnd).Pairwise
        Apart :=
      List.pairwise_pair.2 fun _ => ⟨by simp, by simp, by simp [handleTrue, handleFalse]⟩
    have hinner := pairwise_append_of_disjoint (pairwise_listExits hbody) (pairwise_optionExits hrest)
      (fun _ => fst_mem_of_mem_listExits) (fun _ => fst_mem_of_mem_optionExits) hdisjoint
    rw [optionExits, List.append_assoc]
    refine pairwise_append_of_disjoint (a := [node.id]) hbranches hinner (fun x hx => ?_)
      (fun x hx => ?_) (List.disjoint_cons_left.2 ⟨hnode, List.disjoint_nil_left _⟩)
    · simp only [List.mem_cons, List.not_mem_nil, or_false] at hx
      rcases hx with rfl | rfl <;> exact List.mem_singleton.2 rfl
    · exact (List.mem_append.1 hx).elim
        (fun hx => List.mem_append_left _ (fst_mem_of_mem_listExits hx))
        (fun hx => List.mem_append_right _ (fst_mem_of_mem_optionExits hx))
termination_by structural options => options
end

/-! ## Graphs that have the edges of a wiring -/

mutual
/-- A graph whose runs take the edges of a wiring, and go on from the ends that are left, follows
the block, when nothing leads on from a condition that is a step and fails. -/
theorem follows_of_wire {next : Option String} (ends : List OpenEnd) : ∀ {b : Block},
    (b.nodes.map (·.id)).Nodup →
    (∀ n ∈ b.nodes, (n.id, some handleFalse) ∈ b.exits ∨ g.whenFalse? n.id = none) →
    (∀ e ∈ (Block.wire ends b).1, Taken g e) →
    (∀ x ∈ (Block.wire ends b).2, g.next? x = next) →
    Follows g next b ∧ ∀ x ∈ ends, g.next? x = first next b
  | .step node, _, hfalse, hedges, hleft => by
    rw [Block.wire] at hedges hleft
    refine ⟨⟨hleft _ (List.mem_singleton.2 rfl), fun hcondition => ?_⟩, taken_join.1 hedges⟩
    -- the only exit of a condition that is a step is that of its success
    refine (hfalse node (List.mem_singleton.2 rfl)).resolve_left fun hmem => ?_
    have hexit := List.mem_singleton.1 hmem
    rw [Node.exit, if_pos hcondition] at hexit
    simp [handleTrue, handleFalse] at hexit
  | .choice options otherwise, hnodup, hfalse, hedges, hleft => by
    rw [Block.wire] at hedges hleft
    rw [nodes, List.map_append] at hnodup
    obtain ⟨hoptions, hotherwise, hdisjoint⟩ := List.nodup_append'.1 hnodup
    rw [exits, nodes] at hfalse
    -- first the blocks that are run otherwise: where they start is the fallback of the options
    obtain ⟨hlast, hpending⟩ := listFollows_of_wireList (wireOptions ends options).pending hotherwise
      (fun n hn => (hfalse n (List.mem_append_right _ hn)).imp_left fun hmem =>
        (List.mem_append.1 hmem).resolve_left fun hmem => hdisjoint
          (fst_mem_of_mem_optionExits hmem) (List.mem_map_of_mem hn))
      (fun e he => hedges e (List.mem_append_right _ he))
      (fun x hx => hleft x (List.mem_append_right _ hx))
    obtain ⟨htried, hfirstNode⟩ := optionsFollow_of_wireOptions ends hoptions
      (fun n hn => (hfalse n (List.mem_append_left _ hn)).imp_left fun hmem =>
        (List.mem_append.1 hmem).resolve_right fun hmem => hdisjoint (List.mem_map_of_mem hn)
          (fst_mem_of_mem_listExits hmem))
      (fun e he => hedges e (List.mem_append_left _ he))
      (fun x hx => hleft x (List.mem_append_left _ hx)) hpending
    exact ⟨⟨htried, hlast⟩, hfirstNode⟩
termination_by structural b => b

/-- What `follows_of_wire` says of one block, from the last block to the first: where a block starts
is where the ends before it lead. -/
theorem listFollows_of_wireList {next : Option String} (ends : List OpenEnd) :
    ∀ {bs : List Block}, ((listNodes bs).map (·.id)).Nodup →
    (∀ n ∈ listNodes bs, (n.id, some handleFalse) ∈ listExits bs ∨ g.whenFalse? n.id = none) →
    (∀ e ∈ (Block.wireList ends bs).1, Taken g e) →
    (∀ x ∈ (Block.wireList ends bs).2, g.next? x = next) →
    ListFollows g next bs ∧ ∀ x ∈ ends, g.next? x = listFirst next bs
  | [], _, _, _, hleft => by
    rw [Block.wireList] at hleft
    exact ⟨trivial, hleft⟩
  | b :: bs, hnodup, hfalse, hedges, hleft => by
    rw [Block.wireList] at hedges hleft
    rw [listNodes, List.map_append] at hnodup
    obtain ⟨hb, hbs, hdisjoint⟩ := List.nodup_append'.1 hnodup
    rw [listExits, listNodes] at hfalse
    -- first the rest: where it starts is the place behind the block
    obtain ⟨hrest, hmiddle⟩ := listFollows_of_wireList (wire ends b).2 hbs
      (fun n hn => (hfalse n (List.mem_append_right _ hn)).imp_left fun hmem =>
        (List.mem_append.1 hmem).resolve_left fun hmem => hdisjoint
          (fst_mem_of_mem_exits hmem) (List.mem_map_of_mem hn))
      (fun e he => hedges e (List.mem_append_right _ he)) hleft
    obtain ⟨hfirst, hfirstNode⟩ := follows_of_wire ends hb
      (fun n hn => (hfalse n (List.mem_append_left _ hn)).imp_left fun hmem =>
        (List.mem_append.1 hmem).resolve_right fun hmem => hdisjoint (List.mem_map_of_mem hn)
          (fst_mem_of_mem_listExits hmem))
      (fun e he => hedges e (List.mem_append_left _ he)) hmiddle
    exact ⟨⟨hfirst, hrest⟩, hfirstNode⟩
termination_by structural bs => bs

/-- Where the next option starts is where the condition before it leads when it fails. -/
theorem optionsFollow_of_wireOptions {next fallback : Option String} (ends : List OpenEnd) :
    ∀ {options : List (Node × List Block)}, ((optionNodes options).map (·.id)).Nodup →
    (∀ n ∈ optionNodes options,
      (n.id, some handleFalse) ∈ optionExits options ∨ g.whenFalse? n.id = none) →
    (∀ e ∈ (Block.wireOptions ends options).edges, Taken g e) →
    (∀ x ∈ (Block.wireOptions ends options).exits, g.next? x = next) →
    (∀ x ∈ (Block.wireOptions ends options).pending, g.next? x = fallback) →
    OptionsFollow g next fallback options ∧ ∀ x ∈ ends, g.next? x = optionFirst fallback options
  | [], _, _, _, _, hpending => by
    rw [Block.wireOptions] at hpending
    exact ⟨trivial, hpending⟩
  | (node, body) :: rest, hnodup, hfalse, hedges, hleft, hpending => by
    rw [Block.wireOptions] at hedges hleft hpending
    dsimp only at hedges hleft hpending
    rw [optionNodes, List.cons_append, List.map_cons, List.nodup_cons, List.map_append] at hnodup
    obtain ⟨hnode, hnodup⟩ := hnodup
    obtain ⟨hbody, hrest, hdisjoint⟩ := List.nodup_append'.1 hnodup
    rw [optionExits, optionNodes, List.append_assoc, List.cons_append] at hfalse
    -- an end of a node behind the condition is no end of the condition
    have hbehind : ∀ n ∈ listNodes body ++ optionNodes rest,
        (n.id, some handleFalse) ∈ listExits body ++ optionExits rest ∨ g.whenFalse? n.id = none := by
      refine fun n hn => (hfalse n (List.mem_cons_of_mem _ hn)).imp_left fun hmem => ?_
      refine (List.mem_append.1 hmem).resolve_left fun hmem => hnode ?_
      rw [← List.map_append]
      have hid : n.id = node.id := by
        simp only [List.mem_cons, List.not_mem_nil, or_false, Prod.mk.injEq] at hmem
        exact hmem.elim (·.1) (·.1)
      rw [← hid]
      exact List.mem_map_of_mem hn
    -- the join before the body says where success leads, the one before the rest where failure does
    obtain ⟨hinner, htrue⟩ := listFollows_of_wireList [(node.id, some handleTrue)] hbody
      (fun n hn => (hbehind n (List.mem_append_left _ hn)).imp_left fun hmem =>
        (List.mem_append.1 hmem).resolve_right fun hmem => hdisjoint (List.mem_map_of_mem hn)
          (fst_mem_of_mem_optionExits hmem))
      (fun e he => hedges e (List.mem_append_left _ (List.mem_append_right _ he)))
      (fun x hx => hleft x (List.mem_append_left _ hx))
    obtain ⟨hothers, hfalse⟩ := optionsFollow_of_wireOptions [(node.id, some handleFalse)] hrest
      (fun n hn => (hbehind n (List.mem_append_right _ hn)).imp_left fun hmem =>
        (List.mem_append.1 hmem).resolve_left fun hmem => hdisjoint
          (fst_mem_of_mem_listExits hmem) (List.mem_map_of_mem hn))
      (fun e he => hedges e (List.mem_append_right _ he))
      (fun x hx => hleft x (List.mem_append_right _ hx)) hpending
    refine ⟨⟨⟨htrue _ (List.mem_singleton.2 rfl), hfalse _ (List.mem_singleton.2 rfl)⟩, hinner,
      hothers⟩, taken_join.1 fun e he => ?_⟩
    exact hedges e (List.mem_append_left _ (List.mem_append_left _ he))
termination_by structural options => options
end

/-! ## Gates -/

/-- The open end behind a gate. -/
def gateExit (gate : Node) : OpenEnd := (gate.id, some handleTrue)

/-- The node that gates start at; without gates, the place behind them. -/
def gatesFirst (next : Option String) : List Node → Option String
  | [] => next
  | gate :: _ => some gate.id

/-- Whether gates lead from one to the next, and nowhere when they fail. -/
def GatesFollow (g : Graph) (next : Option String) : List Node → Prop
  | [] => True
  | gate :: rest => (g.whenTrue? gate.id = gatesFirst next rest ∧ g.whenFalse? gate.id = none)
      ∧ GatesFollow g next rest

/-- In a graph that follows gates, a run takes the edges of their wiring, and the last one leads
on. -/
theorem GatesFollow.wireGates {next : Option String} (ends : List OpenEnd) {gates : List Node}
    (h : GatesFollow g next gates) (hends : ∀ x ∈ ends, g.next? x = gatesFirst next gates) :
    (∀ e ∈ (Block.wireGates ends gates).1, Taken g e)
      ∧ ∀ x ∈ (Block.wireGates ends gates).2, g.next? x = next := by
  induction gates generalizing ends with
  | nil => exact ⟨by simp [Block.wireGates], hends⟩
  | cons gate gates ih =>
    obtain ⟨⟨htrue, -⟩, hrest⟩ := h
    obtain ⟨hedges, hleft⟩ := ih [gateExit gate] hrest fun x hx => by
      rw [List.mem_singleton.1 hx]
      exact htrue
    rw [Block.wireGates]
    refine ⟨fun e he => ?_, hleft⟩
    exact (List.mem_append.1 he).elim (taken_join.2 hends e) (hedges e)

/-- A graph whose runs take the edges of the wiring of gates follows the gates, when none of them
leads on when it fails. -/
theorem gatesFollow_of_wireGates {next : Option String} (ends : List OpenEnd) {gates : List Node}
    (hfalse : ∀ gate ∈ gates, g.whenFalse? gate.id = none)
    (hedges : ∀ e ∈ (Block.wireGates ends gates).1, Taken g e)
    (hleft : ∀ x ∈ (Block.wireGates ends gates).2, g.next? x = next) :
    GatesFollow g next gates ∧ ∀ x ∈ ends, g.next? x = gatesFirst next gates := by
  induction gates generalizing ends with
  | nil => exact ⟨trivial, hleft⟩
  | cons gate gates ih =>
    rw [Block.wireGates] at hedges hleft
    obtain ⟨hrest, htrue⟩ := ih [gateExit gate] (fun n hn => hfalse n (List.mem_cons_of_mem _ hn))
      (fun e he => hedges e (List.mem_append_right _ he)) hleft
    exact ⟨⟨⟨htrue _ (List.mem_singleton.2 rfl), hfalse gate List.mem_cons_self⟩, hrest⟩,
      taken_join.1 fun e he => hedges e (List.mem_append_left _ he)⟩

/-- The success of each gate is followed by one edge or left open. -/
theorem perm_wireGates (ends : List OpenEnd) (gates : List Node) :
    ((wireGates ends gates).1.map Edge.origin ++ (wireGates ends gates).2).Perm
      (ends ++ gates.map gateExit) := by
  induction gates generalizing ends with
  | nil =>
    rw [wireGates, List.map_nil, List.map_nil, List.nil_append, List.append_nil]
  | cons gate gates ih =>
    have hrest := ih [gateExit gate]
    rw [List.perm_iff_count] at hrest ⊢
    intro x
    have := hrest x
    simp only [wireGates, gateExit, List.map_append, map_origin_join, List.count_append,
      List.map_cons, List.count_cons, List.count_nil] at *
    omega

end Block

namespace Program

variable {p : Program}

/-- The open ends of the nodes of a program. -/
def exits (p : Program) : List OpenEnd :=
  p.triggers.map (fun t => (t.id, none)) ++ p.gates.map Block.gateExit ++ Block.listExits p.body

/-- What the gates of a program are wired to. -/
def wiredGates (p : Program) : List Edge × List OpenEnd :=
  Block.wireGates (p.triggers.map fun t => (t.id, none)) p.gates

/-- The open ends behind which the run of a program is over. -/
def left (p : Program) : List OpenEnd := (Block.wireList p.wiredGates.2 p.body).2

/-- Every open end of a program is followed by one edge or left open. -/
theorem perm_edges (p : Program) : (p.edges.map Edge.origin ++ p.left).Perm p.exits := by
  have hgates := Block.perm_wireGates (p.triggers.map fun t => (t.id, none)) p.gates
  have hbody := Block.perm_wireList p.wiredGates.2 p.body
  rw [List.perm_iff_count] at hgates hbody ⊢
  intro x
  have := hgates x
  have := hbody x
  simp only [edges, left, exits, wiredGates, List.map_append, List.count_append] at *
  omega

/-- The open ends of different nodes are apart. -/
theorem pairwise_exits (h : (p.nodes.map (·.id)).Nodup) : p.exits.Pairwise Block.Apart := by
  unfold nodes at h
  rw [List.map_append, List.map_append] at h
  obtain ⟨hfront, hbody, hdisjoint⟩ := List.nodup_append'.1 h
  obtain ⟨htriggers, hgates, hapart⟩ := List.nodup_append'.1 hfront
  -- triggers and gates have one exit each, so their exits are as far apart as their ids
  have hone (nodes : List Node) (f : Node → OpenEnd) (hf : ∀ n, (f n).1 = n.id)
      (hnodup : (nodes.map (·.id)).Nodup) : (nodes.map f).Pairwise Block.Apart := by
    refine List.pairwise_map.2 ((List.pairwise_map.1 hnodup).imp fun hne hid => ?_)
    rw [hf, hf] at hid
    exact absurd hid hne
  have hmem (nodes : List Node) (f : Node → OpenEnd) (hf : ∀ n, (f n).1 = n.id) :
      ∀ x ∈ nodes.map f, x.1 ∈ nodes.map (·.id) := by
    intro x hx
    obtain ⟨n, hn, rfl⟩ := List.mem_map.1 hx
    rw [hf]
    exact List.mem_map_of_mem hn
  have htrigger : ∀ n : Node, ((n.id, none) : OpenEnd).1 = n.id := fun _ => rfl
  have hgate : ∀ n : Node, (Block.gateExit n).1 = n.id := fun _ => rfl
  refine Block.pairwise_append_of_disjoint (Block.pairwise_append_of_disjoint
    (hone _ _ htrigger htriggers) (hone _ _ hgate hgates) (hmem _ _ htrigger) (hmem _ _ hgate)
    hapart) (Block.pairwise_listExits hbody) (fun x hx => ?_)
    (fun _ => Block.fst_mem_of_mem_listExits) hdisjoint
  exact (List.mem_append.1 hx).elim (fun hx => List.mem_append_left _ (hmem _ _ htrigger x hx))
    (fun hx => List.mem_append_right _ (hmem _ _ hgate x hx))

/-- An edge follows an open end of the program. -/
theorem origin_mem_exits {e : Edge} (he : e ∈ p.edges) : e.origin ∈ p.exits :=
  p.perm_edges.subset (List.mem_append_left _ (List.mem_map_of_mem he))

/-- The ends that edges follow, and those that are left open, are apart. -/
theorem pairwise_origins (h : (p.nodes.map (·.id)).Nodup) :
    (p.edges.map Edge.origin ++ p.left).Pairwise Block.Apart :=
  (p.perm_edges.pairwise_iff (Std.Symm.symm _ _)).2 (pairwise_exits h)

end Program

namespace Graph

variable {g : Graph} {left : List OpenEnd}

/-- Where an open end leads, an edge does. -/
theorem exists_edge_of_next? {x : OpenEnd} {target : String} (h : g.next? x = some target) :
    ∃ e ∈ g.edges, e.source = x.1 ∧ e.target = target ∧ (x.2 ≠ none → e.handle = x.2) := by
  obtain ⟨id, handle⟩ := x
  cases handle with
  | none =>
    obtain ⟨e, he, hsource, htarget⟩ := exists_edge_of_successor? h
    exact ⟨e, he, hsource, htarget, fun hne => absurd rfl hne⟩
  | some handle =>
    obtain ⟨e, he, hsource, htarget, hhandle⟩ := exists_edge_of_branch? h
    exact ⟨e, he, hsource, htarget, fun _ => hhandle⟩

/-- An open end that an edge starts from leads on. -/
theorem next?_ne_none {e : Edge} (he : e ∈ g.edges) : g.next? e.origin ≠ none := by
  have hmem : e ∈ g.outEdges e.source := mem_outEdges.2 ⟨he, rfl⟩
  unfold next? Edge.origin
  dsimp only
  -- without a handle the first edge of the node is taken, with one the first that has it
  cases hhandle : e.handle with
  | none =>
    intro hnone
    rw [List.head?_eq_none_iff.1 (Option.map_eq_none_iff.1 hnone)] at hmem
    cases hmem
  | some handle =>
    intro hnone
    have := List.find?_eq_none.1 (Option.map_eq_none_iff.1 hnone) e hmem
    rw [hhandle] at this
    exact this (beq_self_eq_true _)

/-- A run takes each edge of a graph whose open ends are apart. -/
theorem taken_of_mem (h : (g.edges.map Edge.origin).Pairwise Block.Apart) {e : Edge}
    (he : e ∈ g.edges) : Block.Taken g e := by
  obtain ⟨target, htarget⟩ := Option.ne_none_iff_exists'.1 (next?_ne_none he)
  obtain ⟨f, hf, hsource, rfl, hhandle⟩ := exists_edge_of_next? htarget
  -- the edge that a run takes starts from the same end, and no other edge does
  by_cases heq : f = e
  · rw [Block.Taken, htarget, heq]
  · have : Std.Symm fun e f : Edge => Block.Apart e.origin f.origin :=
      ⟨fun _ _ h => Std.Symm.symm _ _ h⟩
    obtain ⟨-, hne, hdiffer⟩ := (List.pairwise_map.1 h).forall hf he heq hsource
    exact absurd (hhandle hne) hdiffer

/-- An end that is apart from all that edges start from leads nowhere. -/
theorem next?_eq_none {x : OpenEnd} (h : ∀ e ∈ g.edges, Block.Apart e.origin x) :
    g.next? x = none := by
  refine Option.eq_none_iff_forall_not_mem.2 fun target htarget => ?_
  obtain ⟨e, he, hsource, -, hhandle⟩ := exists_edge_of_next? htarget
  obtain ⟨-, hne, hdiffer⟩ := h e he hsource
  exact hdiffer (hhandle hne)

end Graph

namespace Program

variable {p : Program} {g : Graph}

/-- A graph whose runs go through a program: from each trigger to the first gate, from gate to gate
into the body, and through its blocks to the end. -/
structure FollowedBy (p : Program) (g : Graph) : Prop where
  triggers : ∀ t ∈ p.triggers,
    g.successor? t.id = Block.gatesFirst (Block.listFirst none p.body) p.gates
  gates : Block.GatesFollow g (Block.listFirst none p.body) p.gates
  body : Block.ListFollows g none p.body

/-- In a graph that follows a program, runs take the edges of the program, and end where it leaves
an end open. -/
theorem FollowedBy.taken (h : p.FollowedBy g) :
    (∀ e ∈ p.edges, Block.Taken g e) ∧ ∀ x ∈ p.left, g.next? x = none := by
  obtain ⟨hgates, hends⟩ := h.gates.wireGates (p.triggers.map fun t => (t.id, none)) fun x hx => by
    obtain ⟨t, ht, rfl⟩ := List.mem_map.1 hx
    exact h.triggers t ht
  obtain ⟨hbody, hleft⟩ := h.body.wireList p.wiredGates.2 hends
  exact ⟨fun e he => (List.mem_append.1 he).elim (hgates e) (hbody e), hleft⟩

/-- A graph with the edges of a program follows it. -/
theorem followedBy_of_edges_eq (hg : g.edges = p.edges) (h : (p.nodes.map (·.id)).Nodup) :
    p.FollowedBy g := by
  obtain ⟨hedges, -, hacross⟩ := List.pairwise_append.1 (pairwise_origins h)
  rw [← hg] at hedges
  have htaken : ∀ e ∈ p.edges, Block.Taken g e := fun e he =>
    Graph.taken_of_mem hedges (hg ▸ he)
  have hleft : ∀ x ∈ p.left, g.next? x = none := fun x hx =>
    Graph.next?_eq_none fun e he => hacross _ (List.mem_map_of_mem (hg ▸ he)) x hx
  unfold nodes at h
  rw [List.map_append, List.map_append] at h
  obtain ⟨hfront, hbody, hdisjoint⟩ := List.nodup_append'.1 h
  -- a failure leads on only from a condition of the body that has an end for it
  have hfalse {id : String} (hmem : (id, some handleFalse) ∉ Block.listExits p.body) :
      g.whenFalse? id = none := by
    refine Option.eq_none_iff_forall_not_mem.2 fun target htarget => ?_
    obtain ⟨e, he, hsource, -, hhandle⟩ := Graph.exists_edge_of_branch? htarget
    have horigin : e.origin = (id, some handleFalse) := by rw [Edge.origin, hsource, hhandle]
    have hexit : (id, some handleFalse) ∈ p.exits := horigin ▸ origin_mem_exits (hg ▸ he)
    rcases List.mem_append.1 hexit with hexit | hexit
    · rcases List.mem_append.1 hexit with hexit | hexit
      · obtain ⟨t, -, heq⟩ := List.mem_map.1 hexit
        cases (Prod.mk.inj heq).2
      · obtain ⟨gate, -, heq⟩ := List.mem_map.1 hexit
        simp [Block.gateExit, handleTrue, handleFalse] at heq
    · exact hmem hexit
  -- from the end to the start: where the body starts is what the gates lead to
  obtain ⟨hfollows, hends⟩ := Block.listFollows_of_wireList p.wiredGates.2 hbody
    (fun n _ => or_iff_not_imp_left.2 hfalse) (fun e he => htaken e (List.mem_append_right _ he)) hleft
  obtain ⟨hgates, htriggers⟩ := Block.gatesFollow_of_wireGates
    (p.triggers.map fun t : Node => (t.id, none)) (fun gate hgate => hfalse fun hmem =>
      hdisjoint (List.mem_append_right _ (List.mem_map_of_mem hgate))
        (Block.fst_mem_of_mem_listExits hmem))
    (fun e he => htaken e (List.mem_append_left _ he)) hends
  exact ⟨fun t ht => htriggers _ (List.mem_map_of_mem ht), hgates, hfollows⟩

end Program

end Automation
