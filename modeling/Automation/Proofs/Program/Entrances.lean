import Automation.Proofs.Program.Order

/-!
# Edges into options

A further option of a choice is reached from the option in front of it and from nowhere else
(`Block.listEntered_of_drawn`), because a wiring draws edges into its own nodes only
(`Block.exists_of_mem_wireList`).
-/

namespace Automation

namespace Block

mutual
/-- Whether one edge leads to each option of a block but the first of a choice. -/
def Entered (g : Graph) : Block → Prop
  | step _ => True
  | choice options otherwise => (∀ o ∈ options.tail, (g.incoming o.1.id).length = 1)
      ∧ OptionsEntered g options ∧ ListEntered g otherwise
termination_by structural b => b

/-- Whether one edge leads to each option in a list of blocks but the first ones of choices. -/
def ListEntered (g : Graph) : List Block → Prop
  | [] => True
  | b :: bs => Entered g b ∧ ListEntered g bs
termination_by structural bs => bs

/-- Whether one edge leads to each option in the bodies of options but the first ones of choices. -/
def OptionsEntered (g : Graph) : List (Node × List Block) → Prop
  | [] => True
  | (_, body) :: rest => ListEntered g body ∧ OptionsEntered g rest
termination_by structural options => options
end

/-! ## One node at a time -/

theorem wireList_step (ends : List OpenEnd) (n : Node) (bs : List Block) :
    (wireList ends (.step n :: bs)).1 = join ends n.id ++ (wireList [n.exit] bs).1 := rfl

theorem wireList_last (ends : List OpenEnd) (otherwise bs : List Block) :
    (wireList ends (.choice [] otherwise :: bs)).1
      = (wireList ends otherwise).1 ++ (wireList (wireList ends otherwise).2 bs).1 := by
  simp [wireList, wire, wireOptions]

/-- The edges of a choice: into the first option, inside its body, from there on into the options
that are left, and behind the choice. -/
theorem wireList_option (ends : List OpenEnd) (n : Node) (body : List Block)
    (options : List (Node × List Block)) (otherwise bs : List Block) :
    ∃ behind, (wireList ends (.choice ((n, body) :: options) otherwise :: bs)).1
      = join ends n.id ++ ((wireList [(n.id, some handleTrue)] body).1
        ++ ((wireList [(n.id, some handleFalse)] [.choice options otherwise]).1
          ++ (wireList behind bs).1)) := by
  refine ⟨(wire ends (.choice ((n, body) :: options) otherwise)).2, ?_⟩
  simp [wireList, wire, wireOptions]

/-- A wiring draws edges into its own nodes only. -/
theorem exists_of_mem_wireList {bs : List Block} (ends : List OpenEnd) :
    ∀ e ∈ (wireList ends bs).1, ∃ n ∈ listNodes bs, n.id = e.target := by
  induction bs using Block.induction generalizing ends with
  | nil => simp [wireList]
  | step n bs ih =>
    rw [wireList_step]
    intro e he
    rcases List.mem_append.1 he with he | he
    · exact ⟨n, List.mem_cons_self, (join_targets ends n.id e he).symm⟩
    · obtain ⟨m, hm, hid⟩ := ih [n.exit] e he
      exact ⟨m, List.mem_cons_of_mem _ hm, hid⟩
  | last otherwise bs ihOtherwise ih =>
    rw [wireList_last, listNodes_last]
    intro e he
    rcases List.mem_append.1 he with he | he
    · obtain ⟨m, hm, hid⟩ := ihOtherwise ends e he
      exact ⟨m, List.mem_append_left _ hm, hid⟩
    · obtain ⟨m, hm, hid⟩ := ih _ e he
      exact ⟨m, List.mem_append_right _ hm, hid⟩
  | option n body options otherwise bs ihBody ihOthers ih =>
    -- an edge enters the condition, its body, the other options, or what is behind the choice
    obtain ⟨behind, hwire⟩ := wireList_option ends n body options otherwise bs
    rw [hwire, listNodes_option]
    intro e he
    rcases List.mem_append.1 he with he | he
    · exact ⟨n, List.mem_cons_self, (join_targets ends n.id e he).symm⟩
    rcases List.mem_append.1 he with he | he
    · obtain ⟨m, hm, hid⟩ := ihBody _ e he
      exact ⟨m, List.mem_cons_of_mem _ (List.mem_append_left _ hm), hid⟩
    rcases List.mem_append.1 he with he | he
    · obtain ⟨m, hm, hid⟩ := ihOthers _ e he
      exact ⟨m, List.mem_cons_of_mem _ (List.mem_append_right _ (List.mem_append_left _ hm)), hid⟩
    · obtain ⟨m, hm, hid⟩ := ih behind e he
      exact ⟨m, List.mem_cons_of_mem _ (List.mem_append_right _ (List.mem_append_right _ hm)), hid⟩

/-! ## Edges into nodes -/

/-- Whether the edges into the nodes of a list of blocks are those of their wiring. -/
def Drawn (g : Graph) (ends : List OpenEnd) (bs : List Block) : Prop :=
  ∀ n ∈ listNodes bs, g.incoming n.id = (wireList ends bs).1.filter (·.target == n.id)

variable {g : Graph}

theorem filter_join_eq_nil {ends : List OpenEnd} {id target : String} (h : id ≠ target) :
    (join ends id).filter (·.target == target) = [] :=
  List.filter_eq_nil_iff.2 fun e he htarget =>
    h ((join_targets ends id e he).symm.trans (beq_iff_eq.1 htarget))

/-- No edge of a wiring leads to a node that it does not have. -/
theorem filter_wireList_eq_nil {ends : List OpenEnd} (bs : List Block) {target : String}
    (h : target ∉ (listNodes bs).map (·.id)) :
    (wireList ends bs).1.filter (·.target == target) = [] := by
  refine List.filter_eq_nil_iff.2 fun e he htarget => h ?_
  obtain ⟨n, hn, hid⟩ := exists_of_mem_wireList ends e he
  exact List.mem_map.2 ⟨n, hn, hid.trans (beq_iff_eq.1 htarget)⟩

namespace Drawn

variable {ends : List OpenEnd} {n : Node} {bs body otherwise : List Block}
  {options : List (Node × List Block)}

theorem of_step (h : Drawn g ends (.step n :: bs)) (hn : n.id ∉ (listNodes bs).map (·.id)) :
    Drawn g [n.exit] bs := fun m hm => by
  have hne : n.id ≠ m.id := fun heq => hn (List.mem_map.2 ⟨m, hm, heq.symm⟩)
  rw [h m (List.mem_cons_of_mem _ hm), wireList_step, List.filter_append, filter_join_eq_nil hne,
    List.nil_append]

theorem of_last (h : Drawn g ends (.choice [] otherwise :: bs))
    (hdisjoint : ((listNodes otherwise).map (·.id)).Disjoint ((listNodes bs).map (·.id))) :
    Drawn g ends otherwise ∧ Drawn g (wireList ends otherwise).2 bs := by
  constructor
  · intro m hm
    rw [h m (List.mem_append_left _ hm), wireList_last, List.filter_append,
      filter_wireList_eq_nil bs fun hid => hdisjoint (List.mem_map_of_mem hm) hid, List.append_nil]
  · intro m hm
    rw [h m (List.mem_append_right _ hm), wireList_last, List.filter_append,
      filter_wireList_eq_nil otherwise fun hid => hdisjoint hid (List.mem_map_of_mem hm),
      List.nil_append]

/-- The parts of a choice are drawn, each from where the wiring enters it. -/
theorem of_option (h : Drawn g ends (.choice ((n, body) :: options) otherwise :: bs))
    (hnodup : ((listNodes (.choice ((n, body) :: options) otherwise :: bs)).map (·.id)).Nodup) :
    Drawn g [(n.id, some handleTrue)] body
      ∧ Drawn g [(n.id, some handleFalse)] [.choice options otherwise]
      ∧ ∃ behind, Drawn g behind bs := by
  obtain ⟨behind, hwire⟩ := wireList_option ends n body options otherwise bs
  have hnodes := listNodes_option n body options otherwise bs
  rw [hnodes, List.map_cons, List.map_append, List.map_append] at hnodup
  obtain ⟨hn, hnodup⟩ := List.nodup_cons.1 hnodup
  obtain ⟨-, hnodup, hdisjoint⟩ := List.nodup_append'.1 hnodup
  obtain ⟨-, -, hdisjoint'⟩ := List.nodup_append'.1 hnodup
  -- an edge into any node but the first comes from one of the three wirings
  have hall {m : Node} (hm : m ∈ listNodes body ++ (listNodes [.choice options otherwise]
      ++ listNodes bs)) : g.incoming m.id
        = (wireList [(n.id, some handleTrue)] body).1.filter (·.target == m.id)
          ++ ((wireList [(n.id, some handleFalse)] [.choice options otherwise]).1.filter
              (·.target == m.id) ++ (wireList behind bs).1.filter (·.target == m.id)) := by
    have hne : n.id ≠ m.id := by
      intro heq
      rw [← List.map_append, ← List.map_append] at hn
      exact hn (List.mem_map.2 ⟨m, hm, heq.symm⟩)
    rw [h m (hnodes ▸ List.mem_cons_of_mem _ hm), hwire, List.filter_append, filter_join_eq_nil hne,
      List.nil_append, List.filter_append, List.filter_append]
  refine ⟨fun m hm => ?_, fun m hm => ?_, behind, fun m hm => ?_⟩
  · have hid : m.id ∈ (listNodes body).map (·.id) := List.mem_map_of_mem hm
    rw [hall (List.mem_append_left _ hm),
      filter_wireList_eq_nil _ fun h => hdisjoint hid (List.mem_append_left _ h),
      filter_wireList_eq_nil _ fun h => hdisjoint hid (List.mem_append_right _ h),
      List.append_nil, List.append_nil]
  · have hid : m.id ∈ (listNodes [.choice options otherwise]).map (·.id) := List.mem_map_of_mem hm
    rw [hall (List.mem_append_right _ (List.mem_append_left _ hm)),
      filter_wireList_eq_nil body fun h => hdisjoint h (List.mem_append_left _ hid),
      filter_wireList_eq_nil bs fun h => hdisjoint' hid h, List.nil_append, List.append_nil]
  · have hid : m.id ∈ (listNodes bs).map (·.id) := List.mem_map_of_mem hm
    rw [hall (List.mem_append_right _ (List.mem_append_right _ hm)),
      filter_wireList_eq_nil body fun h => hdisjoint h (List.mem_append_right _ hid),
      filter_wireList_eq_nil [.choice options otherwise] fun h => hdisjoint' h hid,
      List.nil_append, List.nil_append]

/-- As many edges lead into the first option of a choice as into the choice. -/
theorem length_incoming (h : Drawn g ends [.choice ((n, body) :: options) otherwise])
    (hnodup : ((listNodes [.choice ((n, body) :: options) otherwise]).map (·.id)).Nodup) :
    (g.incoming n.id).length = ends.length := by
  obtain ⟨_, hwire⟩ := wireList_option ends n body options otherwise []
  rw [listNodes_option, List.map_cons, List.map_append, List.map_append] at hnodup
  obtain ⟨hnot, -⟩ := List.nodup_cons.1 hnodup
  rw [List.mem_append, List.mem_append, not_or, not_or] at hnot
  have hjoin : (join ends n.id).filter (·.target == n.id) = join ends n.id :=
    List.filter_eq_self.2 fun e he => beq_iff_eq.2 (join_targets ends n.id e he)
  rw [h n (listNodes_option _ _ _ _ _ ▸ List.mem_cons_self), hwire, List.filter_append,
    List.filter_append, List.filter_append, filter_wireList_eq_nil _ hnot.1,
    filter_wireList_eq_nil _ hnot.2.1, filter_wireList_eq_nil _ hnot.2.2, hjoin]
  simp [join]

end Drawn

/-- Where the edges into nodes are those of their wiring, one leads to each further option. -/
theorem listEntered_of_drawn {bs : List Block} {ends : List OpenEnd} (h : Drawn g ends bs)
    (hnodup : ((listNodes bs).map (·.id)).Nodup) : ListEntered g bs := by
  induction bs using Block.induction generalizing ends with
  | nil => trivial
  | step n bs ih =>
    obtain ⟨hn, hnodup⟩ := List.nodup_cons.1 hnodup
    exact ⟨trivial, ih (h.of_step hn) hnodup⟩
  | last otherwise bs ihOtherwise ih =>
    rw [listNodes_last, List.map_append] at hnodup
    obtain ⟨hfirst, hlast, hdisjoint⟩ := List.nodup_append'.1 hnodup
    obtain ⟨hotherwise, hrest⟩ := h.of_last hdisjoint
    exact ⟨⟨by simp, trivial, ihOtherwise hotherwise hfirst⟩, ih hrest hlast⟩
  | option n body options otherwise bs ihBody ihOthers ih =>
    obtain ⟨hbody, hothers, behind, hrest⟩ := h.of_option hnodup
    rw [listNodes_option, List.map_cons, List.map_append, List.map_append] at hnodup
    obtain ⟨hnodupBody, hnodup, -⟩ := List.nodup_append'.1 (List.nodup_cons.1 hnodup).2
    obtain ⟨hnodupOthers, hnodupRest, -⟩ := List.nodup_append'.1 hnodup
    obtain ⟨⟨hfurther, hoptions, hotherwise⟩, -⟩ := ihOthers hothers hnodupOthers
    refine ⟨⟨?_, ⟨ihBody hbody hnodupBody, hoptions⟩, hotherwise⟩, ih hrest hnodupRest⟩
    -- the wiring enters the options that are left at the failure of this one
    cases options with
    | nil => simp
    | cons o options => exact List.forall_mem_cons.2 ⟨hothers.length_incoming hnodupOthers, hfurther⟩

end Block

namespace Program

variable {p : Program} {g : Graph}

/-- The gates of a program are wired like steps. -/
theorem edges_eq (hgates : ∀ n ∈ p.gates, n.kind.isCondition = true) :
    p.edges = (Block.wireList (p.triggers.map fun t => (t.id, none)) p.blocks).1 := by
  have hsteps : ∀ (gates : List Node) (ends : List OpenEnd),
      (∀ n ∈ gates, n.kind.isCondition = true) →
      Block.wireList ends (gates.map .step) = Block.wireGates ends gates := by
    intro gates
    induction gates with
    | nil => exact fun _ _ => rfl
    | cons gate gates ih =>
      intro ends hall
      have hexit : gate.exit = (gate.id, some handleTrue) := by
        rw [Node.exit, if_pos (hall gate List.mem_cons_self)]
      rw [List.map_cons, Block.wireGates, ← ih _ fun n hn => hall n (List.mem_cons_of_mem _ hn),
        ← hexit]
      rfl
  rw [edges, blocks, Block.wireList_append, hsteps p.gates _ hgates]

/-- One edge leads to each option of a program but the first ones of choices. -/
theorem listEntered (hedges : g.edges = p.edges) (h : (p.nodes.map (·.id)).Nodup)
    (hgates : ∀ n ∈ p.gates, n.kind.isCondition = true) : Block.ListEntered g p.blocks := by
  have hdrawn : Block.Drawn g (p.triggers.map fun t => (t.id, none)) p.blocks := fun n hn => by
    rw [Graph.incoming, hedges, edges_eq hgates]
  rw [nodes_eq, List.map_append] at h
  exact Block.listEntered_of_drawn hdrawn (List.nodup_append'.1 h).2.1

end Program

end Automation
