import Automation.Proofs.Program.Wiring
import Automation.Proofs.Topology.Nearest

/-!
# Blocks in a graph

What runs through blocks of a program look like in a graph that follows it. A gate is a condition
that is a step: a run ends there when it fails. Blocks without a gate are left only at the node
behind them (`Block.Standing.passes`), and behind a gate no place is sure to come but the end
(`Block.Standing.of_passes`). So the branches of a choice meet at the node behind the choice when no
gate stands in them, and only at the end of the run when one does (`Block.Standing.meetsAt`).

Lists of blocks are taken apart one node at a time (`Block.induction`): behind a step come the other
blocks, and behind the first option of a choice its body and the choice between the options that are
left.
-/

namespace Automation

namespace Block

/-- What holds of no blocks, and is kept by a step and by an option in front, holds of all
blocks. -/
@[elab_as_elim]
theorem induction {motive : List Block → Prop} (nil : motive [])
    (step : ∀ n bs, motive bs → motive (.step n :: bs))
    (last : ∀ otherwise bs, motive otherwise → motive bs → motive (.choice [] otherwise :: bs))
    (option : ∀ n body options otherwise bs, motive body → motive [.choice options otherwise] →
      motive bs → motive (.choice ((n, body) :: options) otherwise :: bs)) :
    ∀ bs : List Block, motive bs
  | [] => nil
  | .step n :: bs => step n bs (induction nil step last option bs)
  | .choice [] otherwise :: bs =>
    last otherwise bs (induction nil step last option otherwise)
      (induction nil step last option bs)
  | .choice ((n, body) :: options) otherwise :: bs =>
    option n body options otherwise bs (induction nil step last option body)
      (induction nil step last option [.choice options otherwise])
      (induction nil step last option bs)
termination_by bs => sizeOf bs

/-! ## Gates -/

mutual
/-- Whether a condition that is a step stands in a block, at any depth. -/
def gated : Block → Bool
  | step node => node.kind.isCondition
  | choice options otherwise => optionsGated options || listGated otherwise

/-- Whether a condition that is a step stands in a list of blocks. -/
def listGated : List Block → Bool
  | [] => false
  | b :: bs => gated b || listGated bs

/-- Whether a condition that is a step stands in the body of an option. -/
def optionsGated : List (Node × List Block) → Bool
  | [] => false
  | (_, body) :: rest => listGated body || optionsGated rest
end

theorem listGated_last (otherwise bs : List Block) :
    listGated (.choice [] otherwise :: bs) = (listGated otherwise || listGated bs) := by
  simp [listGated, gated, optionsGated]

/-- A choice is gated in the body of its first option or in what is left of it. -/
theorem listGated_option (n : Node) (body : List Block) (options : List (Node × List Block))
    (otherwise bs : List Block) : listGated (.choice ((n, body) :: options) otherwise :: bs)
      = (listGated body || (listGated [.choice options otherwise] || listGated bs)) := by
  simp [listGated, gated, optionsGated, Bool.or_assoc]

mutual
/-- Whether a block is as a reading makes it: no step is a trigger, conditions that are steps have
neither names nor flags, the options of a choice have conditions, and only the first of them has
flags. -/
def Formed : Block → Prop
  | step node => node.kind.isTrigger = false
      ∧ (node.kind.isCondition = true → node.label.truthy = false ∧ node.flags = [])
  | choice options otherwise =>
    (∀ o ∈ options.tail, o.1.flags = []) ∧ OptionsFormed options ∧ ListFormed otherwise
termination_by structural b => b

/-- Whether all blocks of a list are as a reading makes them. -/
def ListFormed : List Block → Prop
  | [] => True
  | b :: bs => Formed b ∧ ListFormed bs
termination_by structural bs => bs

/-- Whether options are as a reading makes them. -/
def OptionsFormed : List (Node × List Block) → Prop
  | [] => True
  | (node, body) :: rest => node.kind.isCondition = true ∧ ListFormed body ∧ OptionsFormed rest
termination_by structural options => options
end

/-! ## Nodes of lists -/

theorem listNodes_step (n : Node) (bs : List Block) :
    listNodes (.step n :: bs) = n :: listNodes bs := rfl

theorem listNodes_last (otherwise bs : List Block) :
    listNodes (.choice [] otherwise :: bs) = listNodes otherwise ++ listNodes bs := rfl

/-- The nodes of a choice are the condition and the body of its first option, and what is left of
it. -/
theorem listNodes_option (n : Node) (body : List Block) (options : List (Node × List Block))
    (otherwise bs : List Block) : listNodes (.choice ((n, body) :: options) otherwise :: bs)
      = n :: (listNodes body ++ (listNodes [.choice options otherwise] ++ listNodes bs)) := by
  simp [listNodes, nodes, optionNodes]

theorem listNodes_singleton (b : Block) : listNodes [b] = nodes b := List.append_nil _

theorem listFirst_option (next : Option String) (n : Node) (body : List Block)
    (options : List (Node × List Block)) (otherwise bs : List Block) :
    listFirst next (.choice ((n, body) :: options) otherwise :: bs) = some n.id := rfl

/-- Where a list of blocks starts, one of its nodes is, or the place behind it. -/
theorem mem_listFirst {next : Option String} {bs : List Block} {k : String}
    (h : k ∈ listFirst next bs) : k ∈ next ∨ ∃ n ∈ listNodes bs, n.id = k := by
  induction bs using Block.induction generalizing next with
  | nil => exact .inl h
  | step n bs ih => exact .inr ⟨n, List.mem_cons_self, Option.some.inj h⟩
  | last otherwise bs ihOtherwise ih =>
    have hfirst : k ∈ listFirst (listFirst next bs) otherwise := h
    rcases ihOtherwise hfirst with h | ⟨n, hn, hid⟩
    · exact (ih h).imp_right fun ⟨n, hn, hid⟩ => ⟨n, List.mem_append_right _ hn, hid⟩
    · exact .inr ⟨n, List.mem_append_left _ hn, hid⟩
  | option n body options otherwise bs =>
    refine .inr ⟨n, ?_, Option.some.inj h⟩
    rw [listNodes_option]
    exact List.mem_cons_self

/-- No node of a block that was read is a trigger. -/
theorem isTrigger_of_mem_listNodes {bs : List Block} (h : ListFormed bs) :
    ∀ n ∈ listNodes bs, n.kind.isTrigger = false := by
  induction bs using Block.induction with
  | nil => simp [listNodes]
  | step n bs ih => exact List.forall_mem_cons.2 ⟨h.1.1, ih h.2⟩
  | last otherwise bs ihOtherwise ih =>
    exact fun n hn => (List.mem_append.1 hn).elim (ihOtherwise h.1.2.2 n) (ih h.2 n)
  | option n body options otherwise bs ihBody ihOthers ih =>
    obtain ⟨⟨hflags, ⟨hcondition, hbody, hoptions⟩, hotherwise⟩, hrest⟩ := h
    have hothers := ihOthers
      ⟨⟨fun o ho => hflags o (List.mem_of_mem_tail ho), hoptions, hotherwise⟩, trivial⟩
    rw [listNodes_option]
    refine List.forall_mem_cons.2 ⟨NodeKind.isTrigger_of_isCondition hcondition, fun m hm => ?_⟩
    rcases List.mem_append.1 hm with hm | hm
    · exact ihBody hbody m hm
    · exact (List.mem_append.1 hm).elim (hothers m) (ih hrest m)

/-! ## Blocks that stand in a graph -/

variable {g : Graph} {rank : String → Nat}

/-- Blocks whose nodes are in a graph that follows them, in the order of their ranks and in front of
the place behind them. -/
structure Standing (g : Graph) (rank : String → Nat) (bs : List Block) (next : Option String) : Prop
    where
  follows : ListFollows g next bs
  formed : ListFormed bs
  kinds : ∀ n ∈ listNodes bs, g.kind? n.id = some n.kind
  sorted : (listNodes bs).Pairwise fun m n => rank m.id < rank n.id
  before : ∀ n ∈ listNodes bs, ∀ k ∈ next, rank n.id < rank k

namespace Standing

variable {n : Node} {b : Block} {bs body otherwise : List Block}
  {options : List (Node × List Block)} {next : Option String}

/-- The rest of a list stands where the list ends. -/
theorem tail (h : Standing g rank (b :: bs) next) : Standing g rank bs next where
  follows := h.follows.2
  formed := h.formed.2
  kinds := fun n hn => h.kinds n (List.mem_append_right _ hn)
  sorted := (List.pairwise_append.1 h.sorted).2.1
  before := fun n hn => h.before n (List.mem_append_right _ hn)

/-- The first block of a list stands before the rest. -/
theorem head (h : Standing g rank (b :: bs) next) : Standing g rank [b] (listFirst next bs) where
  follows := ⟨h.follows.1, trivial⟩
  formed := ⟨h.formed.1, trivial⟩
  kinds := fun n hn => h.kinds n (List.mem_append_left _ (listNodes_singleton b ▸ hn))
  sorted := by
    rw [listNodes_singleton]
    exact (List.pairwise_append.1 h.sorted).1
  before := by
    rw [listNodes_singleton]
    intro n hn k hk
    rcases mem_listFirst hk with hk | ⟨m, hm, rfl⟩
    · exact h.before n (List.mem_append_left _ hn) k hk
    · exact (List.pairwise_append.1 h.sorted).2.2 n hn m hm

/-- What is run otherwise stands where the options fail to. -/
theorem of_otherwise (h : Standing g rank [.choice options otherwise] next) :
    Standing g rank otherwise next where
  follows := h.follows.1.2
  formed := h.formed.1.2.2
  kinds := fun n hn => h.kinds n (List.mem_append_left _ (List.mem_append_right _ hn))
  sorted := by
    have hsorted := h.sorted
    rw [listNodes_singleton, nodes] at hsorted
    exact (List.pairwise_append.1 hsorted).2.1
  before := fun n hn => h.before n (List.mem_append_left _ (List.mem_append_right _ hn))

/-- The ranks of an option, its body and the options behind it. -/
theorem sorted_option (h : Standing g rank [.choice ((n, body) :: options) otherwise] next) :
    (∀ m ∈ listNodes body ++ listNodes [.choice options otherwise], rank n.id < rank m.id)
      ∧ (listNodes body).Pairwise (fun m n => rank m.id < rank n.id)
      ∧ (listNodes [.choice options otherwise]).Pairwise (fun m n => rank m.id < rank n.id)
      ∧ ∀ m ∈ listNodes body, ∀ m' ∈ listNodes [.choice options otherwise],
          rank m.id < rank m'.id := by
  have hsorted := h.sorted
  rw [listNodes_option, show listNodes [] = [] from rfl, List.append_nil] at hsorted
  obtain ⟨hfirst, hrest⟩ := List.pairwise_cons.1 hsorted
  exact ⟨hfirst, List.pairwise_append.1 hrest⟩

/-- The nodes of an option stand before the place behind the choice. -/
theorem mem_option (h : Standing g rank [.choice ((n, body) :: options) otherwise] next) {m : Node}
    (hm : m = n ∨ m ∈ listNodes body ∨ m ∈ listNodes [.choice options otherwise]) :
    g.kind? m.id = some m.kind ∧ ∀ k ∈ next, rank m.id < rank k := by
  have hmem : m ∈ listNodes [.choice ((n, body) :: options) otherwise] := by
    rw [listNodes_option, show listNodes [] = [] from rfl, List.append_nil, List.mem_cons,
      List.mem_append]
    exact hm
  exact ⟨h.kinds m hmem, h.before m hmem⟩

/-- The body of an option stands before the place behind the choice. -/
theorem of_body (h : Standing g rank [.choice ((n, body) :: options) otherwise] next) :
    Standing g rank body next where
  follows := h.follows.1.1.2.1
  formed := h.formed.1.2.1.2.1
  kinds := fun _ hm => (h.mem_option (.inr (.inl hm))).1
  sorted := h.sorted_option.2.1
  before := fun _ hm => (h.mem_option (.inr (.inl hm))).2

/-- The options behind the first one. -/
theorem of_others (h : Standing g rank [.choice ((n, body) :: options) otherwise] next) :
    Standing g rank [.choice options otherwise] next where
  follows := ⟨⟨h.follows.1.1.2.2, h.follows.1.2⟩, trivial⟩
  formed := by
    obtain ⟨⟨hflags, hoptions, hotherwise⟩, -⟩ := h.formed
    exact ⟨⟨fun o ho => hflags o (List.mem_of_mem_tail ho), hoptions.2.2, hotherwise⟩, trivial⟩
  kinds := fun _ hm => (h.mem_option (.inr (.inr hm))).1
  sorted := h.sorted_option.2.2.1
  before := fun _ hm => (h.mem_option (.inr (.inr hm))).2

/-- Behind a step come the blocks behind it; a condition that fails ends the run. -/
theorem of_step (h : Standing g rank (.step n :: bs) next) :
    g.kind? n.id = some n.kind
      ∧ (n.kind.isCondition = false → g.successor? n.id = listFirst next bs)
      ∧ (n.kind.isCondition = true → g.whenTrue? n.id = listFirst next bs
          ∧ g.whenFalse? n.id = none) := by
  obtain ⟨⟨hnext, hfalse⟩, -⟩ := h.follows
  refine ⟨h.kinds n List.mem_cons_self, fun hcondition => ?_, fun hcondition => ?_⟩
  · rw [Node.exit, if_neg (by simp [hcondition])] at hnext
    exact hnext
  · rw [Node.exit, if_pos hcondition] at hnext
    exact ⟨hnext, hfalse hcondition⟩

/-- Behind an option that holds comes its body, and else the options that are left. -/
theorem of_option (h : Standing g rank [.choice ((n, body) :: options) otherwise] next) :
    g.kind? n.id = some n.kind ∧ n.kind.isCondition = true
      ∧ g.whenTrue? n.id = listFirst next body
      ∧ g.whenFalse? n.id = listFirst next [.choice options otherwise] :=
  ⟨(h.mem_option (.inl rfl)).1, h.formed.1.2.1.1, h.follows.1.1.1.1, h.follows.1.1.1.2⟩

/-! ## What runs pass -/

/-- Every run through blocks passes what every run from the place behind them does, when no gate
stands in them. The end of the run is passed in any case. -/
theorem passes {goal : Option String} (h : Standing g rank bs next)
    (hgate : listGated bs = true → goal = none) (hnext : Graph.Passes g goal next) :
    Graph.Passes g goal (listFirst next bs) := by
  -- on the blocks in the order in which they run, with what is behind them as the way on
  induction bs using Block.induction generalizing next with
  | nil => exact hnext
  | step n bs ih =>
    obtain ⟨hkind, hstep, hgateway⟩ := h.of_step
    have hbehind := ih h.tail (fun hg => hgate (Bool.or_eq_true_iff.2 (.inr hg))) hnext
    cases hcondition : n.kind.isCondition with
    | false => exact .step hkind hcondition (hstep hcondition ▸ hbehind)
    | true =>
      obtain ⟨htrue, hfalse⟩ := hgateway hcondition
      -- the other way of a gate ends the run, and so nothing comes next
      have hnone := hgate (Bool.or_eq_true_iff.2 (.inl hcondition))
      refine .branch hkind hcondition (htrue ▸ hbehind) ?_
      rw [hfalse, hnone]
      exact .here
  | last otherwise bs ihOtherwise ih =>
    rw [listGated_last, Bool.or_eq_true_iff] at hgate
    exact ihOtherwise h.head.of_otherwise (fun hg => hgate (.inl hg))
      (ih h.tail (fun hg => hgate (.inr hg)) hnext)
  | option n body options otherwise bs ihBody ihOthers ih =>
    obtain ⟨hkind, hcondition, htrue, hfalse⟩ := h.head.of_option
    rw [listGated_option, Bool.or_eq_true_iff, Bool.or_eq_true_iff] at hgate
    have hbehind := ih h.tail (fun hg => hgate (.inr (.inr hg))) hnext
    refine .branch hkind hcondition ?_ ?_
    · rw [htrue]
      exact ihBody h.head.of_body (fun hg => hgate (.inl hg)) hbehind
    · rw [hfalse]
      exact ihOthers h.head.of_others (fun hg => hgate (.inr (.inl hg))) hbehind

/-- A node that every run through blocks passes is one of theirs, or no gate stands in them and
every run from the place behind them passes it. -/
theorem of_passes {m : String} (h : Standing g rank bs next)
    (hpasses : Graph.Passes g (some m) (listFirst next bs)) :
    (∃ n ∈ listNodes bs, n.id = m) ∨ (listGated bs = false ∧ Graph.Passes g (some m) next) := by
  -- the induction is over what a run goes through: a step, an option, or what is left of a choice
  induction bs using Block.induction generalizing next with
  | nil => exact .inr ⟨rfl, hpasses⟩
  | step n bs ih =>
    obtain ⟨hkind, hstep, hgateway⟩ := h.of_step
    by_cases hid : n.id = m
    · exact .inl ⟨n, List.mem_cons_self, hid⟩
    · have hne : some m ≠ some n.id := fun heq => hid (Option.some.inj heq).symm
      cases hcondition : n.kind.isCondition with
      | false =>
        have hbehind := hpasses.of_step hne hkind hcondition
        rw [hstep hcondition] at hbehind
        rcases ih h.tail hbehind with ⟨n', hn', hid'⟩ | ⟨hgate, hnext⟩
        · exact .inl ⟨n', List.mem_cons_of_mem _ hn', hid'⟩
        · exact .inr ⟨Bool.or_eq_false_iff.2 ⟨hcondition, hgate⟩, hnext⟩
      | true =>
        -- a run that a gate stops passes no further node
        have hstopped := (hpasses.of_branch hne hkind hcondition).2
        rw [(hgateway hcondition).2] at hstopped
        cases hstopped.eq_none
  | last otherwise bs ihOtherwise ih =>
    rcases ihOtherwise h.head.of_otherwise hpasses with ⟨n, hn, hid⟩ | ⟨hgate, hbehind⟩
    · exact .inl ⟨n, List.mem_append_left _ hn, hid⟩
    · rcases ih h.tail hbehind with ⟨n, hn, hid⟩ | ⟨hgate', hnext⟩
      · exact .inl ⟨n, List.mem_append_right _ hn, hid⟩
      · exact .inr ⟨by rw [listGated_last, hgate, hgate']; rfl, hnext⟩
  | option n body options otherwise bs ihBody ihOthers ih =>
    obtain ⟨hkind, hcondition, htrue, hfalse⟩ := h.head.of_option
    rw [listNodes_option]
    by_cases hid : n.id = m
    · exact .inl ⟨n, List.mem_cons_self, hid⟩
    · have hne : some m ≠ some n.id := fun heq => hid (Option.some.inj heq).symm
      obtain ⟨hthen, helse⟩ := hpasses.of_branch hne hkind hcondition
      rw [htrue] at hthen
      rw [hfalse] at helse
      rcases ihBody h.head.of_body hthen with ⟨n', hn', hid'⟩ | ⟨hgate, hbehind⟩
      · exact .inl ⟨n', List.mem_cons_of_mem _ (List.mem_append_left _ hn'), hid'⟩
      · rcases ihOthers h.head.of_others helse with ⟨n', hn', hid'⟩ | ⟨hgate', -⟩
        · exact .inl ⟨n', List.mem_cons_of_mem _ (List.mem_append_right _
            (List.mem_append_left _ hn')), hid'⟩
        · rcases ih h.tail hbehind with ⟨n', hn', hid'⟩ | ⟨hgate'', hnext⟩
          · exact .inl ⟨n', List.mem_cons_of_mem _ (List.mem_append_right _
              (List.mem_append_right _ hn')), hid'⟩
          · exact .inr ⟨by rw [listGated_option, hgate, hgate', hgate'']; rfl, hnext⟩

/-- From where blocks start, edges lead to all their nodes and to the place behind them. -/
theorem closed {S : String → Prop} (hS : ∀ e ∈ g.edges, S e.source → S e.target)
    (h : Standing g rank bs next) (hfirst : ∀ x ∈ listFirst next bs, S x) :
    (∀ n ∈ listNodes bs, S n.id) ∧ ∀ k ∈ next, S k := by
  -- each edge between the blocks is taken once, from the node in front of it
  induction bs using Block.induction generalizing next with
  | nil => exact ⟨by simp [listNodes], hfirst⟩
  | step n bs ih =>
    obtain ⟨-, hstep, hgateway⟩ := h.of_step
    have hn := hfirst n.id rfl
    obtain ⟨hrest, hnext⟩ := ih h.tail fun x hx => by
      cases hcondition : n.kind.isCondition with
      | false =>
        rw [← hstep hcondition] at hx
        obtain ⟨e, he, hsource, rfl⟩ := Graph.exists_edge_of_successor? hx
        exact hS e he (hsource ▸ hn)
      | true =>
        rw [← (hgateway hcondition).1] at hx
        obtain ⟨e, he, hsource, rfl, -⟩ := Graph.exists_edge_of_branch? hx
        exact hS e he (hsource ▸ hn)
    exact ⟨List.forall_mem_cons.2 ⟨hn, hrest⟩, hnext⟩
  | last otherwise bs ihOtherwise ih =>
    obtain ⟨hotherwise, hbehind⟩ := ihOtherwise h.head.of_otherwise hfirst
    obtain ⟨hrest, hnext⟩ := ih h.tail hbehind
    exact ⟨fun n hn => (List.mem_append.1 hn).elim (hotherwise n) (hrest n), hnext⟩
  | option n body options otherwise bs ihBody ihOthers ih =>
    obtain ⟨-, -, htrue, hfalse⟩ := h.head.of_option
    have hn := hfirst n.id rfl
    have hbranch (handle : String) : ∀ x ∈ g.branch? n.id handle, S x := by
      intro x hx
      obtain ⟨e, he, hsource, rfl, -⟩ := Graph.exists_edge_of_branch? hx
      exact hS e he (hsource ▸ hn)
    obtain ⟨hbody, hbehind⟩ := ihBody h.head.of_body (htrue ▸ hbranch handleTrue)
    obtain ⟨hothers, -⟩ := ihOthers h.head.of_others (hfalse ▸ hbranch handleFalse)
    obtain ⟨hrest, hnext⟩ := ih h.tail hbehind
    refine ⟨fun m hm => ?_, hnext⟩
    rw [listNodes_option] at hm
    rcases List.mem_cons.1 hm with rfl | hm
    · exact hn
    · rcases List.mem_append.1 hm with hm | hm
      · exact hbody m hm
      · exact (List.mem_append.1 hm).elim (hothers m) (hrest m)

/-! ## Where branches meet -/

/-- Behind a gate no place is sure to come but the end. -/
theorem meetsAt_gate (h : Standing g rank (.step n :: bs) next)
    (hcondition : n.kind.isCondition = true) (hnext : Graph.Passes g none next) :
    Graph.MeetsAt g n.id none := by
  obtain ⟨hkind, -, hgateway⟩ := h.of_step
  obtain ⟨htrue, hfalse⟩ := hgateway hcondition
  refine ⟨⟨n.kind, hkind, fun hno => ?_, fun _ => ⟨?_, ?_⟩⟩, fun goal hgoal => ?_⟩
  · rw [hcondition] at hno
    cases hno
  · rw [htrue]
    exact h.tail.passes (fun _ => rfl) hnext
  · rw [hfalse]
    exact .here
  · obtain ⟨kind, hkind', -, hbranch⟩ := hgoal
    rw [hkind] at hkind'
    cases hkind'
    have hstopped := (hbranch hcondition).2
    rwa [hfalse] at hstopped

/-- The branches of an option and of those behind it meet at the place behind the choice, or at the
end when a gate stands in one of them. -/
theorem meetsAt (hg : g.Ranked rank)
    (h : Standing g rank [.choice ((n, body) :: options) otherwise] next)
    (hnext : Graph.Passes g none next) :
    Graph.MeetsAt g n.id
      (if gated (.choice ((n, body) :: options) otherwise) then none else next) := by
  obtain ⟨hkind, hcondition, htrue, hfalse⟩ := h.of_option
  have hgated : gated (.choice ((n, body) :: options) otherwise)
      = (listGated body || listGated [.choice options otherwise]) := by
    simp [gated, optionsGated, listGated, Bool.or_assoc]
  rw [hgated]
  constructor
  -- both branches come to what is behind the choice, unless a gate may stop one of them
  · have hpasses : ∀ goal, ((listGated body || listGated [.choice options otherwise]) = true →
        goal = none) → Graph.Passes g goal next → Graph.PassesBehind g goal n.id := by
      intro goal hgoal hbehind
      refine ⟨n.kind, hkind, fun hno => ?_, fun _ => ⟨?_, ?_⟩⟩
      · rw [hcondition] at hno
        cases hno
      · rw [htrue]
        exact h.of_body.passes (fun hg => hgoal (Bool.or_eq_true_iff.2 (.inl hg))) hbehind
      · rw [hfalse]
        exact h.of_others.passes (fun hg => hgoal (Bool.or_eq_true_iff.2 (.inr hg))) hbehind
    split
    · exact hpasses none (fun _ => rfl) hnext
    · rename_i hno
      exact hpasses next (fun hg => absurd hg hno) .here
  · intro goal hgoal
    obtain ⟨kind, hkind', -, hbranch⟩ := hgoal
    rw [hkind] at hkind'
    cases hkind'
    obtain ⟨hthen, helse⟩ := hbranch hcondition
    rw [htrue] at hthen
    rw [hfalse] at helse
    cases goal with
    | none =>
      split
      · exact .here
      · exact hnext
    | some m =>
      -- nothing that stands in a branch comes again behind the choice
      have hbehind {x : Node} (hx : x ∈ listNodes body ∨ x ∈ listNodes [.choice options otherwise])
          (hpasses : Graph.Passes g (some x.id) next) : False := by
        cases next with
        | none => cases hpasses.eq_none
        | some k =>
          have hlt := (h.mem_option (.inr hx)).2 k rfl
          have hle := hg.le_of_passes hpasses
          omega
      rcases h.of_body.of_passes hthen with ⟨x, hx, rfl⟩ | ⟨hgate, hpasses⟩
      · rcases h.of_others.of_passes helse with ⟨y, hy, hid⟩ | ⟨-, hpasses⟩
        · have := h.sorted_option.2.2.2 x hx y hy
          rw [hid] at this
          omega
        · exact (hbehind (.inl hx) hpasses).elim
      · rcases h.of_others.of_passes helse with ⟨y, hy, rfl⟩ | ⟨hgate', -⟩
        · exact (hbehind (.inr hy) hpasses).elim
        · rw [hgate, hgate']
          exact hpasses

end Standing

/-! ## Blocks inside blocks -/

/-- The lists of blocks inside a block: the bodies of the options of a choice, and what is left
otherwise. -/
def branches : Block → List (List Block)
  | step _ => []
  | choice options otherwise => options.map (·.2) ++ [otherwise]

/-- What is left of a list of blocks somewhere inside other blocks, with the place behind it when
there is one behind the others. -/
inductive Within (bs : List Block) (next : Option String) : List Block → Option String → Prop
  | refl : Within bs next bs next
  | behind {b : Block} {rest : List Block} {place : Option String}
    (h : Within bs next (b :: rest) place) : Within bs next rest place
  | inside {b : Block} {branch rest : List Block} {place : Option String}
    (h : Within bs next (b :: rest) place) (hmem : branch ∈ b.branches) :
    Within bs next branch (listFirst place rest)

/-- What is further in a list that is further in is further in the list around both. -/
theorem Within.trans {as bs cs : List Block} {x y z : Option String} (h : Within as x bs y)
    (h' : Within bs y cs z) : Within as x cs z := by
  induction h' with
  | refl => exact h
  | behind _ ih => exact ih.behind
  | inside _ hmem ih => exact ih.inside hmem

/-- A branch stands in front of the place behind the block. -/
theorem Standing.of_branch {b : Block} {branch : List Block} {next : Option String}
    (h : Standing g rank [b] next) (hmem : branch ∈ b.branches) : Standing g rank branch next := by
  cases b with
  | step n => cases hmem
  | choice options otherwise =>
    induction options with
    | nil =>
      rw [List.mem_singleton.1 hmem]
      exact h.of_otherwise
    | cons o options ih =>
      rcases List.mem_cons.1 hmem with rfl | hmem
      · exact h.of_body
      · exact ih h.of_others hmem

/-- Blocks inside blocks that stand in a graph stand in it, and behind them runs end when they do
behind the others. -/
theorem Within.standing {bs bs' : List Block} {next next' : Option String}
    (hwithin : Within bs next bs' next') (h : Standing g rank bs next)
    (hnext : Graph.Passes g none next) :
    Standing g rank bs' next' ∧ Graph.Passes g none next' := by
  induction hwithin with
  | refl => exact ⟨h, hnext⟩
  | behind _ ih => exact ⟨ih.1.tail, ih.2⟩
  | inside _ hmem ih => exact ⟨ih.1.head.of_branch hmem, ih.1.tail.passes (fun _ => rfl) ih.2⟩

end Block

end Automation
