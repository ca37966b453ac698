import Automation.Program.Lowering
import Automation.Proofs.Program.Wiring
import Automation.Proofs.Topology.Delimited

/-!
# Programs of native graphs

The walk that lowers a graph gives the block of the node where it stands and goes on behind it
(`Graph.lowerFrom_succ`), so what it gives is told step by step. A region of a native graph is
lowered to blocks that the graph follows, with the nodes of the region
(`Graph.lowered_of_lowerFrom`). What is wired into a program is therefore the graph that it was made
from, as far as paths lead (`Graph.programmed_of_program`).
-/

namespace Automation

namespace Block

mutual
/-- Whether a block can be told from what it is written as: conditions that are steps have neither
names nor flags, and only the first option of a choice has flags. -/
def Shaped : Block → Prop
  | step node => node.kind.isCondition = true → node.label.truthy = false ∧ node.flags = []
  | choice options otherwise => ((∀ o ∈ options.tail, o.1.flags = []) ∧ options ≠ [])
      ∧ OptionsShaped options ∧ ListShaped otherwise
termination_by structural b => b

/-- Whether a list of blocks can be told from what it is written as. -/
def ListShaped : List Block → Prop
  | [] => True
  | b :: bs => Shaped b ∧ ListShaped bs
termination_by structural bs => bs

/-- Whether options can be told from what they are written as. -/
def OptionsShaped : List (Node × List Block) → Prop
  | [] => True
  | (node, body) :: rest => node.kind.isCondition = true ∧ ListShaped body ∧ OptionsShaped rest
termination_by structural options => options
end

end Block

namespace Graph

open Block
open JoinTable (Exact)

variable {g : Graph}

/-- Blocks that a region is lowered to. -/
structure Lowered (g : Graph) (current stop : Option String) (ids : List String) (bs : List Block) :
    Prop where
  first : listFirst stop bs = current
  follows : ListFollows g stop bs
  perm : ((listNodes bs).map (·.id)).Perm ids
  mem : ∀ n ∈ listNodes bs, n ∈ g.nodes
  shaped : ListShaped bs

theorem nodeAt_eq_ok {id : String} {n : Node} (h : g.nodeAt id = .ok n) :
    n ∈ g.nodes ∧ n.id = id ∧ g.kind? id = some n.kind := by
  have hlast := Outcome.orFault_eq_ok.1 h
  obtain ⟨hmem, hid⟩ := mem_of_lastNode?_eq_some hlast
  exact ⟨hmem, hid, by rw [kind?, hlast, Option.map_some]⟩

/-- A gate is a condition that stops the run when it fails, with neither a name nor flags. -/
theorem isGate_iff {n : Node} : g.isGate n = true ↔ n.kind.isCondition = true
    ∧ g.whenFalse? n.id = none ∧ n.label.truthy = false ∧ n.flags = [] := by
  simp [isGate, and_assoc]

/-- No blocks stand for a region without nodes. -/
theorem Lowered.nil (stop : Option String) : Lowered g stop stop [] [] :=
  ⟨rfl, trivial, .nil, by simp [listNodes], trivial⟩

/-- A step in front of what is behind it. -/
theorem Lowered.step {n : Node} {stop next : Option String} {ids : List String} {bs : List Block}
    (h : Lowered g next stop ids bs) (hn : n ∈ g.nodes) (hnext : g.next? n.exit = next)
    (hfalse : n.kind.isCondition = true → g.whenFalse? n.id = none)
    (hshaped : n.kind.isCondition = true → n.label.truthy = false ∧ n.flags = []) :
    Lowered g (some n.id) stop (n.id :: ids) (.step n :: bs) := by
  refine ⟨rfl, ⟨⟨?_, hfalse⟩, h.follows⟩, ?_, ?_, ⟨hshaped, h.shaped⟩⟩
  · rw [h.first]
    exact hnext
  · rw [listNodes, Block.nodes, List.singleton_append, List.map_cons]
    exact h.perm.cons n.id
  · rw [listNodes, Block.nodes, List.singleton_append]
    intro m hm
    rcases List.mem_cons.1 hm with rfl | hm
    · exact hn
    · exact h.mem m hm

/-! ## The walk, node by node -/

section Walk

variable {limits : Limits} {r : TopologyReport} {steps levels : Nat} {join stop : Option String}

/-- The blocks of a branch up to its join. -/
def lowerBranch (limits : Limits) (g : Graph) (r : TopologyReport) (join : Option String)
    (steps levels : Nat) (target : Option String) : Outcome (List Block) :=
  match target, levels with
  | none, _ => .ok []
  | some _, 0 => Outcome.tooLarge (.branchDepth limits.maxNesting)
  | some target, levels + 1 => g.lowerFrom limits r join steps levels (some target)

/-- A condition and its further options, with the blocks of their branches. -/
def lowerOptions (limits : Limits) (g : Graph) (r : TopologyReport) (join : Option String)
    (steps levels : Nat) (chain : List Node) : Outcome (List (Node × List Block)) :=
  chain.mapM fun n => do return (n, ← g.lowerBranch limits r join steps levels (g.whenTrue? n.id))

/-- The choice that a condition is lowered to. -/
def lowerChoice (limits : Limits) (g : Graph) (r : TopologyReport) (steps levels : Nat) (n : Node) :
    Outcome Block := do
  let join := r.join? n.id
  let chain := n :: (← g.furtherOptions r join steps n.id)
  let options ← g.lowerOptions limits r join steps levels chain
  let otherwise ← g.lowerBranch limits r join steps levels
    ((chain.getLast?.map (·.id)).bind g.whenFalse?)
  return .choice options otherwise

/-- The block that a node is lowered to. -/
def lowerNode (limits : Limits) (g : Graph) (r : TopologyReport) (steps levels : Nat) (n : Node) :
    Outcome Block :=
  if n.kind.isCondition && !g.isGate n then g.lowerChoice limits r steps levels n
  else .ok (.step n)

/-- Where the walk goes on behind the block of a node. -/
def behind? (g : Graph) (r : TopologyReport) (n : Node) : Option String :=
  if !n.kind.isCondition then g.successor? n.id
  else if g.isGate n then g.whenTrue? n.id
  else r.join? n.id

/-- Behind a node that is no condition lies its successor. -/
theorem lowerNode_step {n : Node} (h : n.kind.isCondition = false) :
    g.lowerNode limits r steps levels n = .ok (.step n) ∧ g.behind? r n = g.successor? n.id := by
  simp [lowerNode, behind?, h]

/-- A gate is lowered to a step as well, and the walk goes on where it holds. -/
theorem lowerNode_gate {n : Node} (h : g.isGate n = true) :
    g.lowerNode limits r steps levels n = .ok (.step n) ∧ g.behind? r n = g.whenTrue? n.id := by
  simp [lowerNode, behind?, h, (isGate_iff.1 h).1]

/-- Any other condition is lowered to a choice, and the walk goes on at its join. -/
theorem lowerNode_choice {n : Node} (h : n.kind.isCondition = true) (hgate : g.isGate n = false) :
    g.lowerNode limits r steps levels n = g.lowerChoice limits r steps levels n
      ∧ g.behind? r n = r.join? n.id := by
  simp [lowerNode, behind?, h, hgate]

theorem lowerFrom_stop : g.lowerFrom limits r stop steps levels stop = .ok [] := by
  cases steps with
  | zero => rfl
  | succ steps =>
    cases stop with
    | none => rfl
    | some id => rw [lowerFrom, if_pos rfl]

/-- The walk gives the block of the node where it stands, and goes on behind it. -/
theorem lowerFrom_succ {id : String} (hstop : stop ≠ some id) :
    g.lowerFrom limits r stop (steps + 1) levels (some id) = (do
      let n ← g.nodeAt id
      return (← g.lowerNode limits r steps levels n)
        :: (← g.lowerFrom limits r stop steps levels (g.behind? r n))) := by
  rw [lowerFrom, if_neg hstop.symm]
  cases hnode : g.nodeAt id with
  | error e => rfl
  | ok n =>
    obtain ⟨-, rfl, -⟩ := nodeAt_eq_ok hnode
    rw [Outcome.ok_bind, Outcome.ok_bind, lowerNode, behind?]
    -- steps and gates go on behind themselves, choices at their join
    cases hcondition : n.kind.isCondition with
    | false => rfl
    | true =>
      cases hgate : g.isGate n with
      | true => rfl
      | false =>
        simp only [lowerChoice, Bool.not_true, Bool.not_false, Bool.and_self, if_true, if_false,
          Bool.false_eq_true, bind_assoc, pure_bind]
        rfl

/-- What a walk that gives blocks did at the node where it stood. -/
theorem of_lowerFrom_succ_eq_ok {id : String} {bs : List Block}
    (h : g.lowerFrom limits r stop (steps + 1) levels (some id) = .ok bs) :
    (stop = some id ∧ bs = []) ∨ stop ≠ some id ∧ ∃ n b rest, n ∈ g.nodes ∧ n.id = id
      ∧ g.kind? n.id = some n.kind ∧ g.lowerNode limits r steps levels n = .ok b
      ∧ g.lowerFrom limits r stop steps levels (g.behind? r n) = .ok rest ∧ bs = b :: rest := by
  by_cases hstop : stop = some id
  · rw [← hstop, lowerFrom_stop] at h
    cases h
    exact .inl ⟨hstop, rfl⟩
  · rw [lowerFrom_succ hstop] at h
    obtain ⟨n, hnode, h⟩ := Outcome.bind_eq_ok.1 h
    obtain ⟨b, hb, h⟩ := Outcome.bind_eq_ok.1 h
    obtain ⟨rest, hrest, h⟩ := Outcome.bind_eq_ok.1 h
    cases h
    obtain ⟨hmem, rfl, hkind⟩ := nodeAt_eq_ok hnode
    exact .inr ⟨hstop, n, b, rest, hmem, rfl, hkind, hb, hrest, rfl⟩

/-- The parts of a choice that a condition is lowered to. -/
theorem lowerChoice_eq_ok {n : Node} {b : Block} :
    g.lowerChoice limits r steps levels n = .ok b ↔ ∃ more options otherwise,
      g.furtherOptions r (r.join? n.id) steps n.id = .ok more
      ∧ g.lowerOptions limits r (r.join? n.id) steps levels (n :: more) = .ok options
      ∧ g.lowerBranch limits r (r.join? n.id) steps levels
        (((n :: more).getLast?.map (·.id)).bind g.whenFalse?) = .ok otherwise
      ∧ b = .choice options otherwise := by
  constructor
  · intro h
    obtain ⟨more, hmore, h⟩ := Outcome.bind_eq_ok.1 h
    obtain ⟨options, hoptions, h⟩ := Outcome.bind_eq_ok.1 h
    obtain ⟨otherwise, hotherwise, h⟩ := Outcome.bind_eq_ok.1 h
    cases h
    exact ⟨more, options, otherwise, hmore, hoptions, hotherwise, rfl⟩
  · rintro ⟨more, options, otherwise, hmore, hoptions, hotherwise, rfl⟩
    rw [lowerChoice, hmore, Outcome.ok_bind]
    dsimp only
    rw [hoptions, Outcome.ok_bind, hotherwise]
    rfl

/-- An option is a condition of the chain, with the blocks of its branch. -/
theorem of_mem_lowerOptions {chain : List Node} {options : List (Node × List Block)}
    (h : g.lowerOptions limits r join steps levels chain = .ok options) {o : Node × List Block}
    (ho : o ∈ options) :
    o.1 ∈ chain ∧ g.lowerBranch limits r join steps levels (g.whenTrue? o.1.id) = .ok o.2 := by
  obtain ⟨n, hn, ho⟩ := Outcome.exists_of_mem_mapM h ho
  obtain ⟨body, hbody, ho⟩ := Outcome.bind_eq_ok.1 ho
  cases ho
  exact ⟨hn, hbody⟩

/-- Options can be lowered when their branches can. -/
theorem exists_lowerOptions {chain : List Node}
    (h : ∀ n ∈ chain, ∃ body,
      g.lowerBranch limits r join steps levels (g.whenTrue? n.id) = .ok body) :
    ∃ options, g.lowerOptions limits r join steps levels chain = .ok options :=
  Outcome.exists_mapM_eq_ok fun n hn => by
    obtain ⟨body, hbody⟩ := h n hn
    exact ⟨(n, body), by rw [hbody]; rfl⟩

/-- A program is made of the triggers, the gates at the start and the blocks of the walk behind
them. -/
theorem program_eq_ok {p : Program} : g.program limits r = .ok p ↔ ∃ gates start body,
    g.leadingGates g.stepBound r.entry = .ok (gates, start) ∧ 0 ≤ limits.maxNesting
      ∧ g.lowerFrom limits r none g.stepBound limits.maxNesting.toNat start = .ok body
      ∧ p = ⟨g.triggers, gates, body⟩ := by
  constructor
  · intro h
    obtain ⟨⟨gates, start⟩, hgates, h⟩ := Outcome.bind_eq_ok.1 h
    dsimp only at h
    split at h
    · obtain ⟨_, hlarge, -⟩ := Outcome.bind_eq_ok.1 h
      cases hlarge
    · rename_i hlimit
      obtain ⟨body, hbody, h⟩ := Outcome.bind_eq_ok.1 h
      cases h
      exact ⟨gates, start, body, hgates, Int.not_lt.1 hlimit, hbody, rfl⟩
  -- with gates within the limit and a body, there is a program
  · rintro ⟨gates, start, body, hgates, hlimit, hbody, rfl⟩
    unfold program
    rw [hgates, Outcome.ok_bind]
    dsimp only
    rw [if_neg (Int.not_lt.2 hlimit), hbody]
    rfl

end Walk

/-! ## Chains of conditions -/

/-- The options that a condition and those behind its failure are lowered to, with what is left when
none of them holds. -/
structure Chained (g : Graph) (join : Option String) (n : Node) (more : List Node)
    (ids : List String) (options : List (Node × List Block)) (otherwise : List Block) : Prop where
  heads : options.map (·.1) = n :: more
  follows : OptionsFollow g join (listFirst join otherwise) options ∧ ListFollows g join otherwise
  perm : ((optionNodes options ++ listNodes otherwise).map (·.id)).Perm ids
  mem : ∀ m ∈ optionNodes options ++ listNodes otherwise, m ∈ g.nodes
  shaped : OptionsShaped options ∧ ListShaped otherwise

theorem Chained.optionFirst {join fallback : Option String} {n : Node} {more : List Node}
    {ids : List String} {options : List (Node × List Block)} {otherwise : List Block}
    (h : Chained g join n more ids options otherwise) :
    Block.optionFirst fallback options = some n.id := by
  obtain ⟨⟨n', body⟩, rest, rfl, hn, -⟩ := List.map_eq_cons_iff.1 h.heads
  cases hn
  rfl

/-- An option in front of what its failure leads to. -/
theorem Chained.cons {join : Option String} {n : Node} {more : List Node} {xs ys : List String}
    {body : List Block} {options : List (Node × List Block)} {otherwise : List Block}
    (hn : n ∈ g.nodes) (hcondition : n.kind.isCondition = true)
    (hbody : Lowered g (g.whenTrue? n.id) join xs body)
    (hheads : options.map (·.1) = more)
    (hfalse : g.whenFalse? n.id = Block.optionFirst (listFirst join otherwise) options)
    (hfollows : OptionsFollow g join (listFirst join otherwise) options
      ∧ ListFollows g join otherwise)
    (hperm : ((optionNodes options ++ listNodes otherwise).map (·.id)).Perm ys)
    (hmem : ∀ m ∈ optionNodes options ++ listNodes otherwise, m ∈ g.nodes)
    (hshaped : OptionsShaped options ∧ ListShaped otherwise) :
    Chained g join n more (n.id :: (xs ++ ys)) ((n, body) :: options) otherwise := by
  refine ⟨by rw [List.map_cons, hheads], ⟨⟨⟨?_, hfalse⟩, hbody.follows, hfollows.1⟩, hfollows.2⟩,
    ?_, ?_, ⟨⟨hcondition, hbody.shaped, hshaped.1⟩, hshaped.2⟩⟩
  -- success leads to where the body starts
  · exact hbody.first.symm
  · rw [optionNodes, List.cons_append, List.cons_append, List.map_cons, List.append_assoc,
      List.map_append]
    exact (hbody.perm.append hperm).cons n.id
  · rw [optionNodes, List.cons_append, List.cons_append, List.append_assoc]
    intro m hm
    rcases List.mem_cons.1 hm with rfl | hm
    · exact hn
    · exact (List.mem_append.1 hm).elim (hbody.mem m) (hmem m)

/-- A further option is the condition that the failure leads to, with the same join. -/
theorem of_furtherOptions_eq_cons {r : TopologyReport} {join : Option String} {bound : Nat}
    {id : String} {m : Node} {more : List Node}
    (h : g.furtherOptions r join bound id = .ok (m :: more)) :
    ∃ bound', g.furtherOptions r join bound' m.id = .ok more ∧ g.whenFalse? id = some m.id
      ∧ join ≠ some m.id ∧ m ∈ g.nodes ∧ g.kind? m.id = some m.kind
      ∧ m.kind.isCondition = true ∧ m.flags = [] ∧ r.join? m.id = join := by
  cases bound with
  | zero => cases h
  | succ bound =>
    rw [furtherOptions] at h
    split at h
    · cases h
    · rename_i target htarget
      split at h
      · cases h
      · rename_i hne
        obtain ⟨node, hnode, h⟩ := Outcome.bind_eq_ok.1 h
        obtain ⟨hmem, rfl, hkind⟩ := nodeAt_eq_ok hnode
        split at h
        -- only a condition on its own way to the join is a further option
        · rename_i hoption
          obtain ⟨rest, hrest, h⟩ := Outcome.bind_eq_ok.1 h
          cases h
          simp only [Bool.and_eq_true, List.isEmpty_iff, decide_eq_true_eq] at hoption
          obtain ⟨⟨⟨hcondition, hflags⟩, -⟩, hjoin⟩ := hoption
          exact ⟨bound, hrest, htarget, Ne.symm hne, hmem, hkind, hcondition, hflags, hjoin⟩
        · cases h

/-- Further options carry no flags. -/
theorem flags_of_furtherOptions {r : TopologyReport} {join : Option String} {bound : Nat}
    {id : String} {more : List Node} (h : g.furtherOptions r join bound id = .ok more) :
    ∀ n ∈ more, n.flags = [] := by
  induction more generalizing bound id with
  | nil => simp
  | cons m more ih =>
    obtain ⟨bound', hmore, -, -, -, -, -, hflags, -⟩ := of_furtherOptions_eq_cons h
    exact List.forall_mem_cons.2 ⟨hflags, ih hmore⟩

section Chain

variable {r : TopologyReport} {rank : String → Nat} {top : Nat} {join : Option String} {steps : Nat}
  (branch : Option String → Outcome (List Block))
  (hbranch : ∀ target ids bs, Delimited g r.joins target join ids →
    (∀ id ∈ target, top < rank id + steps) → branch target = .ok bs → Lowered g target join ids bs)

include hbranch

/-- A condition with its further options is lowered to a choice, when its branches are lowered. -/
theorem chained_of_furtherOptions (hg : g.Ranked rank) (ht : Exact g r.joins) {bound : Nat} {n : Node}
    {more : List Node} {xs ys : List String} {options : List (Node × List Block)}
    {otherwise : List Block} (hn : n ∈ g.nodes) (hcondition : n.kind.isCondition = true)
    (hxs : Delimited g r.joins (g.whenTrue? n.id) join xs)
    (hys : Delimited g r.joins (g.whenFalse? n.id) join ys) (hsteps : top ≤ rank n.id + steps)
    (hmore : g.furtherOptions r join bound n.id = .ok more)
    (hoptions : (n :: more).mapM (fun n => do return (n, ← branch (g.whenTrue? n.id)))
      = (.ok options : Outcome _))
    (hotherwise : branch (((n :: more).getLast?.map (·.id)).bind g.whenFalse?) = .ok otherwise) :
    Chained g join n more (n.id :: (xs ++ ys)) options otherwise := by
  have hlater {n : Node} (hsteps : top ≤ rank n.id + steps) (handle : String) :
      ∀ id ∈ g.branch? n.id handle, top < rank id + steps := fun id hid => by
    have := hg.lt_of_branch? hid
    omega
  -- the induction is over the further options, each of which stands behind the failure of the one
  -- before
  induction more generalizing bound n xs ys options with
  | nil =>
    rw [List.mapM_cons] at hoptions
    obtain ⟨_, hfirst, hoptions⟩ := Outcome.bind_eq_ok.1 hoptions
    obtain ⟨body, hbody, hfirst⟩ := Outcome.bind_eq_ok.1 hfirst
    cases hfirst
    cases hoptions
    have hleft := hbranch _ _ _ hys (hlater hsteps _) hotherwise
    exact .cons hn hcondition (hbranch _ _ _ hxs (hlater hsteps _) hbody) rfl hleft.first.symm
      ⟨trivial, hleft.follows⟩ hleft.perm hleft.mem ⟨trivial, hleft.shaped⟩
  | cons m more ih =>
    rw [List.mapM_cons] at hoptions
    obtain ⟨_, hfirst, hoptions⟩ := Outcome.bind_eq_ok.1 hoptions
    obtain ⟨body, hbody, hfirst⟩ := Outcome.bind_eq_ok.1 hfirst
    cases hfirst
    obtain ⟨rest, hrest, hoptions⟩ := Outcome.bind_eq_ok.1 hoptions
    cases hoptions
    obtain ⟨bound', hmore, hfalse, hne, hm, hkind, hmcondition, -, hmjoin⟩ :=
      of_furtherOptions_eq_cons hmore
    -- the region behind the failure is that of the further condition, and nothing lies behind its join
    rw [hfalse] at hys
    obtain ⟨name, behind, whenTrue, whenFalse, rfl, hjoin, hbehind, htrue, hfalse'⟩ :=
      hys.branch ht hne hkind hmcondition
    rw [← join?_eq_place hjoin, hmjoin] at hbehind htrue hfalse'
    obtain rfl : behind = [] := hbehind.of_eq
    rw [List.nil_append]
    have hrank := hg.lt_of_branch? hfalse
    have hchained := ih hm hmcondition htrue hfalse' (by omega) hmore hrest hotherwise
    exact .cons hn hcondition (hbranch _ _ _ hxs (hlater hsteps _) hbody) hchained.heads
      (hfalse.trans hchained.optionFirst.symm) hchained.follows hchained.perm hchained.mem
      hchained.shaped

end Chain

/-- A choice in front of what is behind it. -/
theorem Lowered.choice {n : Node} {more : List Node} {join stop : Option String}
    {ids behind : List String} {options : List (Node × List Block)} {otherwise bs : List Block}
    (h : Lowered g join stop behind bs) (hchained : Chained g join n more (n.id :: ids) options otherwise)
    (hflags : ∀ m ∈ more, m.flags = []) :
    Lowered g (some n.id) stop (n.id :: (behind ++ ids)) (.choice options otherwise :: bs) := by
  refine ⟨hchained.optionFirst, ⟨?_, h.follows⟩, ?_, ?_, ⟨⟨⟨fun o ho => ?_, ?_⟩, hchained.shaped⟩,
    h.shaped⟩⟩
  · rw [h.first]
    exact hchained.follows
  -- the region has the ids in another order than the blocks, those behind in front
  · rw [listNodes, Block.nodes, List.map_append]
    exact (hchained.perm.append h.perm).trans
      ((@List.perm_append_comm _ ids behind).cons n.id)
  · rw [listNodes, Block.nodes]
    exact fun m hm => (List.mem_append.1 hm).elim (hchained.mem m) (h.mem m)
  · -- the further options are the tail of the chain
    refine hflags o.1 ?_
    have hmem : o.1 ∈ (options.map (·.1)).tail := by
      rw [← List.map_tail]
      exact List.mem_map_of_mem ho
    rwa [hchained.heads] at hmem
  · rintro rfl
    exact nomatch hchained.heads

/-! ## Regions -/

variable {limits : Limits} {r : TopologyReport} {rank : String → Nat} {top : Nat}

/-- A condition that stops the run when it fails is joined by the end, so the walk goes on behind it
up to the end. -/
theorem Delimited.gate (ht : Exact g r.joins) {n : Node} {stop : Option String} {ids : List String}
    (h : Delimited g r.joins (some n.id) stop ids) (hne : stop ≠ some n.id)
    (hkind : g.kind? n.id = some n.kind) (hgate : g.isGate n = true) :
    ∃ rest, ids = n.id :: rest ∧ Delimited g r.joins (g.whenTrue? n.id) stop rest
      ∧ g.whenFalse? n.id = none := by
  obtain ⟨hcondition, hfalse, -⟩ := isGate_iff.1 hgate
  obtain ⟨join, behind, whenTrue, whenFalse, rfl, -, hbehind, htrue, hfalse'⟩ :=
    h.branch ht hne hkind hcondition
  rw [hfalse] at hfalse'
  obtain ⟨rfl, hjoin⟩ := hfalse'.of_none
  rw [hjoin] at hbehind htrue
  obtain ⟨rfl, rfl⟩ := hbehind.of_none
  exact ⟨_, rfl, by rwa [List.append_nil], hfalse⟩

/-- The region of a condition is lowered to its choice and what is behind the join, when walks with
fewer steps give blocks that the graph follows. -/
theorem lowered_of_lowerChoice (hg : g.Ranked rank) (ht : Exact g r.joins) {steps levels : Nat}
    (hwalks : ∀ {levels : Nat} {current stop : Option String} {ids : List String} {bs : List Block},
      Delimited g r.joins current stop ids → (∀ id ∈ current, top < rank id + steps) →
      g.lowerFrom limits r stop steps levels current = .ok bs → Lowered g current stop ids bs)
    {n : Node} {stop : Option String} {ids : List String} {b : Block} {bs : List Block}
    (hregion : Delimited g r.joins (some n.id) stop ids) (hn : n ∈ g.nodes)
    (hstop : stop ≠ some n.id) (hkind : g.kind? n.id = some n.kind)
    (hcondition : n.kind.isCondition = true) (hsteps : top ≤ rank n.id + steps)
    (hb : g.lowerChoice limits r steps levels n = .ok b)
    (hbs : g.lowerFrom limits r stop steps levels (r.join? n.id) = .ok bs) :
    Lowered g (some n.id) stop ids (b :: bs) := by
  obtain ⟨more, options, otherwise, hmore, hoptions, hotherwise, rfl⟩ := lowerChoice_eq_ok.1 hb
  obtain ⟨join, behind, whenTrue, whenFalse, rfl, hjoin, hbehind, htrue, hfalse⟩ :=
    hregion.branch ht hstop hkind hcondition
  have hlater : ∀ id ∈ r.join? n.id, top < rank id + steps := fun id hid => by
    rw [join?_eq_place hjoin] at hid
    have := (hg.lt_of_join? ht hjoin id hid).2
    omega
  rw [← join?_eq_place hjoin] at hbehind htrue hfalse
  -- the branches are walked with fewer steps up to the join, and what is behind it as well
  have hchained : Chained g (r.join? n.id) n more (n.id :: (whenTrue ++ whenFalse)) options
      otherwise := by
    refine chained_of_furtherOptions (g.lowerBranch limits r (r.join? n.id) steps levels) ?_ hg ht hn
      hcondition htrue hfalse hsteps hmore hoptions hotherwise
    intro target ids bs hregion hlater hbs
    cases target with
    | none =>
      cases hbs
      obtain ⟨rfl, hnone⟩ := hregion.of_none
      rw [hnone]
      exact .nil none
    | some target =>
      cases levels with
      | zero => cases hbs
      | succ levels => exact hwalks hregion hlater hbs
  exact (hwalks hbehind hlater hbs).choice hchained (flags_of_furtherOptions hmore)

/-- A region is lowered to blocks that the graph follows. -/
theorem lowered_of_lowerFrom (hg : g.Ranked rank) (hbound : ∀ id, rank id ≤ top)
    (ht : Exact g r.joins) {steps levels : Nat} {current stop : Option String} {ids : List String}
    {bs : List Block} (hregion : Delimited g r.joins current stop ids)
    (hsteps : ∀ id ∈ current, top < rank id + steps)
    (h : g.lowerFrom limits r stop steps levels current = .ok bs) :
    Lowered g current stop ids bs := by
  induction steps generalizing levels current stop ids bs with
  | zero =>
    cases current with
    | none =>
      cases h
      obtain ⟨rfl, rfl⟩ := hregion.of_none
      exact .nil none
    | some id =>
      -- a walk that is under way has steps left, since no rank is above the highest one
      have := hbound id
      have := hsteps id rfl
      omega
  | succ steps ih =>
    cases current with
    | none =>
      cases h
      obtain ⟨rfl, rfl⟩ := hregion.of_none
      exact .nil none
    | some id =>
      obtain ⟨rfl, rfl⟩ | ⟨hne, n, b, rest, hmem, rfl, hkind, hb, hrest, rfl⟩ :=
        of_lowerFrom_succ_eq_ok h
      · rw [hregion.of_eq]
        exact .nil (some id)
      have hsteps := hsteps n.id rfl
      have hlater {next : Option String} (h : ∀ id ∈ next, rank n.id < rank id) :
          ∀ id ∈ next, top < rank id + steps := fun id hid => by
        have := h id hid
        omega
      cases hcondition : n.kind.isCondition with
      | false =>
        obtain ⟨hnode, hbehind⟩ := lowerNode_step (g := g) (r := r) hcondition
        rw [hnode] at hb
        rw [hbehind] at hrest
        cases hb
        obtain ⟨ids', rfl, hregion'⟩ := hregion.step hne hkind hcondition
        refine (ih hregion' (hlater fun _ hid => hg.lt_of_successor? hid) hrest).step hmem ?_ ?_ ?_
        · rw [Node.exit, hcondition]
          rfl
        · rw [hcondition]
          exact fun h => nomatch h
        · rw [hcondition]
          exact fun h => nomatch h
      | true =>
        cases hgate : g.isGate n with
        | true =>
          obtain ⟨hnode, hbehind⟩ := lowerNode_gate (r := r) hgate
          rw [hnode] at hb
          rw [hbehind] at hrest
          cases hb
          obtain ⟨ids', rfl, hregion', hfalse⟩ := hregion.gate ht hne hkind hgate
          refine (ih hregion' (hlater fun _ hid => hg.lt_of_branch? hid) hrest).step hmem ?_
            (fun _ => hfalse) fun _ => (isGate_iff.1 hgate).2.2
          rw [Node.exit, hcondition]
          rfl
        | false =>
          obtain ⟨hnode, hbehind⟩ := lowerNode_choice (r := r) hcondition hgate
          rw [hnode] at hb
          rw [hbehind] at hrest
          exact lowered_of_lowerChoice hg ht ih hregion hmem hne hkind hcondition
            (Nat.le_of_lt_succ hsteps) hb hrest

/-- The gates at the start of a region, with the region behind them. -/
theorem of_leadingGates_eq_ok (ht : Exact g r.joins) {steps : Nat} {current next : Option String}
    {ids : List String} {gates : List Node} (hregion : Delimited g r.joins current none ids)
    (h : g.leadingGates steps current = .ok (gates, next)) :
    (∃ rest, Delimited g r.joins next none rest ∧ ids = gates.map (·.id) ++ rest)
      ∧ gatesFirst next gates = current ∧ GatesFollow g next gates
      ∧ ∀ n ∈ gates, n ∈ g.nodes ∧ g.isGate n = true := by
  -- a gate whose failure leads nowhere takes one node off the region
  induction steps generalizing current ids gates with
  | zero =>
    have hstop : gates = [] ∧ next = current := by
      cases current <;> (cases h; exact ⟨rfl, rfl⟩)
    obtain ⟨rfl, rfl⟩ := hstop
    exact ⟨⟨ids, hregion, rfl⟩, rfl, trivial, by simp⟩
  | succ steps ih =>
    cases current with
    | none =>
      cases h
      exact ⟨⟨ids, hregion, rfl⟩, rfl, trivial, by simp⟩
    | some id =>
      rw [leadingGates] at h
      obtain ⟨node, hnode, h⟩ := Outcome.bind_eq_ok.1 h
      obtain ⟨hmem, rfl, hkind⟩ := nodeAt_eq_ok hnode
      split at h
      · rename_i hgate
        obtain ⟨⟨rest, last⟩, hrest, h⟩ := Outcome.bind_eq_ok.1 h
        cases h
        obtain ⟨ids', rfl, hbehind, hfalse⟩ := hregion.gate ht (by simp) hkind hgate
        obtain ⟨⟨ids'', hids, heq⟩, hfirst, hfollows, hgates⟩ := ih hbehind hrest
        refine ⟨⟨ids'', hids, by rw [heq]; rfl⟩, rfl, ⟨⟨hfirst.symm, hfalse⟩, hfollows⟩, ?_⟩
        exact List.forall_mem_cons.2 ⟨⟨hmem, hgate⟩, hgates⟩
      · cases h
        exact ⟨⟨ids, hregion, rfl⟩, rfl, trivial, by simp⟩

/-! ## Programs -/

/-- A program that a graph follows, made of the nodes that paths lead to. Those behind the triggers
may be in it more than once. -/
structure Covered (g : Graph) (p : Program) : Prop where
  followed : p.FollowedBy g
  triggers : p.triggers = g.triggers
  gates : ∀ n ∈ p.gates, g.isGate n = true
  shaped : ListShaped p.body
  behind_iff : ∀ n, n ∈ p.gates ++ listNodes p.body
    ↔ n ∈ g.nodes ∧ n.kind.isTrigger = false ∧ g.Reaches n.id

theorem Covered.mem_iff {p : Program} (h : Covered g p) (n : Node) :
    n ∈ p.nodes ↔ n ∈ g.nodes ∧ g.Reaches n.id := by
  rw [Program.nodes, List.append_assoc, List.mem_append, h.triggers, h.behind_iff]
  constructor
  · rintro (htrigger | ⟨hn, -, hreaches⟩)
    · exact ⟨(List.mem_filter.1 htrigger).1, .trigger htrigger⟩
    · exact ⟨hn, hreaches⟩
  · rintro ⟨hn, hreaches⟩
    cases hkind : n.kind.isTrigger with
    | true => exact .inl (List.mem_filter.2 ⟨hn, hkind⟩)
    | false => exact .inr ⟨hn, rfl, hreaches⟩

/-- The triggers stand first, and nowhere else. -/
theorem Covered.filter_isTrigger {p : Program} (h : Covered g p) :
    p.nodes.filter (·.kind.isTrigger) = g.triggers := by
  have hbehind : (p.gates ++ listNodes p.body).filter (·.kind.isTrigger) = [] :=
    List.filter_eq_nil_iff.2 fun n hn => by simp [((h.behind_iff n).1 hn).2.1]
  rw [Program.nodes, List.append_assoc, List.filter_append, hbehind, List.append_nil, h.triggers,
    Graph.triggers, List.filter_filter]
  simp only [Bool.and_self]

/-- A program that a graph follows, made of the nodes that paths lead to, each once. -/
structure Programmed (g : Graph) (p : Program) : Prop extends Covered g p where
  nodup : (p.nodes.map (·.id)).Nodup

/-- The program of a graph without cycles, whose triggers all lead to the entry, is followed by the
graph. Behind the triggers it is made of the nodes of the region that starts at the entry. -/
theorem covered_of_program (hwf : g.WellFormed) (hg : g.Ranked rank)
    (hbound : ∀ id, rank id ≤ g.nodes.length) (ht : Exact g r.joins)
    (hentry : ∀ n ∈ g.triggers, g.successor? n.id = r.entry) {ids : List String}
    (hregion : Delimited g r.joins r.entry none ids)
    (hids : ∀ id, id ∈ ids ↔ ∃ n ∈ g.nodes, n.id = id ∧ n.kind.isTrigger = false ∧ g.Reaches id)
    {p : Program} (h : g.program limits r = .ok p) :
    Covered g p ∧ ((p.nodes.map (·.id)).Nodup ↔ ids.Nodup) := by
  obtain ⟨gates, start, body, hgates, -, hbody, rfl⟩ := program_eq_ok.1 h
  obtain ⟨⟨rest, hrest, rfl⟩, hfirst, hfollows, hmem⟩ := of_leadingGates_eq_ok ht hregion hgates
  have hlowered := lowered_of_lowerFrom hg hbound ht hrest
    (fun id _ => Nat.lt_of_lt_of_le (Nat.lt_succ_self _) (Nat.le_add_left ..)) hbody
  -- gates and body hold the nodes of the region, each as often as the region does
  have hperm : ((gates ++ listNodes body).map (·.id)).Perm (gates.map (·.id) ++ rest) := by
    rw [List.map_append]
    exact (List.Perm.refl _).append hlowered.perm
  have hmembers : ∀ n ∈ gates ++ listNodes body, n ∈ g.nodes := fun n hn =>
    (List.mem_append.1 hn).elim (fun hn => (hmem n hn).1) (hlowered.mem n)
  have hnodes : (Program.nodes ⟨g.triggers, gates, body⟩)
      = g.triggers ++ (gates ++ listNodes body) := List.append_assoc ..
  have htrigger {n : Node} (hn : n ∈ g.triggers) : n ∈ g.nodes ∧ n.kind.isTrigger = true :=
    List.mem_filter.1 hn
  refine ⟨⟨⟨fun t ht => ?_, ?_, hlowered.follows⟩, rfl, fun n hn => (hmem n hn).2,
    hlowered.shaped, fun n => ?_⟩, ?_⟩
  · rw [hlowered.first, hfirst]
    exact hentry t ht
  · rw [hlowered.first]
    exact hfollows
  · constructor
    · intro hn
      obtain ⟨m, hm, hid, hbehind⟩ := (hids n.id).1 (hperm.subset (List.mem_map_of_mem hn))
      cases hwf.eq_of_id_eq hm (hmembers n hn) hid
      exact ⟨hm, hbehind⟩
    · rintro ⟨hn, hbehind⟩
      obtain ⟨m, hm, hid⟩ := List.mem_map.1 (hperm.symm.subset ((hids n.id).2 ⟨n, hn, rfl, hbehind⟩))
      exact hwf.eq_of_id_eq (hmembers m hm) hn hid ▸ hm
  -- triggers are apart from the others, since no region holds one
  · rw [hnodes, List.map_append, List.nodup_append', hperm.nodup_iff]
    refine ⟨fun h => h.2.1, fun hnodup => ⟨?_, hnodup, fun id hid hid' => ?_⟩⟩
    · exact (List.filter_sublist.map _).nodup hwf.nodup
    · obtain ⟨t, ht, rfl⟩ := List.mem_map.1 hid
      obtain ⟨n, hn, hid, hno, -⟩ := (hids t.id).1 (hperm.subset hid')
      rw [hwf.eq_of_id_eq hn (htrigger ht).1 hid, (htrigger ht).2] at hno
      cases hno

/-- The program of a native graph is followed by the graph. -/
theorem programmed_of_program (hwf : g.WellFormed) (hexit : g.NoExit) {reporting : Limits}
    (hanalyze : g.analyze reporting = .ok r) (hnative : r.isNative = true) {p : Program}
    (h : g.program limits r = .ok p) : Programmed g p := by
  obtain ⟨hacyclic, hagree, hreconvergent⟩ := of_isNative hwf hanalyze hnative
  obtain ⟨rank, hg, hbound⟩ := hwf.exists_ranked_le hacyclic
  obtain ⟨ht, hentry, ids, hregion, hids, hnodup⟩ :=
    exists_delimited hwf hexit hg hbound hagree hanalyze
  obtain ⟨hcovered, hiff⟩ := covered_of_program hwf hg hbound ht hentry hregion hids h
  exact ⟨hcovered, hiff.2 (hnodup.2 hreconvergent)⟩

end Graph

/-! ## Edges of programs -/

/-- Whether an edge out of a node may have a handle. -/
def Node.Admits (n : Node) (handle : Option String) : Prop :=
  (n.kind.isCondition = true → handle = some handleTrue ∨ handle = some handleFalse)
    ∧ (n.kind.isCondition = false → handle = none)

namespace Block

variable {g : Graph} {n : Node} {handle : Option String}

mutual
/-- Every end that a node can have is an exit, or leads nowhere. -/
theorem Follows.mem_exits_or (hhandle : n.Admits handle) {next : Option String} : ∀ {b : Block},
    Follows g next b → Shaped b → n ∈ b.nodes →
    (n.id, handle) ∈ b.exits ∨ g.next? (n.id, handle) = none
  | .step node, h, _, hn => by
    rw [List.mem_singleton.1 hn] at hhandle ⊢
    cases hcondition : node.kind.isCondition with
    | true =>
      -- a condition is left by its true way, and by the other where nothing is tried
      rcases hhandle.1 hcondition with rfl | rfl
      · rw [exits, Node.exit, if_pos hcondition]
        exact .inl (List.mem_singleton.2 rfl)
      · exact .inr (h.2 hcondition)
    | false =>
      rw [hhandle.2 hcondition, exits, Node.exit, if_neg (by simp [hcondition])]
      exact .inl (List.mem_singleton.2 rfl)
  | .choice options otherwise, h, hshaped, hn => by
    rw [nodes] at hn
    rw [exits]
    rcases List.mem_append.1 hn with hn | hn
    · exact (h.1.mem_exits_or hhandle hshaped.2.1 hn).imp_left (List.mem_append_left _)
    · exact (h.2.mem_exits_or hhandle hshaped.2.2 hn).imp_left (List.mem_append_right _)
termination_by structural b => b

theorem ListFollows.mem_exits_or (hhandle : n.Admits handle) {next : Option String} :
    ∀ {bs : List Block}, ListFollows g next bs → ListShaped bs → n ∈ listNodes bs →
    (n.id, handle) ∈ listExits bs ∨ g.next? (n.id, handle) = none
  | [], _, _, hn => nomatch hn
  | b :: bs, h, hshaped, hn => by
    rw [listNodes] at hn
    rw [listExits]
    rcases List.mem_append.1 hn with hn | hn
    · exact (h.1.mem_exits_or hhandle hshaped.1 hn).imp_left (List.mem_append_left _)
    · exact (h.2.mem_exits_or hhandle hshaped.2 hn).imp_left (List.mem_append_right _)
termination_by structural bs => bs

theorem OptionsFollow.mem_exits_or (hhandle : n.Admits handle) {next fallback : Option String} :
    ∀ {options : List (Node × List Block)}, OptionsFollow g next fallback options →
    OptionsShaped options → n ∈ optionNodes options →
    (n.id, handle) ∈ optionExits options ∨ g.next? (n.id, handle) = none
  | [], _, _, hn => nomatch hn
  | (node, body) :: rest, h, hshaped, hn => by
    rw [optionNodes, List.cons_append] at hn
    rw [optionExits, List.append_assoc]
    rcases List.mem_cons.1 hn with rfl | hn
    · refine .inl (List.mem_append_left _ ?_)
      rcases hhandle.1 hshaped.1 with rfl | rfl <;> simp
    · rcases List.mem_append.1 hn with hn | hn
      · exact (h.2.1.mem_exits_or hhandle hshaped.2.1 hn).imp_left fun h =>
          List.mem_append_right _ (List.mem_append_left _ h)
      · exact (h.2.2.mem_exits_or hhandle hshaped.2.2 hn).imp_left fun h =>
          List.mem_append_right _ (List.mem_append_right _ h)
termination_by structural options => options
end

end Block

namespace Graph

open Block

variable {g : Graph} {p : Program}

/-- A node of a graph admits the handles of its edges, when only edges out of conditions have
any. -/
theorem WellFormed.admits (hwf : g.WellFormed)
    (hhandle : ∀ e ∈ g.edges, g.isConditionAt e.source = false → e.handle = none) {e : Edge}
    (he : e ∈ g.edges) {n : Node} (hn : n ∈ g.nodes) (hid : n.id = e.source) :
    n.Admits e.handle := by
  have hat := hwf.isConditionAt_of_mem hn
  rw [hid] at hat
  exact ⟨fun hcondition => hwf.handle he (hat.trans hcondition),
    fun hcondition => hhandle e he (hat.trans hcondition)⟩

/-- A run takes each edge of a well-formed graph. -/
theorem WellFormed.taken (hwf : g.WellFormed) {e : Edge} (he : e ∈ g.edges) : Taken g e := by
  unfold Taken next? Edge.origin
  dsimp only
  cases hcase : e.handle with
  | some handle => exact hwf.branch?_of_mem he hcase
  | none =>
    refine hwf.successor?_of_mem he ?_
    by_contra hcondition
    rcases hwf.handle he (by simpa using hcondition) with h | h
    · rw [h] at hcase
      cases hcase
    · rw [h] at hcase
      cases hcase

namespace Programmed

variable (h : Programmed g p) (hwf : g.WellFormed)
  (hhandle : ∀ e ∈ g.edges, g.isConditionAt e.source = false → e.handle = none)

include h

/-- The exits of a program are ends of its nodes. -/
theorem exists_of_mem_exits {x : OpenEnd} (hx : x ∈ p.exits) :
    ∃ n ∈ p.nodes, n.id = x.1 ∧ (x.2 = none → n.kind.isCondition = false) := by
  rcases List.mem_append.1 hx with hx | hx
  · rcases List.mem_append.1 hx with hx | hx
    · obtain ⟨t, ht, rfl⟩ := List.mem_map.1 hx
      refine ⟨t, List.mem_append_left _ (List.mem_append_left _ ht), rfl, fun _ => ?_⟩
      rw [h.triggers] at ht
      exact NodeKind.isCondition_of_isTrigger (List.mem_filter.1 ht).2
    · obtain ⟨gate, hgate, rfl⟩ := List.mem_map.1 hx
      exact ⟨gate, List.mem_append_left _ (List.mem_append_right _ hgate), rfl, fun h => nomatch h⟩
  · obtain ⟨n, hn, hid⟩ := exists_of_mem_listExits hx
    exact ⟨n, List.mem_append_right _ hn, hid⟩

/-- Every end that a node can have is an exit of the program, or leads nowhere. -/
theorem mem_exits_or {n : Node} (hn : n ∈ p.nodes) {handle : Option String}
    (hadmits : n.Admits handle) : (n.id, handle) ∈ p.exits ∨ g.next? (n.id, handle) = none := by
  rcases List.mem_append.1 hn with hn | hn
  · rcases List.mem_append.1 hn with hn | hn
    · refine .inl (List.mem_append_left _ (List.mem_append_left _ ?_))
      have htrigger := hn
      rw [h.triggers] at htrigger
      rw [hadmits.2 (NodeKind.isCondition_of_isTrigger (List.mem_filter.1 htrigger).2)]
      exact List.mem_map_of_mem (f := fun t : Node => ((t.id, none) : OpenEnd)) hn
    · obtain ⟨hcondition, hfalse, -⟩ := isGate_iff.1 (h.gates n hn)
      rcases hadmits.1 hcondition with rfl | rfl
      · exact .inl (List.mem_append_left _ (List.mem_append_right _ (List.mem_map_of_mem hn)))
      · exact .inr hfalse
  · exact (h.followed.body.mem_exits_or hadmits h.shaped hn).imp_left (List.mem_append_right _)

/-- The edges of a program have different ends. -/
theorem nodup_ends : (p.edges.map Edge.ends).Nodup := by
  refine List.Nodup.of_map (fun x => ((x.1, x.2.2) : OpenEnd)) ?_
  rw [List.map_map]
  refine (List.pairwise_append.1 (Program.pairwise_origins h.nodup)).1.imp fun hxy heq => ?_
  exact (hxy (congrArg Prod.fst heq)).2.2 (congrArg Prod.snd heq)

include hwf

/-- An edge out of a node of the program leads to one, as a path that leads to its source leads on
to its target. -/
theorem target_mem {e : Edge} (he : e ∈ g.edges) (hsource : e.source ∈ p.nodes.map (·.id)) :
    e.target ∈ p.nodes.map (·.id) := by
  obtain ⟨n, hn, hid⟩ := List.mem_map.1 hsource
  obtain ⟨-, -, -, m, hm, -, htarget, -⟩ := hwf.edge he
  have hreaches : g.Reaches e.target := .edge he (hid ▸ ((h.mem_iff n).1 hn).2)
  rw [htarget] at hreaches ⊢
  exact List.mem_map_of_mem ((h.mem_iff m).2 ⟨hm, hreaches⟩)

include hhandle

/-- An edge of the program is one of the graph, perhaps under another id. -/
theorem exists_edge_of_mem_edges {e : Edge} (he : e ∈ p.edges) :
    ∃ f ∈ g.edges, f.ends = e.ends ∧ f.source ∈ p.nodes.map (·.id) := by
  obtain ⟨htaken, -⟩ := h.followed.taken
  obtain ⟨f, hf, hsource, htarget, hsame⟩ := exists_edge_of_next? (htaken e he)
  obtain ⟨n, hn, hid, hplain⟩ := h.exists_of_mem_exits (Program.origin_mem_exits he)
  have hid : n.id = f.source := hid.trans hsource.symm
  have hhandles : f.handle = e.handle := by
    by_cases hnone : e.handle = none
    · rw [hnone]
      exact (hwf.admits hhandle hf ((h.mem_iff n).1 hn).1 hid).2 (hplain hnone)
    · exact hsame hnone
  refine ⟨f, hf, ?_, hid ▸ List.mem_map_of_mem hn⟩
  rw [Edge.ends, Edge.ends, htarget, hhandles, hsource]
  rfl

/-- An edge of the graph out of a node of the program is one of the program, perhaps under another
id: it leads on where the program does. -/
theorem exists_mem_edges {e : Edge} (he : e ∈ g.edges) (hsource : e.source ∈ p.nodes.map (·.id)) :
    ∃ f ∈ p.edges, f.ends = e.ends := by
  obtain ⟨htaken, hleft⟩ := h.followed.taken
  obtain ⟨n, hn, hid⟩ := List.mem_map.1 hsource
  have hexit : e.origin ∈ p.exits := by
    rcases h.mem_exits_or hn (hwf.admits hhandle he ((h.mem_iff n).1 hn).1 hid) with hexit | hnone
    · rwa [hid] at hexit
    · rw [hid] at hnone
      exact absurd hnone (next?_ne_none he)
  rcases List.mem_append.1 (p.perm_edges.symm.subset hexit) with hedge | hopen
  · obtain ⟨f, hf, horigin⟩ := List.mem_map.1 hedge
    have htargets : some f.target = some e.target := by
      rw [← htaken f hf, horigin, hwf.taken he]
    obtain ⟨hsource, hhandle⟩ := Prod.mk.inj horigin
    refine ⟨f, hf, ?_⟩
    rw [Edge.ends, Edge.ends, hsource, hhandle, Option.some.inj htargets]
  · exact absurd (hleft _ hopen) (next?_ne_none he)

/-- The edges of a program are those of the graph between the nodes that paths lead to. -/
theorem perm_ends : (p.edges.map Edge.ends).Perm ((g.edges.filter fun e =>
    (p.nodes.map (·.id)).contains e.source
      && (p.nodes.map (·.id)).contains e.target).map Edge.ends) := by
  have hnodup : ((g.edges.filter fun e => (p.nodes.map (·.id)).contains e.source
      && (p.nodes.map (·.id)).contains e.target).map Edge.ends).Nodup :=
    (List.filter_sublist.map _).nodup hwf.nodup_ends
  refine (List.perm_ext_iff_of_nodup h.nodup_ends hnodup).2 fun x => ⟨fun hx => ?_, fun hx => ?_⟩
  · obtain ⟨e, he, rfl⟩ := List.mem_map.1 hx
    obtain ⟨f, hf, hends, hsource⟩ := h.exists_edge_of_mem_edges hwf hhandle he
    rw [← hends]
    refine List.mem_map_of_mem (List.mem_filter.2 ⟨hf, ?_⟩)
    rw [Bool.and_eq_true, List.contains_iff_mem, List.contains_iff_mem]
    exact ⟨hsource, h.target_mem hwf hf hsource⟩
  · obtain ⟨e, he, rfl⟩ := List.mem_map.1 hx
    obtain ⟨he, hbetween⟩ := List.mem_filter.1 he
    obtain ⟨f, hf, hends⟩ := h.exists_mem_edges hwf hhandle he
      (List.contains_iff_mem.1 (Bool.and_eq_true_iff.1 hbetween).1)
    rw [← hends]
    exact List.mem_map_of_mem hf

end Programmed

end Graph

end Automation
