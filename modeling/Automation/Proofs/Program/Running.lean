import Automation.Proofs.Program.Skipping
import Automation.Proofs.Simulation.Agree

/-!
# Running blocks

What a program does when it is run by its nesting (`Block.run`), which is what its entries do
(`Program.ListRead.runList_eq`), and what a run over a graph does in which the blocks stand
(`Block.Standing.agree_runFrom`). For the latter it is told what the run does from the place behind
the blocks on, as the blocks lead there at many ends. Nodes are visited in the order of their ranks,
so there are never more steps than nodes.
-/

namespace Automation

namespace Run

/-- Goes on with the rest, unless the first part stops the run. -/
def goOn (r : Run Bool) (rest : Run Unit) : Run Unit := do if ← r then rest

@[simp] theorem goOn_true (rest : Run Unit) : goOn (pure true) rest = rest := by simp [goOn]

@[simp] theorem goOn_false (rest : Run Unit) : goOn (pure false) rest = pure () := by
  simp [goOn]

/-- What is to be run behind a run is run behind its last part. -/
theorem goOn_bind {α : Type} (r : Run α) (f : α → Run Bool) (rest : Run Unit) :
    goOn (r >>= f) rest = r >>= fun x => goOn (f x) rest := bind_assoc r f _

/-- Whether to go on is asked in each case. -/
theorem goOn_ite (on : Bool) (r s : Run Bool) (rest : Run Unit) :
    goOn (if on then r else s) rest = if on then goOn r rest else goOn s rest := by
  cases on <;> rfl

theorem goOn_pure (r : Run Bool) : goOn r (pure ()) = (do let _ ← r) := by
  refine congrArg (r >>= ·) (funext fun on => ?_)
  cases on <;> rfl

end Run

namespace Block

open Run

mutual
/-- Runs a block. -/
def run : Block → Run Bool
  | step n =>
    if n.kind.isCondition then holds n.data
    else do
      applyEntry (.ofEntries n.data) n.kind.assigns
      return true
  | choice options otherwise => runOptions (runList otherwise) options
termination_by structural b => b

/-- Runs the blocks of a list in turn, until one stops the run. -/
def runList : List Block → Run Bool
  | [] => return true
  | b :: bs => do if ← run b then runList bs else return false
termination_by structural bs => bs

/-- Runs the first option that holds, or what is left otherwise. -/
def runOptions (otherwise : Run Bool) : List (Node × List Block) → Run Bool
  | [] => otherwise
  | (n, body) :: rest => do if ← holds n.data then runList body else runOptions otherwise rest
termination_by structural options => options
end

/-- The rest of a list is run unless its first part ends the run. -/
theorem runList_append (as bs : List Block) :
    runList (as ++ bs) = do if ← runList as then runList bs else return false := by
  induction as with
  | nil => simp [runList]
  | cons a as ih =>
    simp only [List.cons_append, runList, ih, bind_assoc]
    congr
    funext on
    cases on <;> simp

/-- A list goes on behind its first block. -/
theorem goOn_runList_cons (b : Block) (bs : List Block) (rest : Run Unit) :
    goOn (runList (b :: bs)) rest = goOn (run b) (goOn (runList bs) rest) := by
  rw [runList, goOn_bind]
  refine congrArg (run b >>= ·) (funext fun on => ?_)
  rw [goOn_ite, goOn_false]

theorem runList_singleton (b : Block) : runList [b] = run b := by
  rw [runList]
  conv_rhs => rw [← bind_pure (run b)]
  refine congrArg (run b >>= ·) (funext fun on => ?_)
  cases on <;> rfl

end Block

namespace Program

open Block Condition

variable {limits : Limits}

/-- What runs entries one level further in, with some levels left. -/
def inside? (limits : Limits) : Nat → Option Entry.Inside
  | 0 => none
  | levels + 1 => some fun v p => Entry.runList limits levels v p

/-- The entries of a list are run in turn. -/
theorem runList_eq_inTurn (levels : Nat) (entries : Value) (place : Place) :
    Entry.runList limits levels entries place
      = Run.inTurn ((entriesOf entries).zipIdx.map fun entry =>
          Entry.run limits (inside? limits levels) entry.1 (place.item entry.2)) := by
  cases levels <;> rfl

mutual
/-- An entry does what the block does that it is read as. -/
theorem EntryRead.run_eq {levels : Nat} {place : Place} {entry : Value}
    {created after : List NodeKind} {b : Block} :
    EntryRead limits levels place entry created b after →
    Entry.run limits (inside? limits levels) entry place = b.run
  | .step hentry hkind _ => by
    have hcondition := Entry.isCondition_of_kind hkind
    unfold Entry.run
    rw [hentry]
    dsimp only
    rw [hkind, Block.run, fresh, if_neg (by simp [hcondition])]
  | .gate hentry hkind hdata => by
    unfold Entry.run
    rw [hentry]
    dsimp only
    rw [hkind, hdata]
    rfl
  | .ifBlock hentry hkind hdata hthen helse => by
    unfold Entry.run
    rw [hentry]
    dsimp only [inside?]
    rw [hkind]
    dsimp only [Entry.runIf]
    rw [hdata, Run.test_ok, runList_eq_inTurn, runList_eq_inTurn, ListRead.run_eq hthen,
      ListRead.run_eq helse, Block.run]
    rfl
  | .chooseBlock hentry hkind hoptions hdefault => by
    unfold Entry.run
    rw [hentry]
    dsimp only [inside?]
    rw [hkind]
    dsimp only [Entry.runChoose]
    rw [runList_eq_inTurn, ListRead.run_eq hdefault, Block.run]
    exact OptionsRead.run_eq hoptions _

/-- The blocks of a list are run as its entries are. Induction on the reading. -/
theorem ListRead.run_eq {levels : Nat} {place : Place} {i : Nat} {entries : List Value}
    {created after : List NodeKind} {bs : List Block} :
    ListRead limits levels place i entries created bs after →
    Run.inTurn ((entries.zipIdx i).map fun entry =>
      Entry.run limits (inside? limits levels) entry.1 (place.item entry.2)) = runList bs
  | .nil => rfl
  | .cons hentry hrest => by
    rw [List.zipIdx_cons, List.map_cons, Run.inTurn, Block.runList, EntryRead.run_eq hentry,
      ListRead.run_eq hrest]

/-- Options are tried in turn, and run as their entries are. -/
theorem OptionsRead.run_eq {levels : Nat} {place : Place} {i : Nat} {flags : Entries}
    {options : List Value} {created after : List NodeKind} {read : List (Node × List Block)} :
    OptionsRead limits levels place i flags options created read after → ∀ otherwise : Run Bool,
    Run.firstOf ((options.zipIdx i).map fun option => Entry.runOption limits
      (fun v p => Entry.runList limits levels v p) option.1 (place.item option.2)) otherwise
        = runOptions otherwise read
  | .nil, _ => rfl
  | .cons hoption hhas hdata hbody hrest, otherwise => by
    rw [List.zipIdx_cons, List.map_cons, Entry.runOption, hoption]
    dsimp only
    rw [Run.firstOf, hdata, Run.test_ok, runList_eq_inTurn, ListRead.run_eq hbody,
      OptionsRead.run_eq hrest, Block.runOptions]
    rfl
end

end Program

/-! ## Blocks in a graph -/

namespace Graph

open Run

variable {g : Graph} {joins : List (String × Option String)} {limit : Int} {n : Node}

/-- A node that a run finds by its id, and does not skip. -/
structure Enters (g : Graph) (n : Node) : Prop where
  found : g.lastNode? n.id = some n
  enabled : n.kind.isCondition = true → (n.flags.get "enabled").isFalse = false

/-- At a condition a run goes on as the condition says. -/
theorem agree_condition (hn : g.Enters n) (hcondition : n.kind.isCondition = true) {steps : Nat}
    {r s : Run Unit} (htrue : Run.Agree (g.runFrom joins limit steps (g.whenTrue? n.id)) r)
    (hfalse : Run.Agree (g.runFrom joins limit steps (g.whenFalse? n.id)) s) :
    Run.Agree (g.runFrom joins limit (steps + 1) (some n.id))
      (do if ← holds n.data then r else s) := by
  have hrun : g.runNode joins n
      = (do return if ← holds n.data then g.whenTrue? n.id else g.whenFalse? n.id) := by
    rw [runNode_enabled hcondition (hn.enabled hcondition), holds, bind_assoc]
    refine congrArg (get >>= ·) (funext fun c => congrArg (_ >>= ·) (funext fun on => ?_))
    cases on <;> rfl
  rw [runFrom_some hn.found, hrun, bind_assoc]
  refine .visit (.bind (.holds _) fun on => ?_) _
  rw [pure_bind]
  cases on
  · exact hfalse
  · exact htrue

/-- At a step a run goes on behind what the step does. -/
theorem agree_step (hn : g.Enters n) (hcondition : n.kind.isCondition = false) {steps : Nat}
    {r : Run Unit} (hnext : Run.Agree (g.runFrom joins limit steps (g.successor? n.id)) r) :
    Run.Agree (g.runFrom joins limit (steps + 1) (some n.id))
      (do applyEntry (.ofEntries n.data) n.kind.assigns; r) := by
  have hrun : g.runNode joins n
      = (do applyEntry (.ofEntries n.data) n.kind.assigns; return g.successor? n.id) := by
    rw [runNode, if_neg (by simp [hcondition])]
    rfl
  rw [runFrom_some hn.found, hrun, bind_assoc]
  refine .visit (.bind (.applyEntry _ _) fun _ => ?_) _
  rw [pure_bind]
  exact hnext

end Graph

namespace Block

open Run

variable {g : Graph} {rank : String → Nat} {joins : List (String × Option String)} {limit : Int}

/-- A run over a graph does what the blocks do, and goes on with what it does from the place behind
them, when it has a step for each of their nodes. -/
theorem Standing.agree_runFrom {bs : List Block} {next : Option String}
    (h : Standing g rank bs next) (henters : ∀ n ∈ listNodes bs, g.Enters n) {rest : Run Unit}
    {more : Nat} (hrest : ∀ steps, more ≤ steps → Run.Agree (g.runFrom joins limit steps next) rest) :
    ∀ steps, (listNodes bs).length + more ≤ steps →
      Run.Agree (g.runFrom joins limit steps (listFirst next bs)) (goOn (runList bs) rest) := by
  -- a node takes one step, and those that are left are enough for the nodes behind it
  induction bs using Block.induction generalizing next rest more with
  | nil =>
    intro steps hsteps
    rw [listNodes, List.length_nil, Nat.zero_add] at hsteps
    rw [runList, goOn_true]
    exact hrest steps hsteps
  | step n bs ih =>
    intro steps hsteps
    obtain ⟨-, hnext, hgate⟩ := h.of_step
    have hn := henters n List.mem_cons_self
    rw [listNodes_step, List.length_cons] at hsteps
    obtain ⟨steps, rfl⟩ : ∃ left, steps = left + 1 := ⟨steps - 1, by omega⟩
    have hbehind := ih h.tail (fun m hm => henters m (List.mem_cons_of_mem _ hm)) hrest steps
      (by omega)
    rw [goOn_runList_cons, Block.run]
    cases hcondition : n.kind.isCondition with
    | false =>
      rw [if_neg (by simp)]
      simp only [goOn_bind, goOn_true]
      exact Graph.agree_step hn hcondition (hnext hcondition ▸ hbehind)
    | true =>
      obtain ⟨htrue, hfalse⟩ := hgate hcondition
      rw [if_pos rfl]
      refine Graph.agree_condition hn hcondition (htrue ▸ hbehind) ?_
      rw [hfalse, Graph.runFrom_none]
      exact .pure ()
  | last otherwise bs ihOtherwise ih =>
    intro steps hsteps
    rw [listNodes_last, List.length_append] at hsteps
    have hbehind := ih h.tail (fun m hm => henters m (List.mem_append_right _ hm)) hrest
    rw [goOn_runList_cons, Block.run, runOptions]
    exact ihOtherwise h.head.of_otherwise (fun m hm => henters m (List.mem_append_left _ hm)) hbehind
      steps (by omega)
  | option n body options otherwise bs ihBody ihOthers ih =>
    intro steps hsteps
    obtain ⟨-, hcondition, htrue, hfalse⟩ := h.head.of_option
    rw [listNodes_option] at henters hsteps
    simp only [List.length_cons, List.length_append] at hsteps
    obtain ⟨hn, henters⟩ := List.forall_mem_cons.1 henters
    obtain ⟨hbody, henters⟩ := List.forall_mem_append.1 henters
    obtain ⟨hothers, hbs⟩ := List.forall_mem_append.1 henters
    obtain ⟨steps, rfl⟩ : ∃ left, steps = left + 1 := ⟨steps - 1, by omega⟩
    have hbehind := ih h.tail hbs hrest
    rw [goOn_runList_cons, Block.run, runOptions, goOn_bind]
    simp only [goOn_ite]
    refine Graph.agree_condition hn hcondition ?_ ?_
    · rw [htrue]
      exact ihBody h.head.of_body hbody hbehind steps (by omega)
    · rw [hfalse]
      have hleft := ihOthers h.head.of_others hothers hbehind steps (by omega)
      rw [runList_singleton, Block.run] at hleft
      exact hleft

/-- Whether a block is a choice that is disabled. -/
def isDisabled : Block → Bool
  | choice ((n, _) :: _) _ => (n.flags.get "enabled").isFalse
  | _ => false

theorem OptionsFormed.of_mem {options : List (Node × List Block)} (h : OptionsFormed options) :
    ∀ o ∈ options, ListFormed o.2 := by
  induction options with
  | nil => simp
  | cons o options ih => exact List.forall_mem_cons.2 ⟨h.2.1, ih h.2.2⟩

/-- Only the first conditions of choices have flags, so without a disabled choice no condition is
disabled. -/
theorem isFalse_of_not_holds {bs : List Block} (hformed : ListFormed bs)
    (h : ¬Holds isDisabled bs) :
    ∀ n ∈ listNodes bs, n.kind.isCondition = true → (n.flags.get "enabled").isFalse = false := by
  -- on the blocks: what stands in a branch of a block is inside it, and what is behind stays behind
  induction bs using induction_branches with
  | nil => simp [listNodes]
  | cons b bs ihBranches ih =>
    intro n hn hcondition
    rcases List.mem_append.1 hn with hn | hn
    swap
    · exact ih hformed.2 (fun hbs => h hbs.behind) n hn hcondition
    have hbranch (branch : List Block) (hmem : branch ∈ b.branches) (hformed : ListFormed branch)
        (hn : n ∈ listNodes branch) : (n.flags.get "enabled").isFalse = false :=
      ihBranches branch hmem hformed (fun hb => h (hb.inside hmem)) n hn hcondition
    cases b with
    | step m =>
      cases List.mem_singleton.1 hn
      rw [(hformed.1.2 hcondition).2]
      rfl
    | choice options otherwise =>
      obtain ⟨⟨hflags, hoptions, hotherwise⟩, -⟩ := hformed
      rcases List.mem_append.1 hn with hn | hn
      · obtain ⟨o, ho, rfl | hn⟩ := mem_optionNodes.1 hn
        · cases options with
          | nil => cases ho
          | cons first options =>
            rcases List.mem_cons.1 ho with rfl | ho
            -- only the first option has the flags of its block
            · exact Bool.eq_false_iff.2 fun hdisabled => h (.here hdisabled)
            · rw [hflags o ho]
              rfl
        · exact hbranch o.2 (List.mem_append_left _ (List.mem_map_of_mem ho))
            (hoptions.of_mem o ho) hn
      · exact hbranch otherwise (List.mem_append_right _ (List.mem_singleton.2 rfl)) hotherwise hn

/-! ## Runs that fail -/

/-- What the condition of a node, or its assignment, can fail with. -/
def FailsWith (n : Node) (e : Failure) : Prop := ∃ c : Context,
  (n.kind.isCondition = true ∧ Guard.evaluate c (.ofEntries n.data) = .error e)
    ∨ (n.kind.assigns = true ∧ (start (applyEntry (.ofEntries n.data) true) c).1 = .error e)

/-- A condition that fails to be decided in some context fails a run there. -/
theorem failsWith_of_holds {n : Node} {e : Failure} {c : Context}
    (hcondition : n.kind.isCondition = true) (h : (start (holds n.data) c).1 = .error e) :
    FailsWith n e := ⟨c, .inl ⟨hcondition, h⟩⟩

/-- A step fails with its condition or its assignment, as a note never fails. -/
theorem failsWith_of_step {n : Node} {e : Failure} {c : Context}
    (h : (start (Block.step n).run c).1 = .error e) : FailsWith n e := by
  rw [Block.run] at h
  split at h
  · rename_i hcondition
    exact failsWith_of_holds hcondition h
  · rcases start_bind_eq_error h with h | ⟨_, c', h⟩
    · cases hassigns : n.kind.assigns with
      | true => exact ⟨c, .inr ⟨hassigns, hassigns ▸ h⟩⟩
      | false =>
        rw [hassigns] at h
        cases h
    · cases h

/-- Blocks fail with the first of them, or with the others from where this leaves off. -/
theorem runList_cons_eq_error {b : Block} {bs : List Block} {e : Failure} {c : Context}
    (h : (start (runList (b :: bs)) c).1 = .error e) :
    (start b.run c).1 = .error e ∨ ∃ c', (start (runList bs) c').1 = .error e := by
  rw [runList] at h
  rcases start_bind_eq_error h with h | ⟨on, c', h⟩
  · exact .inl h
  · cases on with
    | false => cases h
    | true => exact .inr ⟨c', h⟩

/-- A run of blocks fails with a condition or with an assignment. -/
theorem exists_failsWith {bs : List Block} (hformed : ListFormed bs) {c : Context} {e : Failure}
    (h : (start (runList bs) c).1 = .error e) : ∃ n ∈ listNodes bs, FailsWith n e := by
  -- on the blocks in the order in which they run, so that a run fails in the front or behind it
  induction bs using Block.induction generalizing c with
  | nil => cases h
  | step n bs ih =>
    rcases runList_cons_eq_error h with h | ⟨c', h⟩
    · exact ⟨n, List.mem_cons_self, failsWith_of_step h⟩
    · obtain ⟨m, hm, hfails⟩ := ih hformed.2 h
      exact ⟨m, List.mem_cons_of_mem _ hm, hfails⟩
  | last otherwise bs ihOtherwise ih =>
    rcases runList_cons_eq_error h with h | ⟨c', h⟩
    · obtain ⟨m, hm, hfails⟩ := ihOtherwise hformed.1.2.2 h
      exact ⟨m, List.mem_append_left _ hm, hfails⟩
    · obtain ⟨m, hm, hfails⟩ := ih hformed.2 h
      exact ⟨m, List.mem_append_right _ hm, hfails⟩
  | option n body options otherwise bs ihBody ihOthers ih =>
    obtain ⟨⟨hflags, ⟨hcondition, hbody, hoptions⟩, hotherwise⟩, hrest⟩ := hformed
    rw [listNodes_option]
    rcases runList_cons_eq_error h with h | ⟨c', h⟩
    · rcases start_bind_eq_error h with h | ⟨on, c', h⟩
      · exact ⟨n, List.mem_cons_self, failsWith_of_holds hcondition h⟩
      · cases on with
        | true =>
          obtain ⟨m, hm, hfails⟩ := ihBody hbody h
          exact ⟨m, List.mem_cons_of_mem _ (List.mem_append_left _ hm), hfails⟩
        | false =>
          -- the options left are a block without flags
          have hothers : ListFormed [.choice options otherwise] :=
            ⟨⟨fun o ho => hflags o (List.mem_of_mem_tail ho), hoptions, hotherwise⟩, trivial⟩
          rw [if_neg (by simp), ← Block.run, ← runList_singleton] at h
          obtain ⟨m, hm, hfails⟩ := ihOthers hothers h
          exact ⟨m, List.mem_cons_of_mem _ (List.mem_append_right _ (List.mem_append_left _ hm)),
            hfails⟩
    · obtain ⟨m, hm, hfails⟩ := ih hrest h
      exact ⟨m, List.mem_cons_of_mem _ (List.mem_append_right _ (List.mem_append_right _ hm)),
        hfails⟩

end Block

namespace Program

open Run

variable {limits : Limits} {p : Program} {g : Graph}

/-- Runs a program: the trigger that fired gives its id, and then the blocks are run. -/
def run (p : Program) : Run Unit := do
  let trigger ← lift (Value.itemAt p.triggers (← get).trigger)
  identify (return trigger.data.get "id")
  let _ ← Block.runList p.blocks

/-- A run over the graph of a program does what the program does, when there are enough steps and no
condition is disabled. -/
theorem Parsed.agree_graphRun (h : Parsed p g)
    (henabled : ∀ n ∈ Block.listNodes p.blocks, n.kind.isCondition = true →
      (n.flags.get "enabled").isFalse = false) {maxSteps : Option Int}
    (hsteps : (g.nodes.length : Int) ≤ maxSteps.getD limits.maxIterations) :
    Run.Agree (g.run limits maxSteps) p.run := by
  obtain ⟨joins, t, hjoins, -⟩ := h.exists_blockJoins
  -- there are as many steps as nodes that are no triggers, and each is come to at most once
  have henough : (Block.listNodes p.blocks).length + 0
      ≤ (maxSteps.getD limits.maxIterations).toNat := by
    rw [h.nodes, nodes_eq, List.length_append] at hsteps
    omega
  unfold Graph.run Program.run
  rw [hjoins, lift_ok_bind, h.triggers]
  refine .get_bind fun a b hab => ?_
  rw [hab.trigger]
  cases htrigger : Value.itemAt p.triggers b.trigger with
  | error e => exact .lift _
  | ok trigger =>
    rw [lift_ok_bind, lift_ok_bind]
    refine .bind (.identify _) fun _ => ?_
    rw [h.successor? (Value.mem_of_itemAt_eq_ok htrigger)]
    have hend (steps : Nat) : Run.Agree (g.runFrom joins (maxSteps.getD limits.maxIterations) steps
        none) (pure ()) := by
      rw [Graph.runFrom_none]
      exact .pure ()
    have hrun := h.standing.agree_runFrom (fun n hn =>
      ⟨h.wellFormed.lastNode?_of_mem (h.mem_nodes hn), henabled n hn⟩) (fun steps _ => hend steps) _
      henough
    rwa [goOn_pure] at hrun

/-- A program whose trigger is there fails with a condition or with an assignment. -/
theorem Parsed.exists_failsWith (h : Parsed p g) {c : Context} (hpositive : 0 ≤ c.trigger)
    (hlt : c.trigger < p.triggers.length) {e : Failure} (he : (start p.run c).1 = .error e) :
    ∃ n ∈ Block.listNodes p.blocks, Block.FailsWith n e := by
  obtain ⟨i, hi⟩ := Int.eq_ofNat_of_zero_le hpositive
  have hinside : i < p.triggers.length := by omega
  have htrigger := Value.itemAt_of_lt hinside
  rw [run, start_bind, start_get] at he
  dsimp only at he
  rw [hi, htrigger, lift_ok_bind, start_bind, start_identify] at he
  dsimp only at he
  rcases start_bind_eq_error he with he | ⟨on, c', he⟩
  · exact Block.exists_failsWith h.standing.formed he
  · cases he

end Program

end Automation
