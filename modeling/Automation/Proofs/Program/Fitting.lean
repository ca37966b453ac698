import Automation.Proofs.Program.Lowering
import Automation.Proofs.Topology.Retread

/-!
# Walks that fit into levels

The walk that writes a graph takes the branches of a condition one level further in, but those of
conditions that become further options of one choice at the same level. A walk that fits into some
levels (`Graph.Fits`) has a region (`Graph.Fits.region`), and is lowered with these levels
(`Graph.exists_lowerFrom`).
-/

namespace Automation

namespace Graph

/-- A walk from a place up to another that fits into some levels of blocks, and the nodes that it
enters. At a further place of a choice that has begun, a condition with the same join may be one of
its options. -/
inductive Fits (g : Graph) (t : JoinTable) :
    Bool → Nat → Option String → Option String → List String → Prop
  | ended (levels : Nat) (stop : Option String) : Fits g t false levels none stop []
  | stop (levels : Nat) (id : String) : Fits g t false levels (some id) (some id) []
  | step {levels : Nat} {n : Node} {stop : Option String} {ids : List String}
    (hstop : stop ≠ some n.id) (hnode : g.lastNode? n.id = some n)
    (hcondition : n.kind.isCondition = false)
    (h : Fits g t false levels (g.successor? n.id) stop ids) :
    Fits g t false levels (some n.id) stop (n.id :: ids)
  | gate {levels : Nat} {n : Node} {join : String} {ids : List String}
    (hnode : g.lastNode? n.id = some n) (hgate : g.isGate n = true)
    (hjoin : t.join? n.id = some join) (hend : place join = none)
    (h : Fits g t false levels (g.whenTrue? n.id) none ids) :
    Fits g t false levels (some n.id) none (n.id :: ids)
  | branch {levels : Nat} {n : Node} {join : String} {stop : Option String}
    {behind whenTrue whenFalse : List String} (hstop : stop ≠ some n.id)
    (hnode : g.lastNode? n.id = some n) (hcondition : n.kind.isCondition = true)
    (hgate : g.isGate n = false) (hjoin : t.join? n.id = some join)
    (hbehind : Fits g t false (levels + 1) (place join) stop behind)
    (htrue : Fits g t false levels (g.whenTrue? n.id) (place join) whenTrue)
    (hfalse : Fits g t true levels (g.whenFalse? n.id) (place join) whenFalse) :
    Fits g t false (levels + 1) (some n.id) stop (n.id :: (behind ++ (whenTrue ++ whenFalse)))
  | last {levels : Nat} {current stop : Option String} {ids : List String}
    (h : Fits g t false levels current stop ids) : Fits g t true levels current stop ids
  | further {levels : Nat} {n : Node} {join : String} {whenTrue whenFalse : List String}
    (hstop : place join ≠ some n.id) (hnode : g.lastNode? n.id = some n)
    (hcondition : n.kind.isCondition = true) (hflags : n.flags = [])
    (hincoming : (g.incoming n.id).length = 1) (hjoin : t.join? n.id = some join)
    (htrue : Fits g t false levels (g.whenTrue? n.id) (place join) whenTrue)
    (hfalse : Fits g t true levels (g.whenFalse? n.id) (place join) whenFalse) :
    Fits g t true levels (some n.id) (place join) (n.id :: (whenTrue ++ whenFalse))

variable {g : Graph} {t : JoinTable}

namespace Fits

variable {further : Bool} {levels : Nat} {current stop : Option String} {ids : List String}

/-- More levels do no harm. -/
theorem mono (h : Fits g t further levels current stop ids) {more : Nat} (hmore : levels ≤ more) :
    Fits g t further more current stop ids := by
  induction h generalizing more with
  | ended => exact .ended _ _
  | stop => exact .stop _ _
  | step hstop hnode hcondition _ ih => exact .step hstop hnode hcondition (ih hmore)
  | gate hnode hgate hjoin hend _ ih => exact .gate hnode hgate hjoin hend (ih hmore)
  | branch hstop hnode hcondition hgate hjoin _ _ _ ihBehind ihTrue ihFalse =>
    obtain ⟨more, rfl⟩ := Nat.exists_eq_add_one_of_ne_zero (by omega : more ≠ 0)
    exact .branch hstop hnode hcondition hgate hjoin (ihBehind hmore)
      (ihTrue (Nat.le_of_succ_le_succ hmore)) (ihFalse (Nat.le_of_succ_le_succ hmore))
  | last _ ih => exact .last (ih hmore)
  | further hstop hnode hcondition hflags hincoming hjoin _ _ ihTrue ihFalse =>
    exact .further hstop hnode hcondition hflags hincoming hjoin (ihTrue hmore) (ihFalse hmore)

theorem kind?_of_lastNode? {id : String} {n : Node} (h : g.lastNode? id = some n) :
    g.kind? id = some n.kind := by
  rw [kind?, h, Option.map_some]

/-- Where there is nowhere to go, no node is entered. -/
theorem of_end (stop : Option String) (levels : Nat) : Fits g t false levels stop stop [] := by
  cases stop with
  | none => exact .ended _ _
  | some id => exact .stop _ _

/-- A walk that fits into levels has a region. -/
theorem region (h : Fits g t further levels current stop ids) : Region g t current stop ids := by
  induction h with
  | ended => exact .ended _
  | stop => exact .stop _
  | step hstop hnode hcondition _ ih => exact .step hstop (kind?_of_lastNode? hnode) hcondition ih
  | @gate _ n join ids hnode hgate hjoin hend _ ih =>
    obtain ⟨hcondition, hfalse, -⟩ := isGate_iff.1 hgate
    have hbehind : Region g t (place join) none [] := by
      rw [hend]
      exact .ended none
    have htrue : Region g t (g.whenTrue? n.id) (place join) ids := by rwa [hend]
    -- a gate leads nowhere when it fails, so nothing is walked there
    have hnothing : Region g t (g.whenFalse? n.id) (place join) [] := by
      rw [hfalse]
      exact .ended _
    have hbranch := Region.branch (by simp) (kind?_of_lastNode? hnode) hcondition hjoin hbehind htrue
      hnothing
    rwa [List.nil_append, List.append_nil] at hbranch
  | branch hstop hnode hcondition _ hjoin _ _ _ ihBehind ihTrue ihFalse =>
    exact .branch hstop (kind?_of_lastNode? hnode) hcondition hjoin ihBehind ihTrue ihFalse
  | last _ ih => exact ih
  | further hstop hnode hcondition _ _ hjoin _ _ ihTrue ihFalse =>
    exact .branch hstop (kind?_of_lastNode? hnode) hcondition hjoin (.of_end (.inr rfl)) ihTrue
      ihFalse

end Fits

/-! ## Lowering -/

variable {limits : Limits} {r : TopologyReport}

theorem nodeAt_of_lastNode? {id : String} {n : Node} (h : g.lastNode? id = some n) :
    g.nodeAt id = .ok n := by
  rw [nodeAt, h]
  rfl

/-- Whether a condition is a further option of a choice that has begun. -/
def isFurther (g : Graph) (r : TopologyReport) (join : Option String) (n : Node) : Bool :=
  n.kind.isCondition && n.flags.isEmpty && (g.incoming n.id).length = 1 && r.join? n.id = join

/-- Behind a condition whose failure leads to another place than the join come further options when
the place is one, and none otherwise. -/
theorem furtherOptions_succ {join : Option String} {steps : Nat} {id : String} {n : Node}
    (hfalse : g.whenFalse? id = some n.id) (hjoin : some n.id ≠ join)
    (hnode : g.lastNode? n.id = some n) :
    g.furtherOptions r join (steps + 1) id = if g.isFurther r join n then
      (do return n :: (← g.furtherOptions r join steps n.id)) else .ok [] := by
  rw [furtherOptions, hfalse]
  dsimp only
  rw [if_neg hjoin, nodeAt_of_lastNode? hnode]
  rfl

/-- A place where options of a choice go on: a condition that is one of them, with its branches, or
the start of a walk. -/
theorem Fits.option {levels : Nat} {target : String} {stop : Option String} {ids : List String}
    (h : Fits g r.joins true levels (some target) stop ids) (hne : some target ≠ stop) :
    ∃ m, m.id = target ∧ g.lastNode? m.id = some m
      ∧ (g.isFurther r stop m = true → ∃ whenTrue whenFalse,
        Fits g r.joins false levels (g.whenTrue? m.id) stop whenTrue
        ∧ Fits g r.joins true levels (g.whenFalse? m.id) stop whenFalse
        ∧ whenTrue.length + whenFalse.length < ids.length)
      ∧ (g.isFurther r stop m = false → Fits g r.joins false levels (some target) stop ids) := by
  -- an option is put in front, or it holds the place
  cases h with
  | @further _ m join whenTrue whenFalse hstop hnode hcondition hflags hincoming hjoin htrue hfalse =>
    refine ⟨m, rfl, hnode, fun _ => ⟨whenTrue, whenFalse, htrue, hfalse, by simp⟩, fun hno => ?_⟩
    have hyes : g.isFurther r (place join) m = true := by
      simp [isFurther, hcondition, hflags, hincoming, join?_eq_place hjoin]
    rw [hyes] at hno
    cases hno
  | last h =>
    have hwalk := h
    cases h with
    | stop => exact absurd rfl hne
    | @step _ m _ ids _ hnode hcondition =>
      refine ⟨m, rfl, hnode, fun hyes => ?_, fun _ => hwalk⟩
      simp [isFurther, hcondition] at hyes
    | @gate _ m _ ids hnode hgate _ _ htrue =>
      refine ⟨m, rfl, hnode, fun _ => ⟨ids, [], htrue, ?_, by simp⟩, fun _ => hwalk⟩
      rw [(isGate_iff.1 hgate).2.1]
      exact .last (.ended _ _)
    | @branch levels m join _ behind whenTrue whenFalse _ hnode _ _ hjoin _ htrue hfalse =>
      refine ⟨m, rfl, hnode, fun hyes => ⟨whenTrue, whenFalse, ?_⟩, fun _ => hwalk⟩
      simp only [isFurther, Bool.and_eq_true, decide_eq_true_eq] at hyes
      -- a further option has the join of the choice, so the walk stops there
      obtain rfl : place join = stop := (join?_eq_place hjoin).symm.trans hyes.2
      refine ⟨htrue.mono (Nat.le_succ _), hfalse.mono (Nat.le_succ _), ?_⟩
      rw [List.length_cons, List.length_append, List.length_append]
      omega

/-- The further options of a choice whose branches fit into levels, and what is left when none of
them holds. -/
theorem exists_furtherOptions {levels steps : Nat} {n : Node} {join : Option String}
    {ids : List String} (h : Fits g r.joins true levels (g.whenFalse? n.id) join ids)
    (hsteps : ids.length ≤ steps) :
    ∃ more, g.furtherOptions r join steps n.id = .ok more
      ∧ (∀ m ∈ more, m ∈ g.nodes ∧ ∃ body,
        Fits g r.joins false levels (g.whenTrue? m.id) join body ∧ body.length ≤ steps)
      ∧ ∃ rest, Fits g r.joins false levels
          (((n :: more).getLast?.map (·.id)).bind g.whenFalse?) join rest
        ∧ rest.length ≤ steps := by
  -- behind the failure stands the join, one option more, or the last branch
  induction steps generalizing n ids with
  | zero =>
    refine ⟨[], rfl, by simp, ids, ?_, hsteps⟩
    show Fits g r.joins false levels (g.whenFalse? n.id) join ids
    generalize g.whenFalse? n.id = current at h ⊢
    cases h with
    | last h => exact h
    | further => simp at hsteps
  | succ steps ih =>
    cases hfalse : g.whenFalse? n.id with
    | none =>
      refine ⟨[], by rw [furtherOptions, hfalse], by simp, [], ?_, Nat.zero_le _⟩
      show Fits g r.joins false levels (g.whenFalse? n.id) join []
      rw [hfalse]
      exact .ended _ _
    | some target =>
      have hlast {rest : List String} (hrest : Fits g r.joins false levels (some target) join rest) :
          Fits g r.joins false levels (([n].getLast?.map (·.id)).bind g.whenFalse?) join rest := by
        show Fits g r.joins false levels (g.whenFalse? n.id) join rest
        rwa [hfalse]
      by_cases hne : some target = join
      · refine ⟨[], by rw [furtherOptions, hfalse]; exact if_pos hne, by simp, [], hlast ?_,
          Nat.zero_le _⟩
        rw [hne]
        exact .of_end _ _
      · rw [hfalse] at h
        obtain ⟨m, rfl, hnode, hfurther, hother⟩ := h.option hne
        rw [furtherOptions_succ hfalse hne hnode]
        cases hm : g.isFurther r join m with
        | false => exact ⟨[], rfl, by simp, ids, hlast (hother hm), hsteps⟩
        | true =>
          obtain ⟨whenTrue, whenFalse, htrue, hwhenFalse, hlength⟩ := hfurther hm
          obtain ⟨more, hmore, hbodies, rest, hrest, hlengthRest⟩ :=
            ih hwhenFalse (by omega : whenFalse.length ≤ steps)
          refine ⟨m :: more, by rw [if_pos rfl, hmore]; rfl, ?_, rest, ?_, by omega⟩
          · have hmem := (mem_of_lastNode?_eq_some hnode).1
            refine List.forall_mem_cons.2 ⟨⟨hmem, whenTrue, htrue, by omega⟩, fun m' hm' => ?_⟩
            obtain ⟨hmem', body, hbody, hlength⟩ := hbodies m' hm'
            exact ⟨hmem', body, hbody, by omega⟩
          · rwa [List.getLast?_cons_cons]

/-- A branch that fits into levels is lowered one level further in. -/
theorem exists_lowerBranch {steps levels : Nat} {target join : Option String} {ids : List String}
    (ih : ∀ {current stop : Option String} {ids : List String},
      Fits g r.joins false levels current stop ids → ids.length ≤ steps →
      ∃ bs, g.lowerFrom limits r stop steps levels current = .ok bs
        ∧ ∀ n ∈ Block.listNodes bs, n ∈ g.nodes)
    (h : Fits g r.joins false levels target join ids) (hsteps : ids.length ≤ steps) :
    ∃ bs, g.lowerBranch limits r join steps (levels + 1) target = .ok bs
      ∧ ∀ n ∈ Block.listNodes bs, n ∈ g.nodes := by
  cases target with
  | none => exact ⟨[], rfl, nofun⟩
  | some target => exact ih h hsteps

/-- The block of a node in front of those of the walk behind it. -/
theorem exists_lowerFrom_succ {steps levels : Nat} {n : Node} {stop next : Option String} {b : Block}
    (hstop : stop ≠ some n.id) (hnode : g.lastNode? n.id = some n)
    (hb : g.lowerNode limits r steps levels n = .ok b ∧ g.behind? r n = next)
    (hmem : ∀ m ∈ b.nodes, m ∈ g.nodes)
    (hrest : ∃ bs, g.lowerFrom limits r stop steps levels next = .ok bs
      ∧ ∀ m ∈ Block.listNodes bs, m ∈ g.nodes) :
    ∃ bs, g.lowerFrom limits r stop (steps + 1) levels (some n.id) = .ok bs
      ∧ ∀ m ∈ Block.listNodes bs, m ∈ g.nodes := by
  obtain ⟨bs, hbs, hmems⟩ := hrest
  refine ⟨b :: bs, ?_, List.forall_mem_append.2 ⟨hmem, hmems⟩⟩
  rw [lowerFrom_succ hstop, nodeAt_of_lastNode? hnode, Outcome.ok_bind, hb.1, Outcome.ok_bind, hb.2,
    hbs]
  rfl

/-- The choice of a condition whose branches are lowered, as are those of its further options. -/
theorem exists_lowerChoice {steps levels : Nat} {n : Node} {more : List Node}
    (hmore : g.furtherOptions r (r.join? n.id) steps n.id = .ok more)
    (hbodies : ∀ m ∈ n :: more, m ∈ g.nodes ∧ ∃ body,
      g.lowerBranch limits r (r.join? n.id) steps levels (g.whenTrue? m.id) = .ok body
        ∧ ∀ n' ∈ Block.listNodes body, n' ∈ g.nodes)
    (hotherwise : ∃ otherwise, g.lowerBranch limits r (r.join? n.id) steps levels
        (((n :: more).getLast?.map (·.id)).bind g.whenFalse?) = .ok otherwise
      ∧ ∀ n' ∈ Block.listNodes otherwise, n' ∈ g.nodes) :
    ∃ b, g.lowerChoice limits r steps levels n = .ok b ∧ ∀ n' ∈ b.nodes, n' ∈ g.nodes := by
  obtain ⟨otherwise, hotherwise, hotherwiseNodes⟩ := hotherwise
  obtain ⟨options, hoptions⟩ := exists_lowerOptions fun m hm => by
    obtain ⟨-, body, hbody, -⟩ := hbodies m hm
    exact ⟨body, hbody⟩
  refine ⟨_, lowerChoice_eq_ok.2 ⟨more, options, otherwise, hmore, hoptions, hotherwise, rfl⟩,
    List.forall_mem_append.2 ⟨fun n' hn' => ?_, hotherwiseNodes⟩⟩
  obtain ⟨o, ho, hn'⟩ := Block.mem_optionNodes.1 hn'
  obtain ⟨hchain, ho⟩ := of_mem_lowerOptions hoptions ho
  -- a node of the choice is a condition in the chain or stands in its body
  obtain ⟨hmem, body, hbody, hinside⟩ := hbodies o.1 hchain
  rw [hbody] at ho
  cases ho
  exact hn'.elim (fun heq => heq ▸ hmem) (hinside n')

/-- A walk that fits into levels is lowered with them, to blocks of nodes of the graph. -/
theorem exists_lowerFrom {steps levels : Nat} {current stop : Option String} {ids : List String}
    (h : Fits g r.joins false levels current stop ids) (hsteps : ids.length ≤ steps) :
    ∃ bs, g.lowerFrom limits r stop steps levels current = .ok bs
      ∧ ∀ n ∈ Block.listNodes bs, n ∈ g.nodes := by
  induction steps generalizing levels current stop ids with
  | zero => exact ⟨[], rfl, nofun⟩
  | succ steps ih =>
    cases h with
    | ended => exact ⟨[], rfl, nofun⟩
    | stop id => exact ⟨[], lowerFrom_stop, nofun⟩
    | @step _ n _ ids hstop hnode hcondition h =>
      have hmem := (mem_of_lastNode?_eq_some hnode).1
      exact exists_lowerFrom_succ hstop hnode (lowerNode_step hcondition)
        (List.forall_mem_singleton.2 hmem) (ih h (by simpa using hsteps))
    | @gate _ n join ids hnode hgate hjoin hend h =>
      have hmem := (mem_of_lastNode?_eq_some hnode).1
      exact exists_lowerFrom_succ (by simp) hnode (lowerNode_gate hgate)
        (List.forall_mem_singleton.2 hmem) (ih h (by simpa using hsteps))
    | @branch levels n join _ behind whenTrue whenFalse hstop hnode hcondition hgate hjoin hbehind
        htrue hfalse =>
      rw [List.length_cons, List.length_append, List.length_append] at hsteps
      have hmem := (mem_of_lastNode?_eq_some hnode).1
      -- the walk of the failures is cut into further options and what is run otherwise
      obtain ⟨more, hmore, hbodies, rest, hrest, hlength⟩ :=
        exists_furtherOptions hfalse (by omega : whenFalse.length ≤ steps)
      rw [← join?_eq_place hjoin] at hbehind htrue hmore hbodies hrest
      obtain ⟨b, hb, hbmem⟩ : ∃ b, g.lowerChoice limits r steps (levels + 1) n = .ok b
          ∧ ∀ n' ∈ b.nodes, n' ∈ g.nodes :=
        exists_lowerChoice hmore
          (List.forall_mem_cons.2 ⟨⟨hmem, exists_lowerBranch ih htrue (by omega)⟩, fun m hm => by
            obtain ⟨hmem, body, hbody, hlength⟩ := hbodies m hm
            exact ⟨hmem, exists_lowerBranch ih hbody hlength⟩⟩)
          (exists_lowerBranch ih hrest hlength)
      rw [← (lowerNode_choice hcondition hgate).1] at hb
      exact exists_lowerFrom_succ hstop hnode ⟨hb, by simp [behind?, hcondition, hgate]⟩ hbmem
        (ih hbehind (by omega))

/-- The gates at the start of a walk, and the walk behind them. -/
theorem exists_leadingGates {steps levels : Nat} {current : Option String} {ids : List String}
    (h : Fits g r.joins false levels current none ids) (hsteps : ids.length ≤ steps) :
    ∃ gates next rest, g.leadingGates steps current = .ok (gates, next)
      ∧ Fits g r.joins false levels next none rest ∧ rest.length ≤ steps
      ∧ ∀ n ∈ gates, n ∈ g.nodes := by
  -- the gates end at the first node that is none
  have hstop {n : Node} (steps : Nat) (hnode : g.lastNode? n.id = some n)
      (hgate : g.isGate n = false) : g.leadingGates (steps + 1) (some n.id) = .ok ([], some n.id) := by
    rw [leadingGates, nodeAt_of_lastNode? hnode, Outcome.ok_bind, if_neg (by simp [hgate])]
    rfl
  induction steps generalizing current ids with
  | zero =>
    refine ⟨[], current, ids, ?_, h, hsteps, by simp⟩
    cases current <;> rfl
  | succ steps ih =>
    have hwalk := h
    cases h with
    | ended => exact ⟨[], none, [], rfl, hwalk, Nat.zero_le _, by simp⟩
    | @step _ n _ _ _ hnode hcondition =>
      exact ⟨[], _, _, hstop steps hnode (by simp [isGate, hcondition]), hwalk, hsteps, by simp⟩
    | branch _ hnode _ hgate =>
      exact ⟨[], _, _, hstop steps hnode hgate, hwalk, hsteps, by simp⟩
    | @gate _ n _ ids hnode hgate _ _ h =>
      obtain ⟨gates, next, rest, hgates, hrest, hlength, hmem⟩ :=
        ih h (Nat.le_of_succ_le_succ hsteps)
      refine ⟨n :: gates, next, rest, ?_, hrest, by omega,
        List.forall_mem_cons.2 ⟨(mem_of_lastNode?_eq_some hnode).1, hmem⟩⟩
      rw [leadingGates, nodeAt_of_lastNode? hnode, Outcome.ok_bind, if_pos hgate, hgates]
      rfl

/-- A graph whose walk from the entry on fits into the levels that may be written has a program, of
nodes of the graph. -/
theorem exists_program {ids : List String} (hlimit : 0 ≤ limits.maxNesting)
    (h : Fits g r.joins false limits.maxNesting.toNat r.entry none ids)
    (hlength : ids.length ≤ g.stepBound) :
    ∃ p, g.program limits r = .ok p ∧ ∀ n ∈ p.nodes, n ∈ g.nodes := by
  obtain ⟨gates, next, rest, hgates, hrest, hlengthRest, hgateNodes⟩ := exists_leadingGates h hlength
  obtain ⟨body, hbody, hbodyNodes⟩ : ∃ body,
      g.lowerFrom limits r none g.stepBound limits.maxNesting.toNat next = .ok body
        ∧ ∀ n ∈ Block.listNodes body, n ∈ g.nodes := exists_lowerFrom hrest hlengthRest
  exact ⟨⟨g.triggers, gates, body⟩,
    program_eq_ok.2 ⟨gates, next, body, hgates, hlimit, hbody, rfl⟩,
    List.forall_mem_append.2 ⟨List.forall_mem_append.2
      ⟨fun n hn => (List.mem_filter.1 hn).1, hgateNodes⟩, hbodyNodes⟩⟩

end Graph

end Automation
