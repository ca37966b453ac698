import Automation.Proofs.Program.Entrances
import Automation.Proofs.Program.Fitting
import Automation.Proofs.Program.Positions

/-!
# Programs written back

A gate in a branch of a choice ends the runs that it stops, so nothing but the end is sure to come
behind the choice. When something is run behind it all the same, the branches of the choice lead
there one by one, and the walk that writes the graph meets it twice (`Block.Laid.conflict`). Without
such a choice the walk goes through the blocks as they are nested, and fits into the levels of the
blocks (`Block.Laid.exists_fits`).
-/

namespace Automation

namespace Block

mutual
/-- How deep choices stand inside one another in a block. -/
def depth : Block → Nat
  | step _ => 0
  | choice options otherwise => max (optionsDepth options) (listDepth otherwise) + 1
termination_by structural b => b

/-- How deep choices stand inside one another in a list of blocks. -/
def listDepth : List Block → Nat
  | [] => 0
  | b :: bs => max (depth b) (listDepth bs)
termination_by structural bs => bs

/-- How deep choices stand inside one another in the bodies of options. -/
def optionsDepth : List (Node × List Block) → Nat
  | [] => 0
  | (_, body) :: rest => max (listDepth body) (optionsDepth rest)
termination_by structural options => options
end

end Block

namespace Program

variable {limits : Limits}

mutual
/-- No more choices stand inside one another than levels were left. -/
theorem EntryRead.depth_le {levels : Nat} {place : Place} {entry : Value}
    {created after : List NodeKind} {b : Block} :
    EntryRead limits levels place entry created b after → b.depth ≤ levels
  | .step .. => Nat.zero_le _
  | .gate _ _ _ => Nat.zero_le _
  | .ifBlock _ _ _ hthen helse => by
    have hbody := ListRead.depth_le hthen
    have hotherwise := ListRead.depth_le helse
    simp only [Block.depth, Block.optionsDepth]
    omega
  | .chooseBlock _ _ hoptions hdefault => by
    have hbodies := OptionsRead.depth_le hoptions
    have hotherwise := ListRead.depth_le hdefault
    simp only [Block.depth]
    omega

/-- A list is no deeper than the levels it was read on. -/
theorem ListRead.depth_le {levels : Nat} {place : Place} {i : Nat} {entries : List Value}
    {created after : List NodeKind} {bs : List Block} :
    ListRead limits levels place i entries created bs after → Block.listDepth bs ≤ levels
  | .nil => Nat.zero_le _
  | .cons hentry hrest => Nat.max_le.2 ⟨EntryRead.depth_le hentry, ListRead.depth_le hrest⟩

/-- Options are no deeper than the levels they were read on. -/
theorem OptionsRead.depth_le {levels : Nat} {place : Place} {i : Nat} {flags : Entries}
    {options : List Value} {created after : List NodeKind} {read : List (Node × List Block)} :
    OptionsRead limits levels place i flags options created read after →
    Block.optionsDepth read ≤ levels
  | .nil => Nat.zero_le _
  | .cons _ _ _ hbody hrest => Nat.max_le.2 ⟨ListRead.depth_le hbody, OptionsRead.depth_le hrest⟩
end

end Program

namespace Block

/-- Whether nothing is run behind any choice in which a gate stands. -/
def Uninterrupted (bs : List Block) (next : Option String) : Prop :=
  ∀ b rest place, Within bs next (b :: rest) place → b.chooses = true → b.gated = true →
    listFirst place rest = none

theorem Within.of_nil {bs : List Block} {next place : Option String} (h : Within [] next bs place) :
    bs = [] := by
  induction h with
  | refl => rfl
  | behind _ ih => cases ih
  | inside _ _ ih => cases ih

/-- What stands inside a list of blocks is the list, inside what is behind the first block, or
inside a branch of that block. -/
theorem Within.of_cons {b : Block} {bs bs' : List Block} {next place : Option String}
    (h : Within (b :: bs) next bs' place) :
    (bs' = b :: bs ∧ place = next) ∨ Within bs next bs' place
      ∨ ∃ branch ∈ b.branches, Within branch (listFirst next bs) bs' place := by
  induction h with
  | refl => exact .inl ⟨rfl, rfl⟩
  | behind _ ih =>
    rcases ih with ⟨heq, rfl⟩ | hwithin | ⟨branch, hmem, hwithin⟩
    · cases heq
      exact .inr (.inl .refl)
    · exact .inr (.inl hwithin.behind)
    · exact .inr (.inr ⟨branch, hmem, hwithin.behind⟩)
  | inside _ hmem ih =>
    rcases ih with ⟨heq, rfl⟩ | hwithin | ⟨branch, hmem', hwithin⟩
    · cases heq
      exact .inr (.inr ⟨_, hmem, .refl⟩)
    · exact .inr (.inl (hwithin.inside hmem))
    · exact .inr (.inr ⟨branch, hmem', hwithin.inside hmem⟩)

namespace Uninterrupted

variable {b : Block} {bs branch body otherwise : List Block} {n : Node}
  {options : List (Node × List Block)} {next : Option String}

/-- The rest of a list is uninterrupted when the list is. -/
theorem tail (h : Uninterrupted (b :: bs) next) : Uninterrupted bs next := fun c rest place hwithin =>
  h c rest place (Within.refl.behind.trans hwithin)

/-- The branches of an uninterrupted list are uninterrupted. -/
theorem inside (h : Uninterrupted (b :: bs) next) (hmem : branch ∈ b.branches) :
    Uninterrupted branch (listFirst next bs) := fun c rest place hwithin =>
  h c rest place ((Within.refl.inside hmem).trans hwithin)

/-- The choice between the options that are left. -/
theorem others (h : Uninterrupted (.choice ((n, body) :: options) otherwise :: bs) next) :
    Uninterrupted [.choice options otherwise] (listFirst next bs) := by
  intro c rest place hwithin hchooses hgated
  rcases hwithin.of_cons with ⟨heq, rfl⟩ | hwithin | ⟨branch, hmem, hwithin⟩
  · cases heq
    refine h _ bs next .refl rfl ?_
    rw [gated_eq, Bool.or_eq_true_iff] at hgated ⊢
    refine hgated.imp_left (fun hno => nomatch hno) |>.imp_right fun hany => ?_
    obtain ⟨branch, hmem, hgate⟩ := List.any_eq_true.1 hany
    exact List.any_eq_true.2 ⟨branch, List.mem_cons_of_mem _ hmem, hgate⟩
  · cases hwithin.of_nil
  · exact h.inside (List.mem_cons_of_mem _ hmem) c rest place hwithin hchooses hgated

/-- A step changes nothing. -/
theorem cons_step (h : Uninterrupted bs next) : Uninterrupted (.step n :: bs) next := by
  intro c rest place hwithin hchooses hgated
  rcases hwithin.of_cons with ⟨heq, rfl⟩ | hwithin | ⟨branch, hmem, -⟩
  · cases heq
    cases hchooses
  · exact h c rest place hwithin hchooses hgated
  · cases hmem

end Uninterrupted

/-! ## Choices in which a gate stands -/

/-- In a region that ends where runs do, the nodes that edges lead to from its start. -/
theorem mem_of_region {g : Graph} {t : JoinTable} {rank : String → Nat} (hwf : g.WellFormed)
    {current : Option String} {ids : List String} (h : Graph.Region g t current none ids)
    {bs : List Block} {k : String} (hstanding : Standing g rank bs (some k))
    (hfirst : listFirst (some k) bs = current) : k ∈ ids := by
  refine (hstanding.closed (S := (· ∈ ids)) (fun e he hsource => ?_) fun x hx => ?_).2 k rfl
  · exact (h.mem_or_eq_of_edge hwf he hsource).resolve_right (by simp)
  · rw [hfirst] at hx
    rw [Option.mem_def.1 hx] at h
    exact h.eq_or_mem.resolve_left (by simp)

/-- A walk over the graph enters what is run behind a choice in which a gate stands twice: no branch
of the choice is left before the end. -/
theorem Standing.conflict {g : Graph} {t : JoinTable} {rank : String → Nat} (hwf : g.WellFormed)
    (hg : g.Ranked rank) (ht : JoinTable.Exact g t) {n : Node} {body otherwise : List Block}
    {options : List (Node × List Block)} {k : String}
    (h : Standing g rank [.choice ((n, body) :: options) otherwise] (some k))
    (hend : Graph.Passes g none (some k))
    (hgated : gated (.choice ((n, body) :: options) otherwise) = true)
    {current stop : Option String} {ids : List String} (hregion : Graph.Region g t current stop ids)
    (hmem : n.id ∈ ids) : ¬ids.Nodup := by
  intro hnodup
  obtain ⟨stop', ids', hregion', hne, hnodup'⟩ := hregion.exists_at hnodup hmem
  obtain ⟨kind, hkind, -, hbranch⟩ := hregion'.enter hne
  obtain ⟨hkind', hcondition, htrue, hfalse⟩ := h.of_option
  rw [hkind] at hkind'
  cases hkind'
  obtain ⟨join, behind, whenTrue, whenFalse, hjoin, rfl, -, hwhenTrue, hwhenFalse⟩ :=
    hbranch hcondition
  -- a gate in the options moves the join to the end, and so both branches go on to what is behind
  have hplace := hg.place_join ht hjoin (h.meetsAt hg hend)
  rw [if_pos hgated] at hplace
  rw [hplace, htrue] at hwhenTrue
  rw [hplace, hfalse] at hwhenFalse
  have hinTrue : k ∈ whenTrue := mem_of_region hwf hwhenTrue h.of_body rfl
  have hinFalse : k ∈ whenFalse := mem_of_region hwf hwhenFalse h.of_others rfl
  obtain ⟨-, hbranches, -⟩ := List.nodup_append'.1 (List.nodup_cons.1 hnodup').2
  exact (List.nodup_append'.1 hbranches).2.2 hinTrue hinFalse

/-! ## Blocks laid out in a graph -/

variable {g : Graph} {t : JoinTable} {rank : String → Nat}

/-- Blocks that stand in a graph and can be written back: their nodes have joins, further options
are entered by one edge, and nothing is run behind a choice in which a gate stands. -/
structure Laid (g : Graph) (t : JoinTable) (rank : String → Nat) (bs : List Block)
    (next : Option String) : Prop where
  standing : Standing g rank bs next
  ends : Graph.Passes g none next
  nodes : ∀ n ∈ listNodes bs, g.lastNode? n.id = some n ∧ ∃ join, t.join? n.id = some join
  entered : ListEntered g bs
  smooth : Uninterrupted bs next

namespace Laid

variable {n : Node} {b : Block} {bs body otherwise : List Block}
  {options : List (Node × List Block)} {next : Option String}

theorem tail (h : Laid g t rank (b :: bs) next) : Laid g t rank bs next where
  standing := h.standing.tail
  ends := h.ends
  nodes := fun n hn => h.nodes n (List.mem_append_right _ hn)
  entered := h.entered.2
  smooth := h.smooth.tail

/-- Every run from the start of a list comes to an end. -/
theorem passes (h : Laid g t rank bs next) : Graph.Passes g none (listFirst next bs) :=
  h.standing.passes (fun _ => rfl) h.ends

/-- What is run otherwise is laid out behind the options. -/
theorem of_otherwise (h : Laid g t rank (.choice options otherwise :: bs) next) :
    Laid g t rank otherwise (listFirst next bs) where
  standing := h.standing.head.of_otherwise
  ends := h.tail.passes
  nodes := fun n hn => h.nodes n (List.mem_append_left _ (List.mem_append_right _ hn))
  entered := h.entered.1.2.2
  smooth := h.smooth.inside (List.mem_append_right _ (List.mem_singleton.2 rfl))

/-- The nodes of an option, and of those behind it, are in the graph and have joins. -/
theorem nodes_option (h : Laid g t rank (.choice ((n, body) :: options) otherwise :: bs) next)
    {m : Node} (hm : m = n ∨ m ∈ listNodes body ∨ m ∈ listNodes [.choice options otherwise]) :
    g.lastNode? m.id = some m ∧ ∃ join, t.join? m.id = some join := by
  refine h.nodes m ?_
  rw [listNodes_option, List.mem_cons, List.mem_append, List.mem_append]
  exact hm.imp_right fun hm => hm.imp_right .inl

/-- The body of an option is laid out like a list of its own. -/
theorem of_body (h : Laid g t rank (.choice ((n, body) :: options) otherwise :: bs) next) :
    Laid g t rank body (listFirst next bs) where
  standing := h.standing.head.of_body
  ends := h.tail.passes
  nodes := fun _ hm => h.nodes_option (.inr (.inl hm))
  entered := h.entered.1.2.1.1
  smooth := h.smooth.inside List.mem_cons_self

/-- The options behind one are laid out like a choice of their own. -/
theorem of_others (h : Laid g t rank (.choice ((n, body) :: options) otherwise :: bs) next) :
    Laid g t rank [.choice options otherwise] (listFirst next bs) where
  standing := h.standing.head.of_others
  ends := h.tail.passes
  nodes := fun _ hm => h.nodes_option (.inr (.inr hm))
  entered := ⟨⟨fun o ho => h.entered.1.1 o (List.mem_of_mem_tail ho), h.entered.1.2.1.2,
    h.entered.1.2.2⟩, trivial⟩
  smooth := h.smooth.others

/-- The branches of a choice meet behind it. -/
theorem place_join (hg : g.Ranked rank) (ht : JoinTable.Exact g t)
    (h : Laid g t rank (.choice ((n, body) :: options) otherwise :: bs) next) :
    ∃ join, t.join? n.id = some join ∧ Graph.place join = listFirst next bs := by
  obtain ⟨-, join, hjoin⟩ := h.nodes_option (.inl rfl)
  refine ⟨join, hjoin, ?_⟩
  have hmeets := hg.place_join ht hjoin (h.standing.head.meetsAt hg h.tail.passes)
  split at hmeets
  · rename_i hgated
    rw [hmeets, h.smooth _ bs next .refl rfl hgated]
  · exact hmeets

/-- The further options of a choice fit into the levels of their branches. -/
theorem exists_fits_further (hg : g.Ranked rank) (ht : JoinTable.Exact g t) {levels : Nat}
    (hfits : ∀ branch ∈ (choice options otherwise).branches, Laid g t rank branch next →
      listDepth branch ≤ levels → (listGated branch = true → next = none) →
      ∃ ids, Graph.Fits g t false levels (listFirst next branch) next ids
        ∧ ids.Perm ((listNodes branch).map (·.id)))
    (h : Laid g t rank [.choice options otherwise] next)
    (hoptions : optionsDepth options ≤ levels) (hotherwise : listDepth otherwise ≤ levels)
    (hgate : ∀ branch ∈ (choice options otherwise).branches, listGated branch = true → next = none)
    (hfurther : ∀ o ∈ options, o.1.flags = [] ∧ (g.incoming o.1.id).length = 1) :
    ∃ ids, Graph.Fits g t true levels (listFirst next [.choice options otherwise]) next ids
      ∧ ids.Perm ((listNodes [.choice options otherwise]).map (·.id)) := by
  -- the induction is over the options: behind the failure of one stand the others
  induction options with
  | nil =>
    have hmem : otherwise ∈ (choice [] otherwise).branches := List.mem_singleton.2 rfl
    obtain ⟨ids, hids, hperm⟩ := hfits _ hmem h.of_otherwise hotherwise (hgate _ hmem)
    exact ⟨ids, .last hids, by rwa [listNodes_last, show listNodes [] = [] from rfl, List.append_nil]⟩
  | cons o options ih =>
    obtain ⟨n, body⟩ := o
    have hdepth : listDepth body ≤ levels ∧ optionsDepth options ≤ levels :=
      Nat.max_le.1 hoptions
    have hbody : body ∈ (choice ((n, body) :: options) otherwise).branches := List.mem_cons_self
    obtain ⟨-, -, htrue, hfalse⟩ := h.standing.of_option
    obtain ⟨join, hjoin, hplace⟩ := h.place_join hg ht
    obtain ⟨whenTrue, hwhenTrue, hpermTrue⟩ := hfits _ hbody h.of_body hdepth.1 (hgate _ hbody)
    obtain ⟨whenFalse, hwhenFalse, hpermFalse⟩ := ih
      (fun branch hmem => hfits branch (List.mem_cons_of_mem _ hmem)) h.of_others hdepth.2
      (fun branch hmem => hgate branch (List.mem_cons_of_mem _ hmem))
      (fun o ho => hfurther o (List.mem_cons_of_mem _ ho))
    obtain ⟨hflags, hincoming⟩ := hfurther _ List.mem_cons_self
    have hplace : Graph.place join = next := hplace
    subst hplace
    -- what is behind the choice ranks higher than its nodes, and is none of them
    have hstop : Graph.place join ≠ some n.id := fun heq =>
      absurd ((h.standing.mem_option (.inl rfl)).2 n.id heq) (Nat.lt_irrefl _)
    rw [← htrue] at hwhenTrue
    rw [← hfalse] at hwhenFalse
    refine ⟨n.id :: (whenTrue ++ whenFalse), .further hstop (h.nodes_option (.inl rfl)).1
      h.standing.of_option.2.1 hflags hincoming hjoin hwhenTrue hwhenFalse, ?_⟩
    rw [listNodes_option, show listNodes [] = [] from rfl, List.append_nil, List.map_cons,
      List.map_append]
    exact (hpermTrue.append hpermFalse).cons n.id

/-- Whether blocks fit into as many levels as they have choices inside one another, in front of
every walk that does. -/
def Fitted (g : Graph) (t : JoinTable) (rank : String → Nat) (bs : List Block) : Prop :=
  ∀ (levels : Nat) (next stop : Option String) (behind : List String), Laid g t rank bs next →
    listDepth bs ≤ levels → (next = none → stop = none) → (listGated bs = true → stop = none) →
    (∀ n ∈ listNodes bs, stop ≠ some n.id) → Graph.Fits g t false levels next stop behind →
    ∃ ids, Graph.Fits g t false levels (listFirst next bs) stop ids
      ∧ ids.Perm ((listNodes bs).map (·.id) ++ behind)

/-- A step fits in front of a walk, and so does a gate when the walk ends where the run does. -/
theorem fits_step (hg : g.Ranked rank) (ht : JoinTable.Exact g t) {levels : Nat}
    {stop : Option String} {rest : List String} (h : Laid g t rank (.step n :: bs) next)
    (hgate : n.kind.isCondition = true → stop = none) (hne : stop ≠ some n.id)
    (hrest : Graph.Fits g t false levels (listFirst next bs) stop rest) :
    Graph.Fits g t false levels (some n.id) stop (n.id :: rest) := by
  obtain ⟨-, hstep, hgateway⟩ := h.standing.of_step
  obtain ⟨hnode, join, hjoin⟩ := h.nodes n List.mem_cons_self
  cases hcondition : n.kind.isCondition with
  | false =>
    refine .step hne hnode hcondition ?_
    rwa [hstep hcondition]
  | true =>
    obtain ⟨htrue, hfalse⟩ := hgateway hcondition
    obtain ⟨hlabel, hflags⟩ := h.standing.formed.1.2 hcondition
    obtain rfl := hgate hcondition
    have hbare : g.isGate n = true := Graph.isGate_iff.2 ⟨hcondition, hfalse, hlabel, hflags⟩
    have hend := hg.place_join ht hjoin (h.standing.meetsAt_gate hcondition h.ends)
    refine .gate hnode hbare hjoin hend ?_
    rwa [htrue]

/-- A choice whose failure leads nowhere is a gate, and what is left of it is its first body. -/
theorem exists_fits_bare (hg : g.Ranked rank) (ht : JoinTable.Exact g t) {levels : Nat}
    {rest : List String} (hbody : Fitted g t rank body)
    (h : Laid g t rank (.choice ((n, body) :: options) otherwise :: bs) next)
    (hdepth : listDepth body ≤ levels) (hbare : g.isGate n = true)
    (hrest : Graph.Fits g t false levels (listFirst next bs) none rest) :
    ∃ ids, Graph.Fits g t false levels (some n.id) none ids
      ∧ ids.Perm (n.id :: ((listNodes body).map (·.id)
        ++ ((listNodes [.choice options otherwise]).map (·.id) ++ rest))) := by
  obtain ⟨-, -, htrue, hfalse⟩ := h.standing.head.of_option
  obtain ⟨hnode, -⟩ := h.nodes_option (.inl rfl)
  obtain ⟨join, hjoin, hplace⟩ := h.place_join hg ht
  obtain ⟨-, hnothing, -⟩ := Graph.isGate_iff.1 hbare
  rw [hfalse] at hnothing
  obtain ⟨hothers, hlast⟩ := listFirst_eq_none.1 hnothing
  obtain ⟨ids, hids, hperm⟩ := hbody levels _ none rest h.of_body hdepth (fun _ => rfl)
    (fun _ => rfl) (by simp) hrest
  refine ⟨n.id :: ids, .gate hnode hbare hjoin (hplace.trans hlast) (htrue ▸ hids), ?_⟩
  rw [hothers]
  exact hperm.cons n.id

/-- A choice fits into one level more than its branches. -/
theorem exists_fits_choice (hg : g.Ranked rank) (ht : JoinTable.Exact g t) {inside : Nat}
    {stop : Option String} {rest : List String}
    (hbranches : ∀ branch ∈ (choice ((n, body) :: options) otherwise).branches,
      Fitted g t rank branch)
    (h : Laid g t rank (.choice ((n, body) :: options) otherwise :: bs) next)
    (hdepth : max (max (listDepth body) (optionsDepth options)) (listDepth otherwise) ≤ inside)
    (hbare : g.isGate n = false) (hne : stop ≠ some n.id)
    (hrest : Graph.Fits g t false (inside + 1) (listFirst next bs) stop rest) :
    ∃ ids, Graph.Fits g t false (inside + 1) (some n.id) stop ids
      ∧ ids.Perm (n.id :: ((listNodes body).map (·.id)
        ++ ((listNodes [.choice options otherwise]).map (·.id) ++ rest))) := by
  obtain ⟨-, hcondition, htrue, hfalse⟩ := h.standing.head.of_option
  obtain ⟨hnode, -⟩ := h.nodes_option (.inl rfl)
  obtain ⟨join, hjoin, hplace⟩ := h.place_join hg ht
  have hbody : body ∈ (choice ((n, body) :: options) otherwise).branches := List.mem_cons_self
  -- nothing is run behind the choice when a gate stands in one of its branches
  have hgates : ∀ branch ∈ (choice ((n, body) :: options) otherwise).branches,
      listGated branch = true → listFirst next bs = none := fun branch hmem hg => by
    refine h.smooth _ bs next .refl rfl ?_
    rw [gated_eq, Bool.or_eq_true_iff]
    exact .inr (List.any_eq_true.2 ⟨branch, hmem, hg⟩)
  -- a branch is walked up to what is behind the choice, where nothing is left of the walk
  have hfits : ∀ branch ∈ (choice ((n, body) :: options) otherwise).branches,
      Laid g t rank branch (listFirst next bs) → listDepth branch ≤ inside →
      (listGated branch = true → listFirst next bs = none) →
      ∃ ids, Graph.Fits g t false inside (listFirst (listFirst next bs) branch)
          (listFirst next bs) ids
        ∧ ids.Perm ((listNodes branch).map (·.id)) := by
    intro branch hmem hlaid hlevels hgate
    obtain ⟨ids, hids, hperm⟩ := hbranches branch hmem inside _ _ [] hlaid hlevels id hgate
      (fun m hm heq => absurd (hlaid.standing.before m hm m.id heq) (Nat.lt_irrefl _))
      (Graph.Fits.of_end _ _)
    exact ⟨ids, hids, by rwa [List.append_nil] at hperm⟩
  obtain ⟨whenTrue, hwhenTrue, hpermTrue⟩ :=
    hfits body hbody h.of_body (by omega) (hgates body hbody)
  obtain ⟨whenFalse, hwhenFalse, hpermFalse⟩ := h.of_others.exists_fits_further hg ht
    (fun branch hmem => hfits branch (List.mem_cons_of_mem _ hmem)) (by omega) (by omega)
    (fun branch hmem => hgates branch (List.mem_cons_of_mem _ hmem))
    (fun o ho => ⟨h.standing.formed.1.1 o ho, h.entered.1.1 o ho⟩)
  refine ⟨n.id :: (rest ++ (whenTrue ++ whenFalse)), .branch hne hnode hcondition hbare hjoin
    (by rwa [hplace]) (by rwa [hplace, htrue]) (by rwa [hplace, hfalse]), List.Perm.cons n.id ?_⟩
  refine List.perm_append_comm.trans ?_
  rw [List.append_assoc]
  exact hpermTrue.append (hpermFalse.append (.refl rest))

/-- Blocks that are laid out fit. Induction on the blocks and on their branches. -/
theorem fitted (hg : g.Ranked rank) (ht : JoinTable.Exact g t) (bs : List Block) :
    Fitted g t rank bs := by
  induction bs using induction_branches with
  | nil => exact fun _ _ _ behind _ _ _ _ _ hnext => ⟨behind, hnext, .refl _⟩
  | cons b bs ihBranches ih =>
    intro levels next stop behind h hlevels hnone hgate hstop hnext
    have hdepth : depth b ≤ levels ∧ listDepth bs ≤ levels := Nat.max_le.1 hlevels
    -- the blocks behind fit already, whatever stands in front of them
    obtain ⟨rest, hrest, hpermRest⟩ := ih levels next stop behind h.tail hdepth.2 hnone
      (fun hg => hgate (Bool.or_eq_true_iff.2 (.inr hg)))
      (fun n hn => hstop n (List.mem_append_right _ hn)) hnext
    have hbehind : listFirst next bs = none → stop = none := fun h =>
      hnone (listFirst_eq_none.1 h).2
    match b with
    | .step n =>
      exact ⟨n.id :: rest, h.fits_step hg ht
        (fun hcondition => hgate (Bool.or_eq_true_iff.2 (.inl hcondition)))
        (hstop n List.mem_cons_self) hrest, hpermRest.cons n.id⟩
    | .choice [] otherwise =>
      have hotherwise : listDepth otherwise ≤ levels := by
        have : max (optionsDepth []) (listDepth otherwise) + 1 ≤ levels := hdepth.1
        omega
      obtain ⟨ids, hids, hperm⟩ := ihBranches otherwise (List.mem_singleton.2 rfl) levels _ stop rest
        h.of_otherwise hotherwise hbehind (fun hg => hgate (by rw [listGated_last, hg]; rfl))
        (fun n hn => hstop n (List.mem_append_left _ hn)) hrest
      refine ⟨ids, hids, hperm.trans ?_⟩
      rw [listNodes_last, List.map_append, List.append_assoc]
      exact hpermRest.append_left _
    | .choice ((n, body) :: options) otherwise =>
      have hinside : max (max (listDepth body) (optionsDepth options)) (listDepth otherwise) + 1
          ≤ levels := hdepth.1
      have hfits : ∃ ids, Graph.Fits g t false levels (some n.id) stop ids
          ∧ ids.Perm (n.id :: ((listNodes body).map (·.id)
            ++ ((listNodes [.choice options otherwise]).map (·.id) ++ rest))) := by
        cases hbare : g.isGate n with
        | true =>
          obtain ⟨-, hnothing, -⟩ := Graph.isGate_iff.1 hbare
          rw [h.standing.head.of_option.2.2.2] at hnothing
          obtain rfl := hbehind (listFirst_eq_none.1 hnothing).2
          exact exists_fits_bare hg ht (ihBranches body List.mem_cons_self) h (by omega) hbare hrest
        | false =>
          obtain ⟨inside, rfl⟩ := Nat.exists_eq_add_one_of_ne_zero (by omega : levels ≠ 0)
          refine exists_fits_choice hg ht ihBranches h (Nat.le_of_succ_le_succ hinside) hbare
            (hstop n ?_) hrest
          rw [listNodes_option]
          exact List.mem_cons_self
      obtain ⟨ids, hids, hperm⟩ := hfits
      refine ⟨ids, hids, hperm.trans ?_⟩
      rw [listNodes_option, List.map_cons, List.map_append, List.map_append, List.cons_append,
        List.append_assoc, List.append_assoc]
      exact ((hpermRest.append_left _).append_left _).cons n.id

/-- Blocks fit into as many levels as they have choices inside one another, in front of a walk that
does. -/
theorem exists_fits (hg : g.Ranked rank) (ht : JoinTable.Exact g t) {levels : Nat}
    {stop : Option String} {behind : List String} (h : Laid g t rank bs next)
    (hlevels : listDepth bs ≤ levels) (hnone : next = none → stop = none)
    (hgate : listGated bs = true → stop = none) (hstop : ∀ n ∈ listNodes bs, stop ≠ some n.id)
    (hnext : Graph.Fits g t false levels next stop behind) :
    ∃ ids, Graph.Fits g t false levels (listFirst next bs) stop ids
      ∧ ids.Perm ((listNodes bs).map (·.id) ++ behind) :=
  fitted hg ht bs levels next stop behind h hlevels hnone hgate hstop hnext

end Laid

end Block

end Automation
