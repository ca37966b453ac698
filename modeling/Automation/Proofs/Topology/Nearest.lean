import Automation.Proofs.Topology.Release

/-!
# Joins are the nearest places

In a set of nodes without cycles there is a join for every node (`Graph.RankedOn.exists_joins`), and
it is the nearest place that every run from the node passes: whatever else all of them pass comes
behind it (`Graph.MeetsAt`). The depth of a node in the table is the number of joins between the
node and the end of the run, so the paths upwards from two nodes are compared from the same depth
on, and what both of them pass is never left behind (`JoinTable.Exact.exists_meet?`).
-/

namespace Automation

namespace Graph

/-- A place that every run behind a node passes, and passes before all else that every run behind
the node passes. -/
structure MeetsAt (g : Graph) (id : String) (place : Option String) : Prop where
  passes : PassesBehind g place id
  nearest : ∀ goal, PassesBehind g goal id → Passes g goal place

theorem PassesBehind.of_passes {g : Graph} {goal : Option String} {id : String} {kind : NodeKind}
    (hkind : g.kind? id = some kind) (h : Passes g goal (some id)) (hne : goal ≠ some id) :
    PassesBehind g goal id :=
  ⟨kind, hkind, h.of_step hne hkind, h.of_branch hne hkind⟩

/-- The names of two places are different when the places are. -/
theorem place_inj {a b : String} (h : place a = place b) : a = b := by
  unfold place at h
  split at h <;> split at h
  · rename_i ha hb
    rw [ha, hb]
  · cases h
  · cases h
  · exact Option.some.inj h

end Graph

namespace JoinTable

open Automation.Graph

variable {g : Graph} {t : JoinTable}

/-- A table whose joins are the nearest places, with the depths that they have. -/
structure Exact (g : Graph) (t : JoinTable) : Prop where
  nodup : (t.map (·.id)).Nodup
  named : ∀ row ∈ t, row.id ≠ exitName
  depth : ∀ row ∈ t, ∃ level, t.depth? row.join = some level ∧ row.depth = level + 1
  bounded : ∀ row ∈ t, row.depth ≤ t.length
  meets : ∀ row ∈ t, MeetsAt g row.id (place row.join)

/-- The row of a node is found by its id. -/
theorem find?_of_mem (h : (t.map (·.id)).Nodup) {row : JoinRow} (hrow : row ∈ t) :
    t.find? (·.id == row.id) = some row :=
  find?_eq_some_of_unique hrow (beq_self_eq_true _) fun _ hother hid =>
    List.inj_on_of_nodup_map h hother hrow (beq_iff_eq.1 hid)

theorem join?_of_mem (h : (t.map (·.id)).Nodup) {row : JoinRow} (hrow : row ∈ t) :
    t.join? row.id = some row.join := by
  rw [join?, find?_of_mem h hrow, Option.map_some]

theorem depth?_of_mem (h : (t.map (·.id)).Nodup) {row : JoinRow} (hrow : row ∈ t) :
    t.depth? row.id = some row.depth := by
  rw [depth?, find?_of_mem h hrow]

/-- What has a depth is the end of the run, or has a row. -/
theorem eq_or_mem_of_depth? {a : String} {level : Nat} (ha : t.depth? a = some level) :
    (a = exitName ∧ level = 0) ∨ ∃ row ∈ t, row.id = a ∧ row.depth = level := by
  unfold depth? at ha
  split at ha
  · rename_i row hrow
    exact .inr ⟨row, List.mem_of_find?_eq_some hrow, by simpa using List.find?_some hrow,
      Option.some.inj ha⟩
  · split at ha
    · rename_i hexit
      exact .inl ⟨hexit, (Option.some.inj ha).symm⟩
    · cases ha

namespace Exact

variable (h : Exact g t)

include h

theorem depth?_exitName : t.depth? exitName = some 0 := by
  rw [depth?, List.find?_eq_none.2, if_pos rfl]
  exact fun row hrow hid => h.named row hrow (beq_iff_eq.1 hid)

theorem depth_le {a : String} {level : Nat} (ha : t.depth? a = some level) : level ≤ t.length := by
  rcases eq_or_mem_of_depth? ha with ⟨-, rfl⟩ | ⟨row, hrow, -, rfl⟩
  · exact Nat.zero_le _
  · exact h.bounded row hrow

/-- The join of a node is the end, or has a row. -/
theorem mem_of_place {row : JoinRow} (hrow : row ∈ t) : ∀ s ∈ place row.join, s ∈ t.map (·.id) := by
  intro s hs
  obtain ⟨level, hdepth, -⟩ := h.depth row hrow
  rcases eq_or_mem_of_depth? hdepth with ⟨hexit, -⟩ | ⟨above, habove, hid, -⟩
  · rw [hexit, place, if_pos rfl] at hs
    cases hs
  · rw [← hid, place_of_ne (h.named above habove)] at hs
    cases hs
    exact List.mem_map_of_mem habove

/-- Above a node that is not the end lies its join, one level less deep. -/
theorem exists_join {a : String} {level : Nat} (ha : t.depth? a = some (level + 1)) :
    ∃ join, t.join? a = some join ∧ t.depth? join = some level
      ∧ ∀ goal, Passes g goal (place a) → goal ≠ place a → Passes g goal (place join) := by
  rcases eq_or_mem_of_depth? ha with ⟨-, hzero⟩ | ⟨row, hrow, rfl, hdepth⟩
  · cases hzero
  · obtain ⟨level', hjoin, hlevel⟩ := h.depth row hrow
    obtain rfl : level' = level := by omega
    refine ⟨row.join, join?_of_mem h.nodup hrow, hjoin, fun goal hgoal hne => ?_⟩
    obtain ⟨kind, hkind, -⟩ := (h.meets row hrow).passes
    rw [place_of_ne (h.named row hrow)] at hgoal hne
    exact (h.meets row hrow).nearest goal (.of_passes hkind hgoal hne)

/-- What every run from a node passes lies above the node, or is the node. -/
theorem exists_of_passes {a : String} {level : Nat} (ha : t.depth? a = some level)
    {goal : Option String} (hgoal : Passes g goal (place a)) :
    ∃ c depth, goal = place c ∧ t.depth? c = some depth ∧ depth ≤ level
      ∧ (depth = level → c = a) := by
  induction level generalizing a with
  | zero =>
    rcases eq_or_mem_of_depth? ha with ⟨rfl, -⟩ | ⟨row, hrow, rfl, hdepth⟩
    · rw [place, if_pos rfl] at hgoal
      refine ⟨exitName, 0, ?_, ha, Nat.le_refl _, fun _ => rfl⟩
      rw [hgoal.eq_none, place, if_pos rfl]
    · obtain ⟨_, -, hlevel⟩ := h.depth row hrow
      omega
  | succ level ih =>
    by_cases heq : goal = place a
    · exact ⟨a, level + 1, heq, ha, Nat.le_refl _, fun _ => rfl⟩
    · obtain ⟨join, -, hjoin, hup⟩ := h.exists_join ha
      obtain ⟨c, depth, hc, hdepth, hle, -⟩ := ih hjoin (hup goal hgoal heq)
      exact ⟨c, depth, hc, hdepth, by omega, by omega⟩

/-- Climbing to a level leaves nothing behind that is no deeper. -/
theorem exists_climb? (limit : Nat) {fuel : Nat} {a : String} {level : Nat}
    (ha : t.depth? a = some level) (hfuel : level < fuel) :
    ∃ r, t.climb? limit fuel a = some r ∧ t.depth? r = some (min level limit)
      ∧ ∀ c depth, t.depth? c = some depth → depth ≤ limit →
          Passes g (place c) (place a) → Passes g (place c) (place r) := by
  induction fuel generalizing a level with
  | zero => omega
  | succ fuel ih =>
    by_cases hdeep : limit < level
    · obtain ⟨above, rfl⟩ := Nat.exists_eq_add_one_of_ne_zero (by omega : level ≠ 0)
      obtain ⟨join, hjoin, hdepth, hup⟩ := h.exists_join ha
      -- too deep: the climb goes on at the join, which is one level up
      obtain ⟨r, hr, hlevel, hkeeps⟩ := ih hdepth (by omega)
      refine ⟨r, ?_, ?_, fun c depth hc hle hpasses => hkeeps c depth hc hle (hup _ hpasses ?_)⟩
      · simp [climb?, ha, hdeep, hjoin, hr]
      · rw [hlevel]
        congr 1
        omega
      · -- the goal is no deeper than the limit, and the node is
        intro heq
        rw [place_inj heq, ha] at hc
        cases hc
        omega
    · refine ⟨a, by simp [climb?, ha, hdeep], ?_, fun _ _ _ _ hpasses => hpasses⟩
      rw [ha]
      congr 1
      omega

/-- The paths upwards from two nodes meet before all that both of them pass. -/
theorem exists_meet? {fuel : Nat} {a b : String} {i j : Nat} (ha : t.depth? a = some i)
    (hb : t.depth? b = some j) (hfuel : min i j < fuel) :
    ∃ r level, t.meet? fuel a b = some r ∧ t.depth? r = some level
      ∧ ∀ goal, Passes g goal (place a) → Passes g goal (place b) → Passes g goal (place r) := by
  induction fuel generalizing a b i j with
  | zero => omega
  | succ fuel ih =>
    by_cases heq : a = b
    · exact ⟨a, i, by simp [meet?, heq], ha, fun _ hpasses _ => hpasses⟩
    · obtain ⟨a', hclimbA, ha', hkeepsA⟩ := h.exists_climb? j ha
        (Nat.lt_of_le_of_lt (h.depth_le ha) (by omega : t.length < t.length + 2))
      obtain ⟨b', hclimbB, hb', hkeepsB⟩ := h.exists_climb? (min i j) hb
        (Nat.lt_of_le_of_lt (h.depth_le hb) (by omega : t.length < t.length + 2))
      have hlevel : min j (min i j) = min i j := by omega
      rw [hlevel] at hb'
      -- what both pass is no deeper than either of them
      have hboth : ∀ goal, Passes g goal (place a) → Passes g goal (place b) →
          Passes g goal (place a') ∧ Passes g goal (place b') := by
        intro goal hpassesA hpassesB
        obtain ⟨c, depth, rfl, hc, hle, -⟩ := h.exists_of_passes ha hpassesA
        obtain ⟨c', depth', hplace, hc', hle', -⟩ := h.exists_of_passes hb hpassesB
        obtain rfl := place_inj hplace
        rw [hc] at hc'
        cases hc'
        exact ⟨hkeepsA c depth hc hle' hpassesA, hkeepsB c depth hc (by omega) hpassesB⟩
      by_cases hmeet : a' = b'
      · subst hmeet
        refine ⟨a', min i j, ?_, ha', fun goal hpassesA hpassesB => (hboth goal hpassesA hpassesB).1⟩
        simp [meet?, heq, hb, hclimbA, ha', hclimbB]
      · cases hmin : min i j with
        | zero =>
          -- only the end of the run has no depth
          rw [hmin] at ha' hb'
          have hend {x : String} (hx : t.depth? x = some 0) : x = exitName := by
            rcases eq_or_mem_of_depth? hx with ⟨hx, -⟩ | ⟨row, hrow, -, hdepth⟩
            · exact hx
            · obtain ⟨_, -, hlevel⟩ := h.depth row hrow
              omega
          exact absurd ((hend ha').trans (hend hb').symm) hmeet
        | succ above =>
          rw [hmin] at ha' hb'
          obtain ⟨joinA, hjoinA, hdepthA, hupA⟩ := h.exists_join ha'
          obtain ⟨joinB, hjoinB, hdepthB, hupB⟩ := h.exists_join hb'
          obtain ⟨r, level, hr, hdepth, hmeets⟩ := ih hdepthA hdepthB (by omega)
          refine ⟨r, level, ?_, hdepth, fun goal hpassesA hpassesB => ?_⟩
          · simp [meet?, heq, hb, hclimbA, ha', hmin ▸ hclimbB, hmeet, hjoinA, hjoinB, hr]
          · obtain ⟨hgoalA, hgoalB⟩ := hboth goal hpassesA hpassesB
            obtain ⟨c, depth, rfl, hc, -, hsameA⟩ := h.exists_of_passes ha' hgoalA
            obtain ⟨c', depth', hplace, hc', -, hsameB⟩ := h.exists_of_passes hb' hgoalB
            obtain rfl := place_inj hplace
            rw [hc] at hc'
            cases hc'
            -- two nodes of one depth do not pass each other
            refine hmeets _ (hupA _ hgoalA fun hsame => ?_) (hupB _ hgoalB fun hsame => ?_)
            · have hdepth' := place_inj hsame
              subst hdepth'
              rw [ha'] at hc
              cases hc
              exact hmeet (hsameB rfl)
            · have hdepth' := place_inj hsame
              subst hdepth'
              rw [hb'] at hc
              cases hc
              exact hmeet (hsameA rfl).symm

end Exact

end JoinTable

namespace Graph

open JoinTable

variable {g : Graph} {rank : String → Nat}

/-! ## The table -/

/-- The places that a run can go on at behind a node meet in one that it passes whichever it
takes. -/
theorem exists_meetAll? (hwf : g.WellFormed) (hexit : g.NoExit) {t : JoinTable} (ht : Exact g t)
    {id first : String} {others : List String} {kind : NodeKind} (hkind : g.kind? id = some kind)
    (hexits : ∀ e ∈ g.edges, e.source = id → e.target ∈ t.map (·.id))
    (hfound : g.exits? id = some (first, others)) :
    ∃ join level, t.meetAll? first others = some join ∧ t.depth? join = some level
      ∧ ∀ goal, PassesBehind g goal id → Passes g goal (place join) := by
  -- every exit is the end or has a row
  have hknown {name : String} (htarget : ∀ s ∈ place name, ∃ e ∈ g.edges, e.source = id
      ∧ e.target = s) : ∃ level, t.depth? name = some level := by
    by_cases hname : name = exitName
    · rw [hname]
      exact ⟨0, ht.depth?_exitName⟩
    · obtain ⟨e, he, hsource, rfl⟩ := htarget name (place_of_ne hname)
      obtain ⟨row, hrow, hid⟩ := List.mem_map.1 (hexits e he hsource)
      rw [← hid]
      exact ⟨_, depth?_of_mem ht.nodup hrow⟩
  obtain ⟨kind', hkind', hstep, hbranch⟩ := places_of_exits? hwf hexit hfound
  cases hkind.symm.trans hkind'
  cases hcondition : kind.isCondition with
  | false =>
    obtain ⟨hfirst, rfl⟩ := hstep hcondition
    obtain ⟨level, hlevel⟩ : ∃ level, t.depth? first = some level := hknown fun s hs => by
      rw [hfirst] at hs
      exact exists_edge_of_successor? hs
    refine ⟨first, level, rfl, hlevel, fun goal hgoal => ?_⟩
    obtain ⟨kind', hkind', hbehind, -⟩ := hgoal
    cases hkind.symm.trans hkind'
    rw [hfirst]
    exact hbehind hcondition
  | true =>
    obtain ⟨hfirst, other, rfl, hother⟩ := hbranch hcondition
    obtain ⟨i, hi⟩ : ∃ level, t.depth? first = some level := hknown fun s hs =>
      exists_target_of_branch? (hfirst.symm.trans hs)
    obtain ⟨j, hj⟩ : ∃ level, t.depth? other = some level := hknown fun s hs =>
      exists_target_of_branch? (hother.symm.trans hs)
    have := ht.depth_le hi
    obtain ⟨join, level, hmeet, hlevel, hmeets⟩ := ht.exists_meet? hi hj
      (by omega : min i j < t.length + 2)
    refine ⟨join, level, by simp [meetAll?, hmeet], hlevel, fun goal hgoal => ?_⟩
    obtain ⟨kind', hkind', -, hbehind⟩ := hgoal
    cases hkind.symm.trans hkind'
    refine hmeets goal ?_ ?_
    · rw [hfirst]
      exact (hbehind hcondition).1
    · rw [hother]
      exact (hbehind hcondition).2

/-- A row in front of an exact table, one level below a place where all runs behind its node
meet. -/
theorem exact_cons (hexit : g.NoExit) {t : JoinTable} (ht : Exact g t) {id join : String} {level : Nat}
    {kind : NodeKind} (hkind : g.kind? id = some kind) (hnew : id ∉ t.map (·.id))
    (hlevel : t.depth? join = some level) (hmeets : MeetsAt g id (place join)) :
    Exact g (⟨id, join, level + 1⟩ :: t) := by
  -- the rows that are there keep their levels, as the new one has another name
  have hkept {name : String} {depth : Nat} (h : t.depth? name = some depth) :
      depth? (⟨id, join, level + 1⟩ :: t) name = some depth := by
    have hne : id ≠ name := by
      rintro rfl
      rcases eq_or_mem_of_depth? h with ⟨hexitName, -⟩ | ⟨row, hrow, hid, -⟩
      · exact hexit.ne_of_kind? hkind hexitName
      · exact hnew (hid ▸ List.mem_map_of_mem hrow)
    rw [depth?, List.find?_cons_of_neg (by simpa using hne)]
    exact h
  refine ⟨List.nodup_cons.2 ⟨hnew, ht.nodup⟩, ?_, ?_, ?_, ?_⟩
  · exact List.forall_mem_cons.2 ⟨hexit.ne_of_kind? hkind, ht.named⟩
  · refine List.forall_mem_cons.2 ⟨⟨level, hkept hlevel, rfl⟩, fun row hrow => ?_⟩
    obtain ⟨depth, hdepth, heq⟩ := ht.depth row hrow
    exact ⟨depth, hkept hdepth, heq⟩
  · have := ht.depth_le hlevel
    refine List.forall_mem_cons.2 ⟨?_, fun row hrow => ?_⟩
    · rw [List.length_cons]
      dsimp only
      omega
    · exact Nat.le_succ_of_le (ht.bounded row hrow)
  · exact List.forall_mem_cons.2 ⟨hmeets, ht.meets⟩

/-- A node all of whose exits are in the table gets a row. -/
theorem exists_addJoin? (hwf : g.WellFormed) (hexit : g.NoExit) {t : JoinTable} (ht : Exact g t)
    {id : String} {kind : NodeKind} (hkind : g.kind? id = some kind) (hnew : id ∉ t.map (·.id))
    (hexits : ∀ e ∈ g.edges, e.source = id → e.target ∈ t.map (·.id)) :
    ∃ row, g.addJoin? t id = some (row :: t) ∧ row.id = id ∧ Exact g (row :: t) := by
  obtain ⟨⟨first, others⟩, hfound⟩ := exists_exits? hkind
  obtain ⟨join, level, hjoin, hlevel, hnearest⟩ :=
    exists_meetAll? hwf hexit ht hkind hexits hfound
  have hsound : Sound g t := fun row hrow => (ht.meets row hrow).passes
  have hpasses := passesBehind_of_exits? hwf hexit hsound hfound hjoin
  exact ⟨⟨id, join, level + 1⟩, by simp [addJoin?, hfound, hjoin, hlevel], rfl,
    exact_cons hexit ht hkind hnew hlevel ⟨hpasses, hnearest⟩⟩

/-- The table of a set of nodes that holds no cycle and from which no edge leads out. It keeps what
holds of the empty table and goes on to hold when a node whose exits are known gets its row. -/
theorem RankedOn.exists_joins_of {ids : List String} (hg : g.RankedOn ids rank)
    {P : JoinTable → Prop} (hnil : P [])
    (hadd : ∀ t, P t → ∀ id kind, g.kind? id = some kind → id ∉ t.map (·.id) →
      (∀ e ∈ g.edges, e.source = id → e.target ∈ t.map (·.id)) →
      ∃ row, g.addJoin? t id = some (row :: t) ∧ row.id = id ∧ P (row :: t))
    (hids : ids.Nodup) (hkinds : ∀ id ∈ ids, ∃ kind, g.kind? id = some kind)
    (hclosed : ∀ e ∈ g.edges, e.source ∈ ids → e.target ∈ ids) :
    ∃ t, g.joins ids = .ok t ∧ P t ∧ (t.map (·.id)).Perm ids := by
  have hperm := hg.perm_releaseOrder hids
  -- the nodes are handled from the last one that is released on
  have hfold : ∀ order : List String, order ⊆ ids → order.Nodup →
      order.Pairwise (fun a b => ∀ e ∈ g.edges, e.target = a → e.source ≠ b) →
      (∀ e ∈ g.edges, e.source ∈ order → e.target ∈ order) →
      ∃ t, order.reverse.foldlM g.addJoin? [] = some t ∧ P t ∧ t.map (·.id) = order := by
    intro order
    induction order with
    | nil => exact fun _ _ _ _ => ⟨[], rfl, hnil, rfl⟩
    | cons id order ih =>
      intro hgiven hnodup hordered hclosed
      have hid := hgiven List.mem_cons_self
      obtain ⟨hnew, hnodup⟩ := List.nodup_cons.1 hnodup
      obtain ⟨hfirst, hordered⟩ := List.pairwise_cons.1 hordered
      have hbehind : ∀ e ∈ g.edges, e.source ∈ order → e.target ∈ order := by
        intro e he hsource
        rcases List.mem_cons.1 (hclosed e he (List.mem_cons_of_mem _ hsource)) with heq | hmem
        · exact absurd rfl (hfirst e.source hsource e he heq)
        · exact hmem
      obtain ⟨t, ht, hkept, hrows⟩ := ih (fun x hx => hgiven (List.mem_cons_of_mem _ hx)) hnodup
        hordered hbehind
      obtain ⟨kind, hkind⟩ := hkinds id hid
      obtain ⟨row, hrow, hrow', hkept'⟩ := hadd t hkept id kind hkind (hrows ▸ hnew)
        fun e he hsource => by
          rw [hrows]
          -- an edge from the node to itself would have to raise its rank
          refine (List.mem_cons.1 (hclosed e he (hsource ▸ List.mem_cons_self))).resolve_left ?_
          intro htarget
          have := hg e he (hsource ▸ hid)
          rw [hsource, htarget] at this
          omega
      refine ⟨row :: t, ?_, hkept', by rw [List.map_cons, hrow', hrows]⟩
      rw [List.reverse_cons, List.foldlM_append, ht]
      simp [hrow]
  obtain ⟨t, ht, hkept, hrows⟩ := hfold (g.releaseOrder ids) hperm.subset (hperm.nodup_iff.2 hids)
    (pairwise_releaseOrder hids)
    (fun e he hsource => hperm.symm.subset (hclosed e he (hperm.subset hsource)))
  exact ⟨t, by rw [joins, ht]; rfl, hkept, hrows ▸ hperm⟩

/-- The joins of such a set are the nearest places. -/
theorem RankedOn.exists_joins {ids : List String} (hg : g.RankedOn ids rank) (hwf : g.WellFormed)
    (hexit : g.NoExit) (hids : ids.Nodup) (hkinds : ∀ id ∈ ids, ∃ kind, g.kind? id = some kind)
    (hclosed : ∀ e ∈ g.edges, e.source ∈ ids → e.target ∈ ids) :
    ∃ t, g.joins ids = .ok t ∧ Exact g t ∧ (t.map (·.id)).Perm ids := by
  refine hg.exists_joins_of ⟨List.nodup_nil, ?_, ?_, ?_, ?_⟩
    (fun t ht id kind hkind => exists_addJoin? hwf hexit ht hkind) hids hkinds hclosed
  all_goals simp

/-- The join of a node is the nearest place that every run behind it passes. -/
theorem Ranked.place_join (hg : g.Ranked rank) {t : JoinTable} (ht : Exact g t) {id join : String}
    (hjoin : t.join? id = some join) {k : Option String} (h : MeetsAt g id k) : place join = k := by
  obtain ⟨row, hrow, rfl, rfl⟩ := JoinTable.join?_eq_some hjoin
  exact hg.eq_of_passes (h.nearest _ (ht.meets row hrow).passes) ((ht.meets row hrow).nearest _ h.passes)

/-! ## The nodes that a run goes through -/

/-- The nodes that a run goes through are those that paths lead to, without the triggers. -/
theorem WellFormed.exists_body (hwf : g.WellFormed) : ∃ ids, g.body = .ok ids ∧ ids.Nodup
    ∧ ∀ id, id ∈ ids ↔ ∃ n ∈ g.nodes, n.id = id ∧ n.kind.isTrigger = false ∧ g.Reaches id := by
  have hkind : ∀ id ∈ g.reachable, ∃ n ∈ g.nodes, n.id = id := fun id hid =>
    hwf.exists_of_reaches (mem_reachable_iff.1 hid)
  -- the body is what is reached, with the triggers left out
  refine ⟨g.reachable.filter fun id => !(g.kind? id).any (·.isTrigger), ?_,
    g.nodup_reachable.filter _, fun id => ?_⟩
  · refine Outcome.filterM_eq_ok_of_forall fun id hid => ?_
    obtain ⟨n, hn, rfl⟩ := hkind id hid
    rw [hwf.kind?_of_mem hn]
    rfl
  · rw [List.mem_filter, mem_reachable_iff]
    constructor
    · rintro ⟨hreaches, hno⟩
      obtain ⟨n, hn, rfl⟩ := hwf.exists_of_reaches hreaches
      rw [hwf.kind?_of_mem hn, Option.any_some, Bool.not_eq_true'] at hno
      exact ⟨n, hn, rfl, hno, hreaches⟩
    · rintro ⟨n, hn, rfl, hno, hreaches⟩
      refine ⟨hreaches, ?_⟩
      rw [hwf.kind?_of_mem hn, Option.any_some, hno]
      rfl

/-- The table of the joins of a graph without cycles: a row for each node that a run goes
through. -/
theorem Ranked.exists_bodyJoins (hg : g.Ranked rank) (hwf : g.WellFormed) (hexit : g.NoExit) :
    ∃ ids t, g.body = .ok ids ∧ g.joins ids = .ok t ∧ Exact g t ∧ ∀ id, id ∈ t.map (·.id) ↔
      ∃ n ∈ g.nodes, n.id = id ∧ n.kind.isTrigger = false ∧ g.Reaches id := by
  obtain ⟨ids, hbody, hnodup, hids⟩ := hwf.exists_body
  obtain ⟨t, ht, hexact, hperm⟩ := (hg.on ids).exists_joins hwf hexit hnodup
    (fun id hid => by
      obtain ⟨n, hn, rfl, -⟩ := (hids id).1 hid
      exact ⟨n.kind, hwf.kind?_of_mem hn⟩)
    (fun e he hsource => by
      obtain ⟨-, -, -, -, hreaches⟩ := (hids e.source).1 hsource
      obtain ⟨-, -, -, n, hn, -, htarget, htrigger⟩ := hwf.edge he
      exact (hids e.target).2 ⟨n, hn, htarget.symm, htrigger, .edge he hreaches⟩)
  exact ⟨ids, t, hbody, ht, hexact, fun id => hperm.mem_iff.trans (hids id)⟩

/-- Where a run goes on when a block is skipped is known in a graph without cycles. -/
theorem Ranked.exists_blockJoins (hg : g.Ranked rank) (hwf : g.WellFormed) (hexit : g.NoExit) :
    ∃ joins, g.blockJoins = .ok joins := by
  obtain ⟨ids, t, hbody, ht, -⟩ := hg.exists_bodyJoins hwf hexit
  unfold blockJoins
  rw [hg.forward_eq, hbody, Outcome.ok_bind, ht, Outcome.ok_bind]
  exact ⟨_, rfl⟩

end Graph

end Automation
