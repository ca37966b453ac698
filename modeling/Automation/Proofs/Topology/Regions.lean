import Automation.Proofs.Topology.Passing

/-!
# Regions of a native graph

The walk that writes a graph with branching blocks takes each branch of a condition up to the join
of the condition. When it meets no node twice it takes the graph apart into regions
(`Graph.regions_of_retread`). A region that starts behind the triggers holds all nodes that paths
lead to from there (`Graph.Region.mem_or_eq_of_edge`), and none but these (`Graph.Region.entered`).
-/

namespace Automation

namespace Graph

variable {g : Graph}

/-! ## Regions -/

/-- The nodes of a walk from a place up to another: behind a condition the walk goes on at its join,
and then takes the branches up to the join. -/
inductive Region (g : Graph) (t : JoinTable) : Option String → Option String → List String → Prop
  | ended (stop : Option String) : Region g t none stop []
  | stop (id : String) : Region g t (some id) (some id) []
  | step {id : String} {stop : Option String} {kind : NodeKind} {ids : List String}
    (hstop : stop ≠ some id) (hkind : g.kind? id = some kind) (hcondition : kind.isCondition = false)
    (h : Region g t (g.successor? id) stop ids) : Region g t (some id) stop (id :: ids)
  | branch {id join : String} {stop : Option String} {kind : NodeKind}
    {behind whenTrue whenFalse : List String} (hstop : stop ≠ some id)
    (hkind : g.kind? id = some kind) (hcondition : kind.isCondition = true)
    (hjoin : t.join? id = some join) (hbehind : Region g t (place join) stop behind)
    (htrue : Region g t (g.whenTrue? id) (place join) whenTrue)
    (hfalse : Region g t (g.whenFalse? id) (place join) whenFalse) :
    Region g t (some id) stop (id :: (behind ++ (whenTrue ++ whenFalse)))

/-- The regions of walks that are made one after the other. -/
inductive Regions (g : Graph) (t : JoinTable) : List (String × String) → List String → Prop
  | nil : Regions g t [] []
  | cons {id stop : String} {walks : List (String × String)} {ids rest : List String}
    (h : Region g t (place id) (place stop) ids) (hrest : Regions g t walks rest) :
    Regions g t ((id, stop) :: walks) (ids ++ rest)

variable {t : JoinTable}

/-- A walk that starts at its end has an empty region. -/
theorem Region.of_end {current stop : Option String} (hstop : current = none ∨ current = stop) :
    Region g t current stop [] := by
  rcases hstop with rfl | rfl
  · exact .ended stop
  · cases current with
    | none => exact .ended none
    | some id => exact .stop id

/-- A region that starts at its end is empty. -/
theorem Region.eq_nil {current stop : Option String} {ids : List String}
    (h : Region g t current stop ids) (hstop : current = none ∨ current = stop) : ids = [] := by
  cases h with
  | ended => rfl
  | stop => rfl
  | step hne =>
    rcases hstop with hnone | heq
    · cases hnone
    · exact absurd heq.symm hne
  | branch hne =>
    rcases hstop with hnone | heq
    · cases hnone
    · exact absurd heq.symm hne

/-- A walk is at the place where it stops, or enters it, or the region holds the node it is at. -/
theorem Region.eq_or_mem {id : String} {stop : Option String} {ids : List String}
    (h : Region g t (some id) stop ids) : stop = some id ∨ id ∈ ids := by
  cases h with
  | stop => exact .inl rfl
  | step => exact .inr List.mem_cons_self
  | branch => exact .inr List.mem_cons_self

/-- The region of a walk that enters a node. -/
theorem Region.enter {id : String} {stop : Option String} {ids : List String}
    (h : Region g t (some id) stop ids) (hne : stop ≠ some id) :
    ∃ kind, g.kind? id = some kind
      ∧ (kind.isCondition = false → ∃ rest, ids = id :: rest
        ∧ Region g t (g.successor? id) stop rest)
      ∧ (kind.isCondition = true → ∃ join behind whenTrue whenFalse, t.join? id = some join
        ∧ ids = id :: (behind ++ (whenTrue ++ whenFalse)) ∧ Region g t (place join) stop behind
        ∧ Region g t (g.whenTrue? id) (place join) whenTrue
        ∧ Region g t (g.whenFalse? id) (place join) whenFalse) := by
  cases h with
  | stop => exact absurd rfl hne
  | step _ hkind hcondition h =>
    refine ⟨_, hkind, fun _ => ⟨_, rfl, h⟩, fun hyes => ?_⟩
    rw [hcondition] at hyes
    cases hyes
  | branch _ hkind hcondition hjoin hbehind htrue hfalse =>
    refine ⟨_, hkind, fun hno => ?_, fun _ => ⟨_, _, _, _, hjoin, rfl, hbehind, htrue, hfalse⟩⟩
    rw [hcondition] at hno
    cases hno

/-- The regions of a branch, if it is there, and of the walks behind it. -/
theorem Region.append {target : Option String} {stop : String} {walks : List (String × String)}
    {ids rest : List String} (htarget : ∀ s ∈ target, s ≠ exitName)
    (h : Region g t target (place stop) ids) (hrest : Regions g t walks rest) :
    Regions g t ((target.map fun s => (s, stop)).toList ++ walks) (ids ++ rest) := by
  cases target with
  | none =>
    rw [h.eq_nil (.inl rfl)]
    exact hrest
  | some s =>
    refine .cons ?_ hrest
    rwa [place_of_ne (htarget s rfl)]

/-- A branch that is there is walked before the walks that are left. -/
theorem Regions.of_append {target : Option String} {stop : String} {walks : List (String × String)}
    {ids : List String} (htarget : ∀ s ∈ target, s ≠ exitName)
    (h : Regions g t ((target.map fun s => (s, stop)).toList ++ walks) ids) :
    ∃ branch rest, Region g t target (place stop) branch ∧ Regions g t walks rest
      ∧ ids = branch ++ rest := by
  cases target with
  | none => exact ⟨[], ids, .ended _, h, rfl⟩
  | some s =>
    cases h with
    | cons h hrest =>
      rw [place_of_ne (htarget s rfl)] at h
      exact ⟨_, _, h, hrest, rfl⟩

/-- A node that a walk enters is not the place where it stops. -/
theorem of_not_stop {id stop : String}
    (h : ¬(decide (id = stop) || decide (id = exitName)) = true) :
    place id = some id ∧ place stop ≠ some id := by
  simp only [Bool.or_eq_true, decide_eq_true_eq, not_or] at h
  refine ⟨place_of_ne h.2, fun heq => h.1 ?_⟩
  unfold place at heq
  split at heq
  · cases heq
  · exact (Option.some.inj heq).symm

/-! ## One step of the regions -/

section Step

variable {id stop : String} {rest : List (String × String)} {ids : List String} {kind : NodeKind}

/-- The regions of walks that start by entering a node hold the node, and know how to go on there. -/
theorem Regions.enter (h : Regions g t ((id, stop) :: rest) ids)
    (hstop : ¬(decide (id = stop) || decide (id = exitName)) = true) :
    id ∈ ids ∧ ∃ kind, g.kind? id = some kind
      ∧ (kind.isCondition = true → ∃ join, t.join? id = some join) := by
  obtain _ | ⟨h, -⟩ := h
  obtain ⟨hplace, hne⟩ := of_not_stop hstop
  rw [hplace] at h
  refine ⟨List.mem_append_left _ (h.eq_or_mem.resolve_left hne), ?_⟩
  obtain ⟨kind, hkind, -, hbranch⟩ := h.enter hne
  refine ⟨kind, hkind, fun hcondition => ?_⟩
  obtain ⟨join, -, -, -, hjoin, -⟩ := hbranch hcondition
  exact ⟨join, hjoin⟩

/-- A walk that is at its end adds no nodes. -/
theorem regions_stop_iff (hstop : (decide (id = stop) || decide (id = exitName)) = true) :
    Regions g t ((id, stop) :: rest) ids ↔ Regions g t rest ids := by
  have hend : place id = none ∨ place id = place stop := by
    rcases Bool.or_eq_true_iff.1 hstop with heq | heq
    · exact .inr (congrArg place (of_decide_eq_true heq))
    · rw [of_decide_eq_true heq, place, if_pos rfl]
      exact .inl rfl
  constructor
  · rintro (_ | ⟨h, hrest⟩)
    rwa [h.eq_nil hend, List.nil_append]
  · exact fun hrest => .cons (.of_end hend) hrest

/-- A walk that enters a step goes on behind it. -/
theorem regions_step_iff (hwf : g.WellFormed) (hexit : g.NoExit)
    (hstop : ¬(decide (id = stop) || decide (id = exitName)) = true)
    (hkind : g.kind? id = some kind) (hcondition : kind.isCondition = false) :
    Regions g t ((id, stop) :: rest) ids ↔ ∃ others, ids = id :: others
      ∧ Regions g t (((g.successor? id).map fun target => (target, stop)).toList ++ rest) others := by
  obtain ⟨hplace, hne⟩ := of_not_stop hstop
  -- no edge leads to the name of the exit, so a region behind a step may be cut in two
  have htarget : ∀ s ∈ g.successor? id, s ≠ exitName := fun s hs =>
    (hexit.ne_of_successor? hwf hs).1
  constructor
  · rintro (_ | ⟨h, hrest⟩)
    rw [hplace] at h
    obtain ⟨kind', hkind', hstep, -⟩ := h.enter hne
    cases hkind.symm.trans hkind'
    obtain ⟨behind, rfl, hbehind⟩ := hstep hcondition
    exact ⟨_, rfl, hbehind.append htarget hrest⟩
  · rintro ⟨others, rfl, h⟩
    obtain ⟨behind, _, hbehind, hrest, rfl⟩ := h.of_append htarget
    have hregion := Region.step hne hkind hcondition hbehind
    rw [← hplace] at hregion
    exact .cons hregion hrest

/-- A walk that enters a condition goes on at the join, and then takes the branches up to there. -/
theorem regions_branch_iff (hwf : g.WellFormed) (hexit : g.NoExit)
    (hstop : ¬(decide (id = stop) || decide (id = exitName)) = true)
    (hkind : g.kind? id = some kind) (hcondition : kind.isCondition = true) {join : String}
    (hjoin : t.join? id = some join) :
    Regions g t ((id, stop) :: rest) ids ↔ ∃ others, ids = id :: others
      ∧ Regions g t ((join, stop) :: (((g.whenTrue? id).map fun target => (target, join)).toList
        ++ (((g.whenFalse? id).map fun target => (target, join)).toList ++ rest))) others := by
  obtain ⟨hplace, hne⟩ := of_not_stop hstop
  have htarget (handle : String) : ∀ s ∈ g.branch? id handle, s ≠ exitName := fun s hs =>
    (hexit.ne_of_branch? hwf hs).1
  constructor
  · rintro (_ | ⟨h, hrest⟩)
    rw [hplace] at h
    obtain ⟨kind', hkind', -, hbranch⟩ := h.enter hne
    cases hkind.symm.trans hkind'
    obtain ⟨join', behind, whenTrue, whenFalse, hjoin', rfl, hbehind, htrue, hfalse⟩ :=
      hbranch hcondition
    cases hjoin.symm.trans hjoin'
    rw [List.cons_append, List.append_assoc, List.append_assoc]
    exact ⟨_, rfl, .cons hbehind (htrue.append (htarget _) (hfalse.append (htarget _) hrest))⟩
  · -- the walks over the branches come right behind the one at the join
    rintro ⟨_, rfl, _ | ⟨hbehind, h⟩⟩
    obtain ⟨whenTrue, _, htrue, hothers, rfl⟩ := h.of_append (htarget handleTrue)
    obtain ⟨whenFalse, _, hfalse, hrest, rfl⟩ := hothers.of_append (htarget handleFalse)
    have hregion := Region.branch hne hkind hcondition hjoin hbehind htrue hfalse
    rw [← hplace] at hregion
    have hregions := Regions.cons hregion hrest
    rwa [List.cons_append, List.append_assoc, List.append_assoc] at hregions

end Step

/-! ## One step of the walk -/

/-- The branches of a condition, as the walk takes them. -/
theorem branches_append (g : Graph) (id join : String) (rest : List (String × String)) :
    ([g.whenTrue? id, g.whenFalse? id].filterMap fun target? =>
        target?.map fun target => (target, join)) ++ rest
      = ((g.whenTrue? id).map fun target => (target, join)).toList
        ++ (((g.whenFalse? id).map fun target => (target, join)).toList ++ rest) := by
  cases g.whenTrue? id <;> cases g.whenFalse? id <;> rfl

section Step

variable {met again : List String} {id stop : String} {rest : List (String × String)}
  {kind : NodeKind}

/-- The walk fails at what is no node. -/
theorem retread_of_kind?_eq_none (hstop : ¬(decide (id = stop) || decide (id = exitName)) = true)
    (hmet : ¬met.contains id = true) (hkind : g.kind? id = none) :
    g.retread t met again ((id, stop) :: rest) = Outcome.fault .key := by
  rw [retread, if_neg hstop, dif_neg hmet]
  split
  · rfl
  · rename_i hsome
    rw [hkind] at hsome
    cases hsome

/-- The walk fails at a condition whose join is not known. -/
theorem retread_of_join?_eq_none (hstop : ¬(decide (id = stop) || decide (id = exitName)) = true)
    (hmet : ¬met.contains id = true) (hkind : g.kind? id = some kind)
    (hcondition : kind.isCondition = true) (hjoin : t.join? id = none) :
    g.retread t met again ((id, stop) :: rest) = Outcome.fault .key := by
  rw [retread, if_neg hstop, dif_neg hmet]
  split
  · rfl
  · rename_i kind' hkind'
    rw [hkind] at hkind'
    cases hkind'
    rw [if_pos hcondition, hjoin]

/-- The walk goes on behind a step that it meets for the first time. -/
theorem retread_step (hstop : ¬(decide (id = stop) || decide (id = exitName)) = true)
    (hmet : ¬met.contains id = true) (hkind : g.kind? id = some kind)
    (hcondition : kind.isCondition = false) :
    g.retread t met again ((id, stop) :: rest) = g.retread t (id :: met) again
      (((g.successor? id).map fun target => (target, stop)).toList ++ rest) := by
  rw [retread, if_neg hstop, dif_neg hmet]
  split
  · rename_i hnone
    rw [hkind] at hnone
    cases hnone
  · rename_i kind' hkind'
    rw [hkind] at hkind'
    cases hkind'
    rw [if_neg (by simp [hcondition])]

/-- At a condition that it meets for the first time the walk goes on at the join, and then takes the
branches. -/
theorem retread_branch (hstop : ¬(decide (id = stop) || decide (id = exitName)) = true)
    (hmet : ¬met.contains id = true) (hkind : g.kind? id = some kind)
    (hcondition : kind.isCondition = true) {join : String} (hjoin : t.join? id = some join) :
    g.retread t met again ((id, stop) :: rest) = g.retread t (id :: met) again
      ((join, stop) :: (((g.whenTrue? id).map fun target => (target, join)).toList
        ++ (((g.whenFalse? id).map fun target => (target, join)).toList ++ rest))) := by
  rw [retread, if_neg hstop, dif_neg hmet]
  split
  · rename_i hnone
    rw [hkind] at hnone
    cases hnone
  · rename_i kind' hkind'
    rw [hkind] at hkind'
    cases hkind'
    rw [if_pos hcondition, hjoin]
    dsimp only
    rw [List.cons_append, branches_append]

end Step

/-! ## Walks that meet no node twice -/

/-- A node that has not been met stands in front of other nodes that have not been met. -/
theorem nodup_cons_and_unmet_iff {met ids : List String} {id : String}
    (hmet : ¬met.contains id = true) :
    ((id :: ids).Nodup ∧ ∀ x ∈ id :: ids, x ∉ met) ↔ ids.Nodup ∧ ∀ x ∈ ids, x ∉ id :: met := by
  constructor
  · rintro ⟨hnodup, hunmet⟩
    obtain ⟨hid, hnodup⟩ := List.nodup_cons.1 hnodup
    exact ⟨hnodup, fun x hx => List.not_mem_cons_of_ne_of_not_mem (fun heq => hid (heq ▸ hx))
      (hunmet x (List.mem_cons_of_mem _ hx))⟩
  · rintro ⟨hnodup, hunmet⟩
    exact ⟨List.nodup_cons.2 ⟨fun hmem => hunmet id hmem List.mem_cons_self, hnodup⟩,
      List.forall_mem_cons.2 ⟨fun hmem => hmet (List.contains_iff_mem.2 hmem),
        fun x hx hmem => hunmet x hx (List.mem_cons_of_mem _ hmem)⟩⟩

/-- A walk that meets no node twice takes the graph apart into regions. -/
theorem regions_of_retread (hwf : g.WellFormed) (hexit : g.NoExit) {met again : List String}
    {walks : List (String × String)} (h : g.retread t met again walks = .ok []) :
    again = [] ∧ ∃ ids, Regions g t walks ids ∧ ids.Nodup ∧ ∀ id ∈ ids, id ∉ met := by
  induction met, again, walks using retread.induct g t with
  | case1 met again =>
    rw [retread] at h
    cases h
    exact ⟨rfl, [], .nil, List.nodup_nil, by simp⟩
  | case2 met again id stop rest hstop ih =>
    rw [retread, if_pos hstop] at h
    obtain ⟨hagain, ids, hregions, hids⟩ := ih h
    exact ⟨hagain, ids, (regions_stop_iff hstop).2 hregions, hids⟩
  | case3 met again id stop rest hstop hmet ih =>
    rw [retread, if_neg hstop, dif_pos hmet] at h
    -- a node that is met again stays in the list
    have hagain := (ih h).1
    split at hagain
    · rename_i hcontains
      rw [hagain] at hcontains
      cases hcontains
    · cases hagain
  | case4 met again id stop rest hstop hmet hkind =>
    -- such a walk fails
    rw [retread_of_kind?_eq_none hstop hmet hkind] at h
    cases h
  | case5 met again id stop rest hstop hmet kind hkind hcondition hjoin =>
    rw [retread_of_join?_eq_none hstop hmet hkind hcondition hjoin] at h
    cases h
  | case6 met again id stop rest hstop hmet kind hkind hcondition join hjoin branches ih =>
    rw [List.cons_append, branches_append] at ih
    rw [retread_branch hstop hmet hkind hcondition hjoin] at h
    obtain ⟨hagain, ids, hregions, hids⟩ := ih h
    exact ⟨hagain, id :: ids,
      (regions_branch_iff hwf hexit hstop hkind hcondition hjoin).2 ⟨ids, rfl, hregions⟩,
      (nodup_cons_and_unmet_iff hmet).2 hids⟩
  | case7 met again id stop rest hstop hmet kind hkind hcondition next ih =>
    replace hcondition := Bool.eq_false_iff.2 hcondition
    rw [retread_step hstop hmet hkind hcondition] at h
    obtain ⟨hagain, ids, hregions, hids⟩ := ih h
    exact ⟨hagain, id :: ids,
      (regions_step_iff hwf hexit hstop hkind hcondition).2 ⟨ids, rfl, hregions⟩,
      (nodup_cons_and_unmet_iff hmet).2 hids⟩

/-! ## The nodes of a region -/

variable {current stop : Option String} {ids : List String}

/-- Paths enter the nodes of a region that a path enters. -/
theorem Region.entered (ht : ∀ row ∈ t, ∀ s ∈ place row.join, g.Entered s)
    (h : Region g t current stop ids) (hcurrent : ∀ s ∈ current, g.Entered s) :
    ∀ id ∈ ids, g.Entered id := by
  -- what is entered is reached, by the edge that enters it
  have hreaches {id : String} (h : g.Entered id) : g.Reaches id := by
    obtain ⟨e, he, hsource, rfl⟩ := h
    exact .edge he hsource
  induction h with
  | ended | stop => simp
  | @step id stop kind ids _ _ _ _ ih =>
    have hid := hcurrent id rfl
    intro x hx
    rcases List.mem_cons.1 hx with rfl | hx
    · exact hid
    · refine ih (fun s hs => ?_) x hx
      obtain ⟨e, he, hsource, htarget⟩ := exists_edge_of_successor? hs
      exact ⟨e, he, hsource ▸ hreaches hid, htarget⟩
  | @branch id join stop kind behind whenTrue whenFalse _ _ _ hjoin _ _ _ ihbehind ihtrue ihfalse =>
    have hid := hcurrent id rfl
    have hbranch (handle : String) : ∀ s ∈ g.branch? id handle, g.Entered s := by
      intro s hs
      obtain ⟨e, he, hsource, htarget, -⟩ := exists_edge_of_branch? hs
      exact ⟨e, he, hsource ▸ hreaches hid, htarget⟩
    obtain ⟨row, hrow, -, rfl⟩ := JoinTable.join?_eq_some hjoin
    intro x hx
    rcases List.mem_cons.1 hx with rfl | hx
    · exact hid
    · rcases List.mem_append.1 hx with hx | hx
      · exact ihbehind (ht row hrow) x hx
      · exact (List.mem_append.1 hx).elim (ihtrue (hbranch _) x) (ihfalse (hbranch _) x)

/-- Every run into a region passes the end, when every run behind it does. -/
theorem Region.passes_none (h : Region g t current stop ids) (hstop : Passes g none stop) :
    Passes g none current := by
  induction h with
  | ended => exact .here
  | stop => exact hstop
  | step _ hkind hcondition _ ih => exact .step hkind hcondition (ih hstop)
  | branch _ hkind hcondition _ _ _ _ ihbehind ihtrue ihfalse =>
    have hjoin := ihbehind hstop
    exact .branch hkind hcondition (ihtrue hjoin) (ihfalse hjoin)

/-- An edge out of a node of a region leads into the region, or to the place where its walk
stops. -/
theorem Region.mem_or_eq_of_edge (hwf : g.WellFormed) {e : Edge} (he : e ∈ g.edges)
    (h : Region g t current stop ids) (hsource : e.source ∈ ids) :
    e.target ∈ ids ∨ stop = some e.target := by
  induction h with
  | ended | stop => cases hsource
  | @step id stop kind ids _ hkind hcondition h ih =>
    rcases List.mem_cons.1 hsource with rfl | hsource
    · have hat : g.isConditionAt e.source = false := by
        rw [isConditionAt, hkind, Option.any_some, hcondition]
      rw [hwf.successor?_of_mem he hat] at h
      exact h.eq_or_mem.symm.imp_left (List.mem_cons_of_mem _)
    · exact (ih hsource).imp_left (List.mem_cons_of_mem _)
  | @branch id join stop kind behind whenTrue whenFalse _ hkind hcondition hjoin hbehind htrue hfalse
      ihbehind ihtrue ihfalse =>
    -- where a branch leads out of its region, the region behind the join begins
    have hbehindJoin (hplace : place join = some e.target) :
        e.target ∈ id :: (behind ++ (whenTrue ++ whenFalse)) ∨ stop = some e.target := by
      rw [hplace] at hbehind
      exact hbehind.eq_or_mem.symm.imp_left fun hmem =>
        List.mem_cons_of_mem _ (List.mem_append_left _ hmem)
    have hinTrue : e.target ∈ whenTrue ∨ place join = some e.target →
        e.target ∈ id :: (behind ++ (whenTrue ++ whenFalse)) ∨ stop = some e.target := fun h =>
      h.elim (fun hmem => .inl (List.mem_cons_of_mem _ (List.mem_append_right _
        (List.mem_append_left _ hmem)))) hbehindJoin
    have hinFalse : e.target ∈ whenFalse ∨ place join = some e.target →
        e.target ∈ id :: (behind ++ (whenTrue ++ whenFalse)) ∨ stop = some e.target := fun h =>
      h.elim (fun hmem => .inl (List.mem_cons_of_mem _ (List.mem_append_right _
        (List.mem_append_right _ hmem)))) hbehindJoin
    rcases List.mem_cons.1 hsource with rfl | hsource
    · have hat : g.isConditionAt e.source = true := by
        rw [isConditionAt, hkind, Option.any_some, hcondition]
      rcases hwf.handle he hat with hhandle | hhandle
      · rw [whenTrue?, hwf.branch?_of_mem he hhandle] at htrue
        exact hinTrue htrue.eq_or_mem.symm
      · rw [whenFalse?, hwf.branch?_of_mem he hhandle] at hfalse
        exact hinFalse hfalse.eq_or_mem.symm
    · rcases List.mem_append.1 hsource with hsource | hsource
      · exact (ihbehind hsource).imp_left fun hmem =>
          List.mem_cons_of_mem _ (List.mem_append_left _ hmem)
      · exact (List.mem_append.1 hsource).elim (fun h => hinTrue (ihtrue h))
          (fun h => hinFalse (ihfalse h))

/-- All triggers lead to the entry of a graph that they agree on. -/
theorem successor?_of_triggersAgree (h : g.triggersAgree = true) {n : Node} (hn : n ∈ g.triggers) :
    g.successor? n.id = (g.firstNodes.head?).join := by
  have hmem : g.successor? n.id ∈ g.firstNodes := List.mem_map_of_mem hn
  unfold triggersAgree at h
  cases hfirst : g.firstNodes with
  | nil =>
    rw [hfirst] at hmem
    cases hmem
  | cons first rest =>
    rw [hfirst] at hmem h
    rw [List.head?_cons, Option.join_some]
    rcases List.mem_cons.1 hmem with heq | hmem
    · exact heq
    · exact beq_iff_eq.1 (List.all_eq_true.1 h _ hmem)

end Graph

end Automation
