import Automation.Proofs.Topology.Nearest
import Automation.Proofs.Topology.Regions

/-!
# Walks that meet no node twice

The walk that writes a graph with branching blocks never fails on a graph whose joins are known
(`Graph.exists_retread`). When the graph falls apart into regions that share no node, it meets no
node twice (`Graph.retread_of_regions`).
-/

namespace Automation

namespace Graph

variable {g : Graph} {t : JoinTable}

/-- A region is taken apart into the regions of the walks that start at its nodes. -/
theorem Region.exists_at {current stop : Option String} {ids : List String}
    (h : Region g t current stop ids) (hnodup : ids.Nodup) {id : String} (hid : id ∈ ids) :
    ∃ stop' ids', Region g t (some id) stop' ids' ∧ stop' ≠ some id ∧ ids'.Nodup := by
  induction h with
  | ended | stop => cases hid
  | step hstop hkind hcondition h ih =>
    rcases List.mem_cons.1 hid with rfl | hmem
    · exact ⟨_, _, .step hstop hkind hcondition h, hstop, hnodup⟩
    · exact ih (List.nodup_cons.1 hnodup).2 hmem
  | branch hstop hkind hcondition hjoin hbehind htrue hfalse ihBehind ihTrue ihFalse =>
    rcases List.mem_cons.1 hid with rfl | hmem
    · exact ⟨_, _, .branch hstop hkind hcondition hjoin hbehind htrue hfalse, hstop, hnodup⟩
    · obtain ⟨hnodupBehind, hbranches, -⟩ := List.nodup_append'.1 (List.nodup_cons.1 hnodup).2
      obtain ⟨hnodupTrue, hnodupFalse, -⟩ := List.nodup_append'.1 hbranches
      rcases List.mem_append.1 hmem with hmem | hmem
      · exact ihBehind hnodupBehind hmem
      · exact (List.mem_append.1 hmem).elim (ihTrue hnodupTrue) (ihFalse hnodupFalse)

/-- A walk over regions that share no node meets no node twice. -/
theorem retread_of_regions (hwf : g.WellFormed) (hexit : g.NoExit) {met again : List String}
    {walks : List (String × String)} {ids : List String} (h : Regions g t walks ids)
    (hnodup : ids.Nodup) (hunmet : ∀ id ∈ ids, id ∉ met) :
    g.retread t met again walks = .ok again := by
  induction met, again, walks using retread.induct g t generalizing ids with
  | case1 met again => rw [retread]
  | case2 met again id stop rest hstop ih =>
    rw [retread, if_pos hstop]
    exact ih ((regions_stop_iff hstop).1 h) hnodup hunmet
  | case3 met again id stop rest hstop hmet ih =>
    -- the region of the walk holds the node that it enters
    exact absurd (List.contains_iff_mem.1 hmet) (hunmet id (h.enter hstop).1)
  | case4 met again id stop rest hstop hmet hkind =>
    -- a walk that enters no node has no region
    obtain ⟨-, kind, hkind', -⟩ := h.enter hstop
    cases hkind.symm.trans hkind'
  | case5 met again id stop rest hstop hmet kind hkind hcondition hjoin =>
    obtain ⟨-, kind', hkind', hjoins⟩ := h.enter hstop
    cases hkind.symm.trans hkind'
    obtain ⟨join, hjoin'⟩ := hjoins hcondition
    cases hjoin.symm.trans hjoin'
  | case6 met again id stop rest hstop hmet kind hkind hcondition join hjoin branches =>
    rename_i ih
    rw [List.cons_append, branches_append] at ih
    rw [retread_branch hstop hmet hkind hcondition hjoin]
    obtain ⟨others, rfl, hothers⟩ := (regions_branch_iff hwf hexit hstop hkind hcondition hjoin).1 h
    obtain ⟨hnodup, hunmet⟩ := (nodup_cons_and_unmet_iff hmet).1 ⟨hnodup, hunmet⟩
    exact ih hothers hnodup hunmet
  | case7 met again id stop rest hstop hmet kind hkind hcondition next =>
    rename_i ih
    replace hcondition := Bool.eq_false_iff.2 hcondition
    rw [retread_step hstop hmet hkind hcondition]
    obtain ⟨others, rfl, hothers⟩ := (regions_step_iff hwf hexit hstop hkind hcondition).1 h
    obtain ⟨hnodup, hunmet⟩ := (nodup_cons_and_unmet_iff hmet).1 ⟨hnodup, hunmet⟩
    exact ih hothers hnodup hunmet

/-- The walk over a graph never fails where every node has a kind and a join, and where edges and
joins do not lead to other nodes. -/
theorem exists_retread {known : List String}
    (hkinds : ∀ id ∈ known, ∃ kind, g.kind? id = some kind)
    (hclosed : ∀ e ∈ g.edges, e.source ∈ known → e.target ∈ known)
    (hjoins : ∀ id ∈ known, ∃ join, t.join? id = some join ∧ ∀ s ∈ place join, s ∈ known)
    {met again : List String} {walks : List (String × String)}
    (hwalks : ∀ walk ∈ walks, ∀ s ∈ place walk.1, s ∈ known) :
    ∃ again', g.retread t met again walks = .ok again' := by
  have hbranch (id : String) (hid : id ∈ known) (handle join : String) :
      ∀ walk ∈ ((g.branch? id handle).map fun target => (target, join)).toList,
        ∀ s ∈ place walk.1, s ∈ known := by
    intro walk hwalk s hs
    obtain ⟨target, htarget, rfl⟩ := Option.map_eq_some_iff.1 (Option.mem_toList.1 hwalk)
    obtain ⟨e, he, hsource, rfl, -⟩ := exists_edge_of_branch? htarget
    exact eq_of_mem_place hs ▸ hclosed e he (hsource ▸ hid)
  -- the walks still to be made start at known nodes, and each step puts in only such walks
  revert hwalks
  induction met, again, walks using retread.induct g t with
  | case1 met again => exact fun _ => ⟨again, by rw [retread]⟩
  | case2 met again id stop rest hstop =>
    rename_i ih
    intro hwalks
    rw [retread, if_pos hstop]
    exact ih fun walk hwalk => hwalks walk (List.mem_cons_of_mem _ hwalk)
  | case3 met again id stop rest hstop hcontains =>
    rename_i ih
    intro hwalks
    rw [retread, if_neg hstop, dif_pos hcontains]
    exact ih fun walk hwalk => hwalks walk (List.mem_cons_of_mem _ hwalk)
  | case4 met again id stop rest hstop hcontains hkind =>
    intro hwalks
    obtain ⟨kind, hkind'⟩ := hkinds id (hwalks _ List.mem_cons_self id (of_not_stop hstop).1)
    rw [hkind] at hkind'
    cases hkind'
  | case5 met again id stop rest hstop hcontains kind hkind hcondition hjoin =>
    intro hwalks
    obtain ⟨join, hjoin', -⟩ := hjoins id (hwalks _ List.mem_cons_self id (of_not_stop hstop).1)
    rw [hjoin] at hjoin'
    cases hjoin'
  | case6 met again id stop rest hstop hcontains kind hkind hcondition join hjoin branches =>
    rename_i ih
    intro hwalks
    have hid := hwalks _ List.mem_cons_self id (of_not_stop hstop).1
    rw [retread_branch hstop hcontains hkind hcondition hjoin]
    rw [List.cons_append, branches_append] at ih
    refine ih (List.forall_mem_cons.2 ⟨?_, List.forall_mem_append.2 ⟨?_,
      List.forall_mem_append.2 ⟨?_, fun walk hwalk => hwalks walk (List.mem_cons_of_mem _ hwalk)⟩⟩⟩)
    · obtain ⟨join', hjoin', hknown⟩ := hjoins id hid
      rw [hjoin] at hjoin'
      cases hjoin'
      exact hknown
    · exact hbranch id hid handleTrue join
    · exact hbranch id hid handleFalse join
  | case7 met again id stop rest hstop hcontains kind hkind hcondition next =>
    rename_i ih
    intro hwalks
    have hid := hwalks _ List.mem_cons_self id (of_not_stop hstop).1
    rw [retread_step hstop hcontains hkind (by simpa using hcondition)]
    refine ih (List.forall_mem_append.2 ⟨fun walk hwalk s hs => ?_,
      fun walk hwalk => hwalks walk (List.mem_cons_of_mem _ hwalk)⟩)
    obtain ⟨target, htarget, rfl⟩ := Option.map_eq_some_iff.1 (Option.mem_toList.1 hwalk)
    obtain ⟨e, he, hsource, rfl⟩ := exists_edge_of_successor? htarget
    exact eq_of_mem_place hs ▸ hclosed e he (hsource ▸ hid)

end Graph

end Automation
