import Automation.Proofs.Graph.Structure
import Automation.Proofs.Topology.Joins
import Automation.Topology.Report

/-!
# What every run passes

The join of a node is a place that every run behind the node passes. The table of joins is built
upwards: where it is sound so far, every run behind a node passes what the exits of the node meet at
(`Graph.passesBehind_of_exits?`), since what all runs from a place pass, all runs to that place pass
too (`Graph.Passes.trans`).
-/

namespace Automation

namespace Graph

variable {g : Graph} {goal : Option String}

/-- Every run from a place passes a goal. None is the end of every run. -/
inductive Passes (g : Graph) (goal : Option String) : Option String → Prop
  | here : Passes g goal goal
  | step {id : String} {kind : NodeKind} (hkind : g.kind? id = some kind)
    (hcondition : kind.isCondition = false) (h : Passes g goal (g.successor? id)) :
    Passes g goal (some id)
  | branch {id : String} {kind : NodeKind} (hkind : g.kind? id = some kind)
    (hcondition : kind.isCondition = true) (htrue : Passes g goal (g.whenTrue? id))
    (hfalse : Passes g goal (g.whenFalse? id)) : Passes g goal (some id)

namespace Passes

/-- What every run from a goal passes, every run to the goal passes. -/
theorem trans {further current : Option String} (h : Passes g goal current)
    (hgoal : Passes g further goal) : Passes g further current := by
  induction h with
  | here => exact hgoal
  | step hkind hcondition _ ih => exact .step hkind hcondition ih
  | branch hkind hcondition _ _ htrue hfalse => exact .branch hkind hcondition htrue hfalse

/-- Nothing comes behind the end of a run. -/
theorem eq_none (h : Passes g goal none) : goal = none := by
  cases h
  rfl

/-- A run from a node that is not the goal passes the goal behind the node. -/
theorem of_step {id : String} {kind : NodeKind} (h : Passes g goal (some id)) (hne : goal ≠ some id)
    (hkind : g.kind? id = some kind) (hcondition : kind.isCondition = false) :
    Passes g goal (g.successor? id) := by
  cases h with
  | here => exact absurd rfl hne
  | step _ _ h => exact h
  | branch hkind' hcondition' =>
    rw [hkind] at hkind'
    cases hkind'
    rw [hcondition] at hcondition'
    cases hcondition'

/-- A run from a condition that is not the goal passes the goal on both ways. -/
theorem of_branch {id : String} {kind : NodeKind} (h : Passes g goal (some id))
    (hne : goal ≠ some id) (hkind : g.kind? id = some kind) (hcondition : kind.isCondition = true) :
    Passes g goal (g.whenTrue? id) ∧ Passes g goal (g.whenFalse? id) := by
  cases h with
  | here => exact absurd rfl hne
  | step hkind' hcondition' =>
    rw [hkind] at hkind'
    cases hkind'
    rw [hcondition] at hcondition'
    cases hcondition'
  | branch _ _ htrue hfalse => exact ⟨htrue, hfalse⟩

end Passes

/-! ## Joins -/

/-- The place that a name in a table of joins stands for. -/
def place (name : String) : Option String := if name = exitName then none else some name

theorem place_of_ne {id : String} (h : id ≠ exitName) : place id = some id := if_neg h

/-- A place that is a node has its name. -/
theorem eq_of_mem_place {name s : String} (h : s ∈ place name) : s = name := by
  unfold place at h
  split at h
  · cases h
  · exact (Option.some.inj h).symm

/-- The join in a report is the place that the table names. -/
theorem join?_eq_place {r : TopologyReport} {id join : String} (h : r.joins.join? id = some join) :
    r.join? id = place join := by
  unfold TopologyReport.join?
  rw [h]
  rfl

/-- Every run that goes on behind a node passes a goal. -/
def PassesBehind (g : Graph) (goal : Option String) (id : String) : Prop :=
  ∃ kind, g.kind? id = some kind
    ∧ (kind.isCondition = false → Passes g goal (g.successor? id))
    ∧ (kind.isCondition = true → Passes g goal (g.whenTrue? id) ∧ Passes g goal (g.whenFalse? id))

/-- What every run behind a node passes, every run from it passes. -/
theorem PassesBehind.passes {id : String} (h : PassesBehind g goal id) : Passes g goal (some id) := by
  obtain ⟨kind, hkind, hstep, hbranch⟩ := h
  cases hcondition : kind.isCondition with
  | false => exact .step hkind hcondition (hstep hcondition)
  | true => exact .branch hkind hcondition (hbranch hcondition).1 (hbranch hcondition).2

/-- A graph in which no node has the name of the end of every run. -/
def NoExit (g : Graph) : Prop := ∀ n ∈ g.nodes, n.id ≠ exitName

theorem NoExit.ne_of_kind? (h : g.NoExit) {id : String} {kind : NodeKind}
    (hkind : g.kind? id = some kind) : id ≠ exitName := by
  obtain ⟨n, hn, -⟩ := Option.map_eq_some_iff.1 hkind
  obtain ⟨hmem, rfl⟩ := mem_of_lastNode?_eq_some hn
  exact h n hmem

/-- No edge leads to the name of the end. -/
theorem NoExit.ne_target (h : g.NoExit) (hwf : g.WellFormed) {e : Edge} (he : e ∈ g.edges) :
    e.target ≠ exitName ∧ e.target ≠ "" := by
  obtain ⟨-, -, -, n, hn, -, htarget, -⟩ := hwf.edge he
  rw [htarget]
  exact ⟨h n hn, hwf.ne_empty hn⟩

/-- A branch leads to a node with a name, which is not that of the end. -/
theorem NoExit.ne_of_branch? (h : g.NoExit) (hwf : g.WellFormed) {id handle s : String}
    (hs : g.branch? id handle = some s) : s ≠ exitName ∧ s ≠ "" := by
  obtain ⟨e, he, -, rfl, -⟩ := exists_edge_of_branch? hs
  exact h.ne_target hwf he

/-- A successor has a name, which is not that of the end. -/
theorem NoExit.ne_of_successor? (h : g.NoExit) (hwf : g.WellFormed) {id s : String}
    (hs : g.successor? id = some s) : s ≠ exitName ∧ s ≠ "" := by
  obtain ⟨e, he, -, rfl⟩ := exists_edge_of_successor? hs
  exact h.ne_target hwf he

/-- The names of the exits of a node stand for the places where a run can go on. -/
theorem places_of_exits? (hwf : g.WellFormed) (hexit : g.NoExit) {id first : String}
    {others : List String} (h : g.exits? id = some (first, others)) :
    ∃ kind, g.kind? id = some kind
      ∧ (kind.isCondition = false → place first = g.successor? id ∧ others = [])
      ∧ (kind.isCondition = true → place first = g.whenTrue? id
          ∧ ∃ other, others = [other] ∧ place other = g.whenFalse? id) := by
  obtain ⟨kind, hkind, h⟩ := Option.bind_eq_some_iff.1 h
  -- a target stands for itself, since no edge leads to the end or to the empty name
  have hname {name : String} (target : Option String) (hnone : target = none → name = exitName)
      (hsome : ∀ s, target = some s → s ≠ "" → name = s)
      (htarget : ∀ s ∈ target, s ≠ exitName ∧ s ≠ "") : place name = target := by
    cases target with
    | none => rw [hnone rfl, place, if_pos rfl]
    | some s =>
      obtain ⟨hne, hempty⟩ := htarget s rfl
      rw [hsome s rfl hempty, place_of_ne hne]
  refine ⟨kind, hkind, fun hcondition => ?_, fun hcondition => ?_⟩
  · rw [if_neg (by simp [hcondition])] at h
    obtain ⟨rfl, rfl⟩ := Prod.mk.inj (Option.some.inj h)
    refine ⟨hname (g.successor? id) (fun hs => ?_) (fun s hs hne => ?_)
      (fun s => hexit.ne_of_successor? hwf), rfl⟩
    · simp [hs]
    · simp [hs, hne]
  · rw [if_pos hcondition] at h
    obtain ⟨rfl, rfl⟩ := Prod.mk.inj (Option.some.inj h)
    refine ⟨hname (g.whenTrue? id) (fun hs => ?_) (fun s hs hne => ?_)
        (fun s => hexit.ne_of_branch? hwf), _, rfl,
      hname (g.whenFalse? id) (fun hs => ?_) (fun s hs hne => ?_)
        (fun s => hexit.ne_of_branch? hwf)⟩
    · simp [hs]
    · simp [hs, hne]
    · simp [hs]
    · simp [hs, hne]

section Joins

variable (hwf : g.WellFormed) (hexit : g.NoExit)

/-- A table whose joins are passed. -/
def Sound (g : Graph) (t : JoinTable) : Prop := ∀ row ∈ t, PassesBehind g (place row.join) row.id

variable {t : JoinTable} (ht : Sound g t)

include hexit ht

/-- Every run from a node passes its join, as far as the table is sound. -/
theorem passes_of_join? {id join : String} (h : t.join? id = some join) :
    Passes g (place join) (place id) := by
  obtain ⟨row, hrow, rfl, rfl⟩ := JoinTable.join?_eq_some h
  obtain ⟨kind, hkind, -⟩ := ht row hrow
  rw [place_of_ne (hexit.ne_of_kind? hkind)]
  exact (ht row hrow).passes

/-- Every run passes the places that are climbed to. Induction on the fuel. -/
theorem passes_of_climb? {level fuel : Nat} {id r : String} (h : t.climb? level fuel id = some r) :
    Passes g (place r) (place id) := by
  induction fuel generalizing id with
  | zero => cases h
  | succ fuel ih =>
    rw [JoinTable.climb?] at h
    obtain ⟨depth, -, h⟩ := Option.bind_eq_some_iff.1 h
    split at h
    · obtain ⟨join, hjoin, h⟩ := Option.bind_eq_some_iff.1 h
      exact (passes_of_join? hexit ht hjoin).trans (ih h)
    · cases h
      exact .here

/-- Every run from either of two places passes the place where they meet. -/
theorem passes_of_meet? {fuel : Nat} {a b r : String} (h : t.meet? fuel a b = some r) :
    Passes g (place r) (place a) ∧ Passes g (place r) (place b) := by
  induction fuel generalizing a b with
  | zero => cases h
  | succ fuel ih =>
    rw [JoinTable.meet?] at h
    split at h
    · rename_i heq
      cases h
      exact ⟨.here, heq ▸ .here⟩
    · obtain ⟨_, -, h⟩ := Option.bind_eq_some_iff.1 h
      obtain ⟨a', ha', h⟩ := Option.bind_eq_some_iff.1 h
      obtain ⟨_, -, h⟩ := Option.bind_eq_some_iff.1 h
      obtain ⟨b', hb', h⟩ := Option.bind_eq_some_iff.1 h
      -- each end of the climb is passed from where it starts, and so is the join above it
      have ha := passes_of_climb? hexit ht ha'
      have hb := passes_of_climb? hexit ht hb'
      split at h
      · rename_i heq
        cases h
        exact ⟨ha, heq ▸ hb⟩
      · obtain ⟨joinA, hjoinA, h⟩ := Option.bind_eq_some_iff.1 h
        obtain ⟨joinB, hjoinB, h⟩ := Option.bind_eq_some_iff.1 h
        obtain ⟨hra, hrb⟩ := ih h
        exact ⟨ha.trans ((passes_of_join? hexit ht hjoinA).trans hra),
          hb.trans ((passes_of_join? hexit ht hjoinB).trans hrb)⟩

/-- Every run from one of some places passes the place where all of them meet. -/
theorem passes_of_meetAll? {others : List String} {a r : String}
    (h : t.meetAll? a others = some r) :
    Passes g (place r) (place a) ∧ ∀ b ∈ others, Passes g (place r) (place b) := by
  induction others generalizing a with
  | nil =>
    cases h
    exact ⟨.here, by simp⟩
  | cons b others ih =>
    obtain ⟨m, hm, h⟩ := Option.bind_eq_some_iff.1 h
    obtain ⟨ha, hb⟩ := passes_of_meet? hexit ht hm
    obtain ⟨hr, hothers⟩ := ih h
    refine ⟨ha.trans hr, fun c hc => ?_⟩
    rcases List.mem_cons.1 hc with rfl | hc
    · exact hb.trans hr
    · exact hothers c hc

include hwf

/-- Every run behind a node passes what its exits meet at. -/
theorem passesBehind_of_exits? {id first join : String} {others : List String}
    (hexits : g.exits? id = some (first, others)) (hjoin : t.meetAll? first others = some join) :
    PassesBehind g (place join) id := by
  obtain ⟨hfirst, hothers⟩ := passes_of_meetAll? hexit ht hjoin
  obtain ⟨kind, hkind, hstep, hbranch⟩ := places_of_exits? hwf hexit hexits
  refine ⟨kind, hkind, fun hcondition => ?_, fun hcondition => ?_⟩
  · rw [← (hstep hcondition).1]
    exact hfirst
  · obtain ⟨htrue, other, rfl, hfalse⟩ := hbranch hcondition
    rw [← htrue, ← hfalse]
    exact ⟨hfirst, hothers other (List.mem_singleton.2 rfl)⟩

end Joins

/-- A node that an edge from a path leads to. -/
def Entered (g : Graph) (id : String) : Prop := ∃ e ∈ g.edges, g.Reaches e.source ∧ e.target = id

/-- Joins are the end of the run, or paths enter them. -/
theorem entered_of_joins {t : JoinTable} {ids : List String} (hbody : g.body = .ok ids)
    (h : g.joins ids = .ok t) : ∀ row ∈ t, ∀ s ∈ place row.join, g.Entered s := by
  have hall : ∀ row ∈ t, row.join = exitName ∨ g.Entered row.join := by
    refine joins_induction (P := fun id => id = exitName ∨ g.Entered id)
      (fun id hid first others hexits => ?_) h
    rcases eq_exitName_or_edge_of_exits? hexits first List.mem_cons_self with
      hfirst | ⟨e, he, hsource, htarget⟩
    · exact .inl hfirst
    · have hreaches : g.Reaches id := mem_reachable_iff.1 (mem_reachable_of_mem_body hbody id hid)
      exact .inr ⟨e, he, hsource ▸ hreaches, htarget⟩
  intro row hrow s hs
  rcases hall row hrow with hexit | hentered
  · rw [hexit, place, if_pos rfl] at hs
    cases hs
  · unfold place at hs
    split at hs
    · cases hs
    · exact Option.some.inj hs ▸ hentered

end Graph

end Automation
