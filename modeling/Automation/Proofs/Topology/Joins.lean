import Automation.Proofs.Graph.Walk
import Automation.Proofs.Outcome
import Automation.Topology.Join

/-!
# What joins lead to

The join of a node is the end of the run or a node that edges lead to (`joins_induction`): the table
is built from rows of earlier nodes only, and a row takes its join from those rows. So the place
where a run goes on behind a skipped block is the end, or an edge leads there from a node that is
reachable (`Graph.exists_edge_of_mem_blockJoins`).
-/

namespace Automation

/-! ## The order of release -/

namespace Waiting

/-- The nodes that are counted. -/
abbrev keys (w : Waiting) : List String := w.map (·.1)

theorem keys_release (id : String) (w : Waiting) : (w.release id).1.keys = w.keys := by
  induction w with
  | nil => rfl
  | cons e rest ih =>
    obtain ⟨key, count⟩ := e
    by_cases h : key = id
    · cases count <;> simp [release, h]
    · simpa [release, h] using ih

/-- Only a node that is counted becomes free. -/
theorem mem_keys_of_release {id : String} {w : Waiting} (h : (w.release id).2 = true) :
    id ∈ w.keys := by
  induction w with
  | nil => cases h
  | cons e rest ih =>
    obtain ⟨key, count⟩ := e
    by_cases hkey : key = id
    · simp [hkey]
    · have hrest : (release id rest).2 = true := by simpa [release, hkey] using h
      exact List.mem_cons_of_mem _ (ih hrest)

theorem keys_releaseAll (w : Waiting) (ids : List String) : (w.releaseAll ids).1.keys = w.keys := by
  induction ids generalizing w with
  | nil => rfl
  | cons id ids ih =>
    show ((w.release id).1.releaseAll ids).1.keys = w.keys
    rw [ih, keys_release]

theorem mem_keys_of_releaseAll {w : Waiting} {ids : List String} :
    ∀ id ∈ (w.releaseAll ids).2, id ∈ w.keys := by
  induction ids generalizing w with
  | nil => simp [releaseAll]
  | cons next ids ih =>
    have hrest : ∀ id ∈ ((w.release next).1.releaseAll ids).2, id ∈ w.keys := fun id hid => by
      rw [← keys_release next w]
      exact ih id hid
    intro id hid
    by_cases hlast : (w.release next).2 = true
    · simp only [releaseAll, hlast, if_true] at hid
      rcases List.mem_cons.1 hid with rfl | hid
      · exact mem_keys_of_release hlast
      · exact hrest id hid
    · simp only [releaseAll, hlast] at hid
      exact hrest id hid

end Waiting

namespace Graph

variable {g : Graph}

theorem mem_of_mem_releaseFrom (w : Waiting) (queue : List String) :
    ∀ id ∈ g.releaseFrom w queue, id ∈ queue ∨ id ∈ w.keys := by
  induction w, queue using releaseFrom.induct g with
  | case1 w => simp [releaseFrom]
  | case2 w next queue after ih =>
    intro id hid
    rw [releaseFrom] at hid
    rcases List.mem_cons.1 hid with rfl | hid
    · exact .inl List.mem_cons_self
    · rcases ih id hid with hid | hid
      · rcases List.mem_append.1 hid with hid | hid
        · exact .inl (List.mem_cons_of_mem _ hid)
        · exact .inr (Waiting.mem_keys_of_releaseAll id hid)
      · exact .inr (Waiting.keys_releaseAll .. ▸ hid)

/-- The order of release holds only the given nodes. -/
theorem mem_of_mem_releaseOrder {ids : List String} : ∀ id ∈ g.releaseOrder ids, id ∈ ids := by
  intro id hid
  unfold releaseOrder at hid
  rcases mem_of_mem_releaseFrom _ _ id hid with hid | hid
  · rw [List.mem_mergeSort] at hid
    obtain ⟨e, he, rfl⟩ := List.mem_map.1 hid
    obtain ⟨key, hkey, rfl⟩ := List.mem_map.1 (List.mem_filter.1 he).1
    exact hkey
  · simpa [Waiting.keys] using hid

end Graph

/-! ## Paths upwards -/

namespace JoinTable

variable {t : JoinTable} {P : String → Prop}

/-- The join of a node stands in a row. -/
theorem join?_eq_some {id join : String} (h : t.join? id = some join) :
    ∃ row ∈ t, row.id = id ∧ row.join = join := by
  obtain ⟨row, hrow, rfl⟩ := Option.map_eq_some_iff.1 h
  exact ⟨row, List.mem_of_find?_eq_some hrow, by simpa using List.find?_some hrow, rfl⟩

/-- What holds of all joins and of a node holds of every node upwards. -/
theorem climb?_induction (ht : ∀ row ∈ t, P row.join) {level fuel : Nat} {id r : String}
    (hid : P id) (h : t.climb? level fuel id = some r) : P r := by
  induction fuel generalizing id with
  | zero => cases h
  | succ fuel ih =>
    rw [climb?] at h
    obtain ⟨depth, -, h⟩ := Option.bind_eq_some_iff.1 h
    split at h
    · obtain ⟨join, hjoin, h⟩ := Option.bind_eq_some_iff.1 h
      obtain ⟨row, hrow, -, rfl⟩ := join?_eq_some hjoin
      exact ih (ht row hrow) h
    · exact Option.some.inj h ▸ hid

theorem meet?_induction (ht : ∀ row ∈ t, P row.join) {fuel : Nat} {a b r : String} (ha : P a)
    (h : t.meet? fuel a b = some r) : P r := by
  induction fuel generalizing a b with
  | zero => cases h
  | succ fuel ih =>
    rw [meet?] at h
    split at h
    · exact Option.some.inj h ▸ ha
    · obtain ⟨_, -, h⟩ := Option.bind_eq_some_iff.1 h
      obtain ⟨a', ha', h⟩ := Option.bind_eq_some_iff.1 h
      obtain ⟨_, -, h⟩ := Option.bind_eq_some_iff.1 h
      obtain ⟨b', -, h⟩ := Option.bind_eq_some_iff.1 h
      split at h
      · exact Option.some.inj h ▸ climb?_induction ht ha ha'
      · obtain ⟨join, hjoin, h⟩ := Option.bind_eq_some_iff.1 h
        obtain ⟨_, -, h⟩ := Option.bind_eq_some_iff.1 h
        obtain ⟨row, hrow, -, rfl⟩ := join?_eq_some hjoin
        exact ih (ht row hrow) h

theorem meetAll?_induction (ht : ∀ row ∈ t, P row.join) {others : List String} {a r : String}
    (ha : P a) (h : t.meetAll? a others = some r) : P r := by
  induction others generalizing a with
  | nil => exact Option.some.inj h ▸ ha
  | cons b others ih =>
    obtain ⟨m, hm, h⟩ := Option.bind_eq_some_iff.1 h
    exact ih (meet?_induction ht ha hm) h

end JoinTable

/-! ## Joins -/

namespace Graph

variable {g : Graph}

/-- The table for the nodes in an order: what holds of every row when the rows before it are all
that the row is made from. -/
theorem foldlM_addJoin?_induction {P : String → Prop} {order : List String} {t t' : JoinTable}
    (hexit : ∀ id ∈ order, ∀ first others, g.exits? id = some (first, others) → P first)
    (ht : ∀ row ∈ t, P row.join) (h : order.foldlM g.addJoin? t = some t') :
    ∀ row ∈ t', P row.join := by
  induction order generalizing t with
  | nil => exact Option.some.inj h ▸ ht
  | cons id order ih =>
    rw [List.foldlM_cons] at h
    obtain ⟨t₁, ht₁, h⟩ := Option.bind_eq_some_iff.1 h
    refine ih (fun x hx => hexit x (List.mem_cons_of_mem _ hx)) ?_ h
    obtain ⟨⟨first, others⟩, hexits, ht₁⟩ := Option.bind_eq_some_iff.1 ht₁
    obtain ⟨join, hjoin, ht₁⟩ := Option.bind_eq_some_iff.1 ht₁
    obtain ⟨depth, -, ht₁⟩ := Option.bind_eq_some_iff.1 ht₁
    cases Option.some.inj ht₁
    intro row hrow
    rcases List.mem_cons.1 hrow with rfl | hrow
    · exact JoinTable.meetAll?_induction ht (hexit id List.mem_cons_self _ _ hexits) hjoin
    · exact ht row hrow

/-- What holds of every place that a run goes on at from some nodes holds of their joins. -/
theorem joins_induction {P : String → Prop} {ids : List String} {t : JoinTable}
    (hexit : ∀ id ∈ ids, ∀ first others, g.exits? id = some (first, others) → P first)
    (h : g.joins ids = .ok t) : ∀ row ∈ t, P row.join := by
  unfold joins Outcome.orFault at h
  split at h
  · rename_i t' ht
    cases h
    refine foldlM_addJoin?_induction (fun id hid => ?_) (by simp) ht
    exact hexit id (mem_of_mem_releaseOrder id (List.mem_reverse.1 hid))
  · cases h

/-- Each place that a run goes on at is the end, or an edge leads there. -/
theorem eq_exitName_or_edge_of_exits? {id first : String} {others : List String}
    (h : g.exits? id = some (first, others)) :
    ∀ name ∈ first :: others, name = exitName ∨ ∃ e ∈ g.edges, e.source = id ∧ e.target = name := by
  -- an exit without an edge, or with an edge to the empty name, stands for the end
  have hname {o : Option String} (ho : ∀ target ∈ o, ∃ e ∈ g.edges, e.source = id
      ∧ e.target = target) {name : String}
      (heq : name = o.elim exitName fun target => if target = "" then exitName else target) :
      name = exitName ∨ ∃ e ∈ g.edges, e.source = id ∧ e.target = name := by
    cases o with
    | none => exact .inl heq
    | some target =>
      by_cases hempty : target = ""
      · exact .inl (heq.trans (if_pos hempty))
      · exact .inr (heq.trans (if_neg hempty) ▸ ho target rfl)
  obtain ⟨kind, -, h⟩ := Option.bind_eq_some_iff.1 h
  split at h
  · obtain ⟨rfl, rfl⟩ := Prod.mk.inj (Option.some.inj h)
    refine List.forall_mem_cons.2 ⟨hname (o := g.whenTrue? id) (fun _ => exists_target_of_branch?) ?_,
      List.forall_mem_singleton.2
        (hname (o := g.whenFalse? id) (fun _ => exists_target_of_branch?) ?_)⟩
    · cases g.whenTrue? id <;> rfl
    · cases g.whenFalse? id <;> rfl
  · obtain ⟨rfl, rfl⟩ := Prod.mk.inj (Option.some.inj h)
    refine List.forall_mem_singleton.2 (hname (fun _ => exists_edge_of_successor?) ?_)
    cases g.successor? id <;> rfl

/-- A run can go on from every node, if only to its end. -/
theorem exists_exits? {id : String} {kind : NodeKind} (hkind : g.kind? id = some kind) :
    ∃ x, g.exits? id = some x := by
  unfold exits?
  dsimp only
  rw [hkind, Option.bind_eq_bind, Option.bind_some]
  split
  · exact ⟨_, rfl⟩
  · exact ⟨_, rfl⟩

/-- The nodes of the body are reachable. -/
theorem mem_reachable_of_mem_body {ids : List String} (h : g.body = .ok ids) :
    ∀ id ∈ ids, id ∈ g.reachable :=
  Outcome.mem_of_filterM_eq_ok h

/-- Where a run goes on behind a skipped block, an edge leads from a reachable node. -/
theorem exists_edge_of_mem_blockJoins {joins : List (String × Option String)}
    (h : g.blockJoins = .ok joins) {id target : String} (hmem : (id, some target) ∈ joins) :
    ∃ e ∈ g.edges, g.Reaches e.source ∧ e.target = target := by
  unfold blockJoins at h
  obtain ⟨ids, hbody, h⟩ := Outcome.bind_eq_ok.1 h
  obtain ⟨table, htable, h⟩ := Outcome.bind_eq_ok.1 h
  cases h
  -- joins are found among the exits of the nodes of the body
  have hrows : ∀ row ∈ table, row.join = exitName
      ∨ ∃ e ∈ g.edges, g.Reaches e.source ∧ e.target = row.join := by
    refine joins_induction (P := fun id => id = exitName
      ∨ ∃ e ∈ g.edges, g.Reaches e.source ∧ e.target = id)
      (fun id hid first others hexits => ?_) htable
    rcases eq_exitName_or_edge_of_exits? hexits first List.mem_cons_self with
      hfirst | ⟨e, he, hsource, htarget⟩
    · exact .inl hfirst
    · refine .inr ⟨e, (List.mem_filter.1 he).1, ?_, htarget⟩
      rw [hsource]
      exact mem_reachable_iff.1 (mem_reachable_of_mem_body hbody id hid)
  obtain ⟨row, hrow, heq⟩ := List.mem_map.1 hmem
  obtain ⟨-, hjoin⟩ := Prod.mk.inj heq
  rcases hrows row (List.mem_reverse.1 (List.mem_filter.1 hrow).1) with hexit | hedge
  · rw [if_pos hexit] at hjoin
    cases hjoin
  · by_cases hexit : row.join = exitName
    · rw [if_pos hexit] at hjoin
      cases hjoin
    · rw [if_neg hexit] at hjoin
      cases hjoin
      exact hedge

end Graph

end Automation
