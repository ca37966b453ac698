import Automation.Graph.Equivalence
import Automation.Proofs.Graph.Walk

/-!
# Walks depth first

What a walk depth first meets, and in which order. It meets all that waits and all that edges lead
to from there (`Graph.subset_descend`, `Graph.descend_closed`) and nothing else, and each id once.
Ids that no edge leads to are met only as they wait, and so in that order (`Graph.filter_descend`):
the canonical order of a well-formed graph is an order of its nodes
(`WellFormed.perm_canonicalOrder`) that keeps the order of the triggers
(`WellFormed.filter_canonicalOrder`).
-/

namespace Automation

namespace Graph

variable {g : Graph} {seen : List String}

/-! ## Walks from some ids -/

theorem descend_nil (g : Graph) (seen : List String) : g.descend seen [] = seen := by
  rw [descend]

/-- An id that is met for the first time puts what edges lead to from it in front of what waits. -/
theorem descend_of_new {id : String} (h : seen.contains id = false) (waiting : List String) :
    g.descend seen (id :: waiting)
      = g.descend (id :: seen) ((g.outEdges id).map (·.target) ++ waiting) := by
  rw [descend, dif_pos h]

/-- An id that was met is passed over. -/
theorem descend_of_old {id : String} (h : ¬seen.contains id = false) (waiting : List String) :
    g.descend seen (id :: waiting) = g.descend seen waiting := by
  rw [descend, dif_neg h]

/-- What waits behind other ids is looked at when those are done with. -/
theorem descend_append (seen front rest : List String) :
    g.descend seen (front ++ rest) = g.descend (g.descend seen front) rest := by
  induction seen, front using descend.induct g with
  | case1 seen => rw [List.nil_append, descend_nil]
  | case2 seen id waiting hnew ih =>
    rw [List.cons_append, descend_of_new hnew, descend_of_new hnew, ← List.append_assoc]
    exact ih
  | case3 seen id waiting hold ih =>
    rw [List.cons_append, descend_of_old hold, descend_of_old hold]
    exact ih

/-- Nothing that was met or waits is lost. -/
theorem subset_descend (seen waiting : List String) : ∀ id, id ∈ seen ∨ id ∈ waiting →
    id ∈ g.descend seen waiting := by
  -- each step of the walk moves the next id to those met, or drops it as one of them
  induction seen, waiting using descend.induct g with
  | case1 seen =>
    intro id h
    rw [descend_nil]
    exact h.resolve_right List.not_mem_nil
  | case2 seen next waiting hnew ih =>
    intro id h
    rw [descend_of_new hnew]
    refine ih id ?_
    rcases h with h | h
    · exact .inl (List.mem_cons_of_mem _ h)
    · rcases List.mem_cons.1 h with rfl | h
      · exact .inl List.mem_cons_self
      · exact .inr (List.mem_append_right _ h)
  | case3 seen next waiting hold ih =>
    intro id h
    rw [descend_of_old hold]
    refine ih id ?_
    rcases h with h | h
    · exact .inl h
    · rcases List.mem_cons.1 h with rfl | h
      · exact .inl (by simpa using hold)
      · exact .inr h

/-- A walk whose edges lead only to what was met or waits ends with edges that lead only to what was
met. -/
theorem descend_closed (seen waiting : List String)
    (h : ∀ e ∈ g.edges, e.source ∈ seen → e.target ∈ seen ∨ e.target ∈ waiting) :
    ∀ e ∈ g.edges, e.source ∈ g.descend seen waiting → e.target ∈ g.descend seen waiting := by
  induction seen, waiting using descend.induct g with
  | case1 seen => simpa [descend_nil] using h
  | case2 seen next waiting hnew ih =>
    rw [descend_of_new hnew]
    refine ih fun e he hsource => ?_
    -- the edges of the new node lead to what now waits
    rcases List.mem_cons.1 hsource with hnext | hsource
    · exact .inr (List.mem_append_left _ (List.mem_map.2 ⟨e, mem_outEdges.2 ⟨he, hnext⟩, rfl⟩))
    · rcases h e he hsource with hseen | hwaiting
      · exact .inl (List.mem_cons_of_mem _ hseen)
      · rcases List.mem_cons.1 hwaiting with heq | hwaiting
        · exact .inl (heq ▸ List.mem_cons_self)
        · exact .inr (List.mem_append_right _ hwaiting)
  | case3 seen next waiting hold ih =>
    -- a node that was seen is passed over, and nothing is lost with it
    rw [descend_of_old hold]
    refine ih fun e he hsource => ?_
    rcases h e he hsource with hseen | hwaiting
    · exact .inl hseen
    · rcases List.mem_cons.1 hwaiting with heq | hwaiting
      · exact .inl (by simpa [heq] using hold)
      · exact .inr hwaiting

/-- A walk meets only what it has met, what waits, and what edges lead to from there. -/
theorem descend_induction {motive : String → Prop} (seen waiting : List String)
    (hseen : ∀ id ∈ seen, motive id) (hwaiting : ∀ id ∈ waiting, motive id)
    (hedge : ∀ e ∈ g.edges, motive e.source → motive e.target) :
    ∀ id ∈ g.descend seen waiting, motive id := by
  induction seen, waiting using descend.induct g with
  | case1 seen => simpa [descend_nil] using hseen
  | case2 seen next waiting hnew ih =>
    rw [descend_of_new hnew]
    obtain ⟨hnext, hwaiting⟩ := List.forall_mem_cons.1 hwaiting
    refine ih (List.forall_mem_cons.2 ⟨hnext, hseen⟩) (List.forall_mem_append.2 ⟨?_, hwaiting⟩)
    intro id hid
    obtain ⟨e, he, rfl⟩ := List.mem_map.1 hid
    obtain ⟨he, hsource⟩ := mem_outEdges.1 he
    exact hedge e he (hsource ▸ hnext)
  | case3 seen next waiting hold ih =>
    rw [descend_of_old hold]
    exact ih hseen (List.forall_mem_cons.1 hwaiting).2

/-- A walk meets nothing twice. -/
theorem nodup_descend (seen waiting : List String) (h : seen.Nodup) :
    (g.descend seen waiting).Nodup := by
  induction seen, waiting using descend.induct g with
  | case1 seen => rwa [descend_nil]
  | case2 seen next waiting hnew ih =>
    rw [descend_of_new hnew]
    exact ih (List.nodup_cons.2 ⟨by simpa using hnew, h⟩)
  | case3 seen next waiting hold ih =>
    rw [descend_of_old hold]
    exact ih h

/-- Where all that waits was met, nothing is left to do. -/
theorem descend_of_subset {waiting : List String} (h : ∀ id ∈ waiting, id ∈ seen) :
    g.descend seen waiting = seen := by
  induction waiting with
  | nil => exact descend_nil g seen
  | cons id waiting ih =>
    obtain ⟨hid, h⟩ := List.forall_mem_cons.1 h
    rw [descend_of_old (by simpa using hid)]
    exact ih h

/-! ## Ids that no edge leads to -/

section Entrances

variable {p : String → Bool} (hp : ∀ e ∈ g.edges, p e.target = false)

include hp

/-- They are not met on the way. -/
theorem filter_descend_of_subset (seen waiting : List String)
    (h : ∀ id ∈ waiting, p id = true → id ∈ seen) :
    (g.descend seen waiting).filter p = seen.filter p := by
  induction seen, waiting using descend.induct g with
  | case1 seen => rw [descend_nil]
  | case2 seen next waiting hnew ih =>
    obtain ⟨hnext, h⟩ := List.forall_mem_cons.1 h
    have hother : ¬p next = true := fun hpnext => by simp_all
    rw [descend_of_new hnew, ih (List.forall_mem_append.2 ⟨?_, fun id hid hpid =>
      List.mem_cons_of_mem _ (h id hid hpid)⟩), List.filter_cons_of_neg hother]
    intro id hid hpid
    obtain ⟨e, he, rfl⟩ := List.mem_map.1 hid
    rw [hp e (mem_outEdges.1 he).1] at hpid
    cases hpid
  | case3 seen next waiting hold ih =>
    rw [descend_of_old hold]
    exact ih (List.forall_mem_cons.1 h).2

/-- They are met in the order in which they wait. -/
theorem filter_descend {roots : List String} (hroots : ∀ id ∈ roots, p id = true)
    (hnodup : roots.Nodup) (hnew : ∀ id ∈ roots, id ∉ seen) :
    (g.descend seen roots).filter p = roots.reverse ++ seen.filter p := by
  -- what was met grows from id to id
  induction roots generalizing seen with
  | nil => rw [descend_nil, List.reverse_nil, List.nil_append]
  | cons id roots ih =>
    obtain ⟨hid, hroots⟩ := List.forall_mem_cons.1 hroots
    obtain ⟨hfirst, hnew⟩ := List.forall_mem_cons.1 hnew
    obtain ⟨hother, hnodup⟩ := List.nodup_cons.1 hnodup
    -- the walk from the first id is done before the next one is looked at, and meets none of them
    have hmet : (g.descend seen [id]).filter p = id :: seen.filter p := by
      rw [descend_of_new (by simpa using hfirst), List.append_nil,
        filter_descend_of_subset hp, List.filter_cons_of_pos hid]
      intro x hx hpx
      obtain ⟨e, he, rfl⟩ := List.mem_map.1 hx
      rw [hp e (mem_outEdges.1 he).1] at hpx
      cases hpx
    rw [← List.singleton_append, descend_append, ih hroots hnodup fun x hx hmem => ?_, hmet]
    · simp
    · have : x ∈ id :: seen.filter p := by
        rw [← hmet]
        exact List.mem_filter.2 ⟨hmem, hroots x hx⟩
      rcases List.mem_cons.1 this with rfl | hseen
      · exact hother hx
      · exact hnew x hx (List.mem_filter.1 hseen).1

end Entrances

/-! ## The canonical order -/

/-- The walk from the triggers, and then from every node. -/
theorem canonicalOrder_eq (g : Graph) : g.canonicalOrder
    = (g.descend (g.descend [] (g.triggers.map (·.id))) (g.nodes.map (·.id))).reverse := by
  rw [canonicalOrder, depthFirst, descend_append]

theorem nodup_canonicalOrder (g : Graph) : g.canonicalOrder.Nodup :=
  List.nodup_reverse.2 (nodup_descend _ _ List.nodup_nil)

/-- The walk from the triggers meets all that they lead to. -/
theorem mem_descend_of_reaches {id : String} (h : g.Reaches id) :
    id ∈ g.descend [] (g.triggers.map (·.id)) := by
  induction h with
  | trigger mem => exact subset_descend _ _ _ (.inr (List.mem_map_of_mem mem))
  | edge mem _ ih => exact descend_closed _ _ (by simp) _ mem ih

/-- Where triggers lead to every node, the walk from them is all. -/
theorem canonicalOrder_eq_of_reaches (h : ∀ n ∈ g.nodes, g.Reaches n.id) :
    g.canonicalOrder = (g.descend [] (g.triggers.map (·.id))).reverse := by
  rw [canonicalOrder_eq, descend_of_subset fun id hid => ?_]
  obtain ⟨n, hn, rfl⟩ := List.mem_map.1 hid
  exact mem_descend_of_reaches (h n hn)

theorem triggers_subset {id : String} (h : id ∈ g.triggers.map (·.id)) : id ∈ g.nodes.map (·.id) :=
  (List.filter_sublist.map _).subset h

/-- The canonical order is an order of the nodes. -/
theorem WellFormed.perm_canonicalOrder (hwf : g.WellFormed) :
    g.canonicalOrder.Perm (g.nodes.map (·.id)) := by
  refine (List.perm_ext_iff_of_nodup (nodup_canonicalOrder g) hwf.nodup).2 fun id => ?_
  rw [canonicalOrder, depthFirst, List.mem_reverse]
  constructor
  · refine descend_induction [] _ nofun (List.forall_mem_append.2
      ⟨fun _ => triggers_subset, fun _ hid => hid⟩) (fun e he _ => ?_) id
    obtain ⟨-, -, -, n, hn, -, htarget, -⟩ := hwf.edge he
    rw [htarget]
    exact List.mem_map_of_mem hn
  · exact fun hid => subset_descend _ _ id (.inr (List.mem_append_right _ hid))

/-- Whether the node with an id is a trigger. -/
def isTriggerAt (g : Graph) (id : String) : Bool := (g.kind? id).any (·.isTrigger)

/-- The triggers keep their order. -/
theorem WellFormed.filter_canonicalOrder (hwf : g.WellFormed) :
    g.canonicalOrder.filter g.isTriggerAt = g.triggers.map (·.id) := by
  have hp : ∀ e ∈ g.edges, g.isTriggerAt e.target = false := by
    intro e he
    obtain ⟨-, -, -, n, hn, -, htarget, htrigger⟩ := hwf.edge he
    rw [isTriggerAt, htarget, hwf.kind?_of_mem hn, Option.any_some, htrigger]
  rw [canonicalOrder_eq, List.filter_reverse, filter_descend_of_subset hp,
    filter_descend hp, List.filter_nil, List.append_nil, List.reverse_reverse]
  · intro id hid
    obtain ⟨n, hn, rfl⟩ := List.mem_map.1 hid
    obtain ⟨hmem, htrigger⟩ := List.mem_filter.1 hn
    rw [isTriggerAt, hwf.kind?_of_mem hmem, Option.any_some, htrigger]
  · exact (List.filter_sublist.map _).nodup hwf.nodup
  · exact fun _ _ => List.not_mem_nil
  · intro id hid htrigger
    obtain ⟨n, hn, rfl⟩ := List.mem_map.1 hid
    rw [isTriggerAt, hwf.kind?_of_mem hn, Option.any_some] at htrigger
    exact subset_descend _ _ _ (.inr (List.mem_map_of_mem (List.mem_filter.2 ⟨hn, htrigger⟩)))

end Graph

end Automation
