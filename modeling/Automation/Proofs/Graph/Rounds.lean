import Automation.Proofs.Graph.Walk
import Automation.Proofs.Topology.Acyclic

/-!
# The loop of the breadth-first walk

The walk from the triggers is a loop over a queue of ids. A pass may make the queue longer, and an
id may wait in it many times before it is met, so the length of the queue says nothing about the end
of the loop. What falls in every pass is the work that is left (`Round.Pass.work_lt`): the ids that
wait, and the edges out of ids that were not met. So no run of the loop goes on for ever, and it is
done after as many passes as there are triggers and edges, having met exactly the ids that a path of
edges leads to from a trigger (`Graph.reachable_of_passes`).

Nothing is asked of the graph: ids may repeat, and edges may lead nowhere.
-/

namespace Automation

namespace Graph

/-- What the loop has met, the latest first, and what waits in its queue. -/
structure Round where
  met : List String
  waiting : List String

variable {g : Graph}

namespace Round

/-- One pass of the loop. The first id that waits is met, and what edges lead to from there waits
behind the others, but for what was met. An id that was met is passed over. -/
inductive Pass (g : Graph) : Round → Round → Prop
  | meet {met waiting : List String} {id : String} (hnew : id ∉ met) :
    Pass g ⟨met, id :: waiting⟩ ⟨id :: met,
      waiting ++ ((g.outEdges id).map (·.target)).filter fun t => !(id :: met).contains t⟩
  | skip {met waiting : List String} {id : String} (hold : id ∈ met) :
    Pass g ⟨met, id :: waiting⟩ ⟨met, waiting⟩

/-- A number of passes, one after the other. -/
inductive Passes (g : Graph) : Nat → Round → Round → Prop
  | done (r : Round) : Passes g 0 r r
  | next {n : Nat} {r r' last : Round} (first : Pass g r r') (rest : Passes g n r' last) :
    Passes g (n + 1) r last

/-- The work that is left: the ids that wait, and the edges out of ids that were not met. -/
def work (g : Graph) (r : Round) : Nat := g.unspent r.met + r.waiting.length

variable {r r' s : Round}

/-- Each pass leaves less work: an id that is met uses up the edges that are queued for it. -/
theorem Pass.work_lt (h : Pass g r r') : r'.work g < r.work g := by
  cases h with
  | @meet met waiting id hnew =>
    have hspent := g.unspent_cons (show met.contains id = false by simpa using hnew)
    have hqueued := List.length_filter_le (fun t => !(id :: met).contains t)
      ((g.outEdges id).map (·.target))
    rw [List.length_map] at hqueued
    simp only [work, List.length_append, List.length_cons]
    omega
  | skip hold => simp [work]

/-- There is one way to go on. -/
theorem Pass.unique (h : Pass g r r') (h' : Pass g r s) : r' = s := by
  cases h with
  | meet hnew =>
    cases h' with
    | meet => rfl
    | skip hold => exact absurd hold hnew
  | skip hold =>
    cases h' with
    | meet hnew => exact absurd hold hnew
    | skip => rfl

/-- The loop goes on as long as something waits. -/
theorem exists_pass_iff (r : Round) : (∃ r', Pass g r r') ↔ r.waiting ≠ [] := by
  obtain ⟨met, waiting⟩ := r
  constructor
  · rintro ⟨r', hpass⟩
    cases hpass <;> exact List.cons_ne_nil _ _
  · intro hwaiting
    cases waiting with
    | nil => exact absurd rfl hwaiting
    | cons id waiting =>
      by_cases hmet : id ∈ met
      · exact ⟨_, .skip hmet⟩
      · exact ⟨_, .meet hmet⟩

/-- The loop ends with what the walk meets, after no more passes than there was work. -/
theorem exists_passes (met waiting : List String) :
    ∃ n ≤ work g ⟨met, waiting⟩, Passes g n ⟨met, waiting⟩ ⟨g.reach met waiting, []⟩ := by
  -- on the walk, each step of which is one pass
  induction met, waiting using reach.induct g with
  | case1 met =>
    rw [reach]
    exact ⟨0, Nat.zero_le _, .done _⟩
  | case2 met id waiting hnew ih =>
    have hpass : Pass g ⟨met, id :: waiting⟩ _ := .meet (by simpa using hnew)
    obtain ⟨n, hn, hpasses⟩ := ih
    rw [reach, dif_pos hnew]
    exact ⟨n + 1, Nat.lt_of_le_of_lt hn hpass.work_lt, .next hpass hpasses⟩
  | case3 met id waiting hold ih =>
    have hpass : Pass g ⟨met, id :: waiting⟩ ⟨met, waiting⟩ := .skip (by simpa using hold)
    obtain ⟨n, hn, hpasses⟩ := ih
    rw [reach, dif_neg hold]
    exact ⟨n + 1, Nat.lt_of_le_of_lt hn hpass.work_lt, .next hpass hpasses⟩

end Round

/-- What a trigger leads to is at the end of a path of edges from it. -/
theorem reaches_iff_exists_path {id : String} :
    g.Reaches id ↔ ∃ t ∈ g.triggers, Relation.ReflTransGen g.Leads t.id id := by
  constructor
  · intro h
    induction h with
    | @trigger t ht => exact ⟨t, ht, .refl⟩
    | @edge e he _ ih =>
      obtain ⟨t, ht, hpath⟩ := ih
      exact ⟨t, ht, hpath.tail ⟨e, he, rfl, rfl⟩⟩
  · rintro ⟨t, ht, hpath⟩
    induction hpath with
    | refl => exact .trigger ht
    | tail _ hleads ih =>
      obtain ⟨e, he, rfl, rfl⟩ := hleads
      exact .edge he ih

/-- The loop cannot go on for ever from anywhere, and stops exactly when nothing waits. From the
triggers it is done after at most one pass for each trigger and each edge, and what it has met then
is each id once that a path of edges leads to from a trigger, the triggers among them. -/
theorem reachable_of_passes (g : Graph) :
    (WellFounded fun r r' => Round.Pass g r' r)
      ∧ (∀ r, (∃ r', Round.Pass g r r') ↔ r.waiting ≠ [])
      ∧ (∀ r r' s, Round.Pass g r r' → Round.Pass g r s → r' = s)
      ∧ (∃ n ≤ g.triggers.length + g.edges.length,
          Round.Passes g n ⟨[], g.triggers.map (·.id)⟩ ⟨g.reachable.reverse, []⟩)
      ∧ (∀ id, id ∈ g.reachable
          ↔ ∃ t ∈ g.triggers, Relation.ReflTransGen g.Leads t.id id)
      ∧ g.reachable.Nodup := by
  refine ⟨?ends, Round.exists_pass_iff, fun _ _ _ => Round.Pass.unique, ?passes,
    fun id => mem_reachable_iff.trans reaches_iff_exists_path, nodup_reachable g⟩
  case ends =>
    exact Subrelation.wf (fun hpass => hpass.work_lt) (measure (Round.work g)).wf
  case passes =>
    obtain ⟨n, hn, hpasses⟩ := Round.exists_passes (g := g) [] (g.triggers.map (·.id))
    -- nothing was met at the start, so the edges of the whole graph are left
    have hwork : Round.work g ⟨[], g.triggers.map (·.id)⟩ = g.triggers.length + g.edges.length := by
      simp [Round.work, unspent, Nat.add_comm]
    refine ⟨n, hwork ▸ hn, ?_⟩
    rwa [reachable, List.reverse_reverse]

/-- An id waits once for each edge that leads to it and is met once, also when it is no node and
when the way goes round. -/
example : reachable { nodes := [{ id := "t1", kind := .trigger }], edges := [.between "t1" "a1",
    .between "t1" "a1" (some handleFalse), .between "a1" "t1"] } = ["t1", "a1"] := by
  decide +kernel

end Graph

end Automation
