import Automation.Document.Writing
import Automation.Proofs.Graph.Walk
import Automation.Proofs.Outcome
import Automation.Proofs.Value.Entries

/-!
# The sections of a written document

What stands in the document of a graph: `Document.assemble` writes each section under a name of its
own, so each is read back by its name. A dispatch document that was written is the assembly of the
loop over the nodes that paths lead to (`Document.of_dispatch_eq_ok`).
-/

namespace Automation

namespace Entries

/-- A field that may be missing is found under its name alone. -/
theorem get?_field (name other : String) (v : Option Value) :
    get? (field name v) other = if name = other then v else none := by
  cases v with
  | none => simp [field]
  | some v => simp [field]

end Entries

namespace Document

open Entries

section Assembly

variable (g : Graph) (strategy : Strategy) (order : List String)
  (triggers conditions actions : List Value)

theorem get?_assemble_variables :
    get? (assemble g strategy order triggers conditions actions) "variables"
      = some (.ofEntries (vars g strategy order)) := by
  simp [assemble, get?_append, get?_field]

theorem get?_assemble_triggers :
    get? (assemble g strategy order triggers conditions actions) "triggers"
      = some (.ofItems triggers) := by
  simp [assemble, get?_append, get?_field]

/-- Conditions are written only if there are any. -/
theorem get?_assemble_conditions :
    get? (assemble g strategy order triggers conditions actions) "conditions"
      = if conditions.isEmpty then none else some (.ofItems conditions) := by
  by_cases h : conditions.isEmpty <;> simp [assemble, get?_append, get?_field, h]

theorem get?_assemble_actions :
    get? (assemble g strategy order triggers conditions actions) "actions"
      = some (.ofItems actions) := by
  by_cases h : conditions.isEmpty <;> simp [assemble, get?_append, get?_field, h]

/-- The settings of a run are written under their names, as far as they are there. -/
theorem get?_assemble_settings :
    get? (assemble g strategy order triggers conditions actions) "mode"
        = g.settings.mode.map .str
      ∧ get? (assemble g strategy order triggers conditions actions) "max"
        = g.settings.max.map .int
      ∧ get? (assemble g strategy order triggers conditions actions) "max_exceeded"
        = g.settings.maxExceeded.map .str
      ∧ get? (assemble g strategy order triggers conditions actions) "initial_state"
        = g.settings.initialState.map .bool
      ∧ get? (assemble g strategy order triggers conditions actions) "hide_entity"
        = g.settings.hideEntity.map .bool
      ∧ get? (assemble g strategy order triggers conditions actions) "trace"
        = g.settings.trace.map .ofEntries := by
  by_cases h : conditions.isEmpty <;> simp [assemble, get?_append, get?_field, h]

/-- The id and the names are written unless they are empty. -/
theorem get?_assemble_names :
    get? (assemble g strategy order triggers conditions actions) "id"
        = g.settings.automationId.bind ifNotEmpty
      ∧ get? (assemble g strategy order triggers conditions actions) "alias" = ifNotEmpty g.name
      ∧ get? (assemble g strategy order triggers conditions actions) "description"
        = ifNotEmpty g.description := by
  by_cases h : conditions.isEmpty <;> simp [assemble, get?_append, get?_field, h]

end Assembly

/-! ## What was written -/

variable {g : Graph} {strategy : Strategy}

/-- A report that was made is on a graph that was checked, and names the nodes that the walk over
the graph meets. -/
theorem of_analyze_eq_ok {limits : Limits} {r : TopologyReport} (h : g.analyze limits = .ok r) :
    g.check limits = .ok () ∧ r.reachable = g.reachable := by
  unfold Graph.analyze at h
  obtain ⟨_, hcheck, h⟩ := Outcome.bind_eq_ok.1 h
  refine ⟨hcheck, ?_⟩
  dsimp only at h
  -- whether or not there are joins, what is reached is reported as it is
  split at h
  · obtain ⟨_, -, h⟩ := Outcome.bind_eq_ok.1 h
    obtain ⟨_, -, h⟩ := Outcome.bind_eq_ok.1 h
    split at h
    · obtain ⟨_, -, h⟩ := Outcome.bind_eq_ok.1 h
      cases h
      rfl
    · cases h
      rfl
  · split at h
    · cases h
      rfl
    · cases h
      rfl

/-! ## The nodes of a loop -/

variable {r : TopologyReport}

/-- The nodes that a loop runs: those that paths lead to, without the triggers. -/
theorem mem_loopNodes (hr : r.reachable = g.reachable) {n : Node} :
    n ∈ loopNodes r g ↔ n ∈ g.nodes ∧ n.kind.isTrigger = false ∧ g.Reaches n.id := by
  unfold loopNodes
  rw [hr, List.mem_filter, Bool.and_eq_true, List.contains_iff_mem, Graph.mem_reachable_iff]
  simp

/-- An edge leads to what a trigger leads to. -/
theorem exists_edge_of_mem_firstNodes {t : Option String} (ht : t ∈ g.firstNodes) {id : String}
    (hid : id ∈ t) : ∃ n ∈ g.triggers, ∃ e ∈ g.edges, e.source = n.id ∧ e.target = id := by
  obtain ⟨n, hn, rfl⟩ := List.mem_map.1 ht
  obtain ⟨e, he, hsource, htarget⟩ := Graph.exists_edge_of_successor? hid
  exact ⟨n, hn, e, he, hsource, htarget⟩

/-- The first nodes have ids of the characters of ids. -/
theorem isIdChar_of_mem_firstNodes (hwf : g.WellFormed)
    (hids : ∀ n ∈ g.nodes, ∀ c ∈ n.id.toList, Text.isIdChar c = true) :
    ∀ t ∈ g.firstNodes, ∀ id ∈ t, ∀ c ∈ id.toList, Text.isIdChar c = true := by
  intro t ht id hid
  obtain ⟨-, -, e, he, -, rfl⟩ := exists_edge_of_mem_firstNodes ht hid
  obtain ⟨-, -, -, n, hn, -, htarget, -⟩ := hwf.edge he
  exact htarget ▸ hids n hn

/-- Where an edge leads from a path, there is a node of the loop. -/
theorem mem_loopNodes_of_edge (hwf : g.WellFormed) (hr : r.reachable = g.reachable) {e : Edge}
    (he : e ∈ g.edges) (hsource : g.Reaches e.source) : ∃ n ∈ loopNodes r g, n.id = e.target := by
  obtain ⟨-, -, -, n, hn, -, htarget, htrigger⟩ := hwf.edge he
  refine ⟨n, (mem_loopNodes hr).2 ⟨hn, htrigger, ?_⟩, htarget.symm⟩
  exact htarget ▸ .edge he hsource

/-- A graph that was examined has been reported on, and the notices about its nodes told. -/
theorem of_examine_eq_ok {limits : Limits} {notices : List Notice}
    (h : examine limits g = .ok (r, notices)) :
    g.analyze limits = .ok r ∧ g.notices limits = .ok notices := by
  obtain ⟨r', hr, h⟩ := Outcome.bind_eq_ok.1 h
  obtain ⟨notices', hnotices, h⟩ := Outcome.bind_eq_ok.1 h
  cases h
  exact ⟨hr, hnotices⟩

theorem of_written_eq_ok {write : Graph → Outcome Entries} {w : Written}
    (h : written strategy g write = .ok w) : write g = .ok w.config := by
  obtain ⟨sheet, -, h⟩ := Outcome.bind_eq_ok.1 h
  obtain ⟨config, hconfig, h⟩ := Outcome.bind_eq_ok.1 h
  obtain ⟨text, -, h⟩ := Outcome.bind_eq_ok.1 h
  cases h
  exact hconfig

/-- A dispatch document that was written. -/
theorem of_dispatch_eq_ok {limits : Limits} {w : Written} (h : (dispatch limits g).1 = .ok w) :
    ∃ r notices joins, g.analyze limits = .ok r ∧ g.notices limits = .ok notices
      ∧ g.blockJoins = .ok joins
      ∧ w.config = assemble g .dispatch ((g.triggers ++ loopNodes r g).map (·.id))
          (Program.payloads g.triggers) [] (Dispatch.actions limits g joins (loopNodes r g)) := by
  unfold dispatch at h
  split at h
  · cases h
  · rename_i r notices hexamine
    obtain ⟨hr, hnotices⟩ := of_examine_eq_ok hexamine
    obtain ⟨joins, hjoins, hconfig⟩ := Outcome.bind_eq_ok.1 (of_written_eq_ok h)
    exact ⟨r, notices, joins, hr, hnotices, hjoins, (Except.ok.inj hconfig).symm⟩

/-- A native document that was written. -/
theorem of_native_eq_ok {limits : Limits} {g : Graph} {w : Written}
    (h : (native limits g).1 = .ok w) :
    ∃ r p, g.analyze limits = .ok r ∧ r.isNative = true ∧ g.program limits r = .ok p
      ∧ w.config = assemble g .native (p.nodes.map (·.id)) (Program.payloads p.triggers)
          (Program.payloads p.gates) p.actions := by
  unfold native at h
  split at h
  · cases h
  · rename_i r notices hexamine
    split at h
    · rename_i hnative
      obtain ⟨p, hp, hconfig⟩ := Outcome.bind_eq_ok.1 (of_written_eq_ok h)
      exact ⟨r, p, (of_examine_eq_ok hexamine).1, hnative, hp, (Except.ok.inj hconfig).symm⟩
    · cases h

end Document

end Automation
