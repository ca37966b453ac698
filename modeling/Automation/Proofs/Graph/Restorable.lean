import Automation.Proofs.Condition
import Automation.Proofs.Document.Reading
import Automation.Proofs.Entry.Modern
import Automation.Proofs.Graph.Structure
import Automation.Proofs.Program.Entries

/-!
# Graphs that documents can hold

What a graph must be for a reader to find in a document what was there (`Graph.Restorable`), and
when a node that was read is the same as one that was written (`Node.Same`): where an editor draws
it does not matter, nor do the order of the fields of a mapping and the origins of values.
-/

namespace Automation

/-- Two nodes that are the same, wherever an editor draws them. -/
structure Node.Same (m n : Node) : Prop where
  id : m.id = n.id
  kind : m.kind = n.kind
  label : m.label = n.label
  data : (Value.ofEntries m.data).same (.ofEntries n.data) = true
  flags : (Value.ofEntries m.flags).same (.ofEntries n.flags) = true

/-- Placing a node leaves it the same. -/
theorem Node.Same.place {n n' : Node} (h : n.Same n') (m : Metadata) : (m.place n).Same n' := by
  rw [m.place_eq]
  exact ⟨h.id, h.kind, h.label, h.data, h.flags⟩

/-- A payload that normalizing leaves as it is. -/
def Condition.IsNormal (limits : Limits) (data : Entries) : Prop :=
  ∃ es, Condition.normalize limits (.ofEntries data) = .ok es
    ∧ (Value.ofEntries es).same (.ofEntries data) = true

namespace Graph

/-- A graph in which everything is what it looks like: payloads are told for what they are, those of
conditions are in their normal form, and only conditions have names, flags and handles. -/
structure Restorable (limits : Limits) (g : Graph) : Prop where
  wellFormed : g.WellFormed
  headed : g.Headed
  /-- no mapping in a payload has a key twice -/
  once : ∀ n ∈ g.nodes, (Value.ofEntries n.data).keysOnce = true
  distinct : ∀ n ∈ g.nodes, n.flags.Distinct
  platform : ∀ n ∈ g.nodes, n.kind.isTrigger = true → n.data.has "platform" = false
  normal : ∀ n ∈ g.nodes, n.kind.isCondition = true → Condition.IsNormal limits n.data
  step : ∀ n ∈ g.nodes, n.kind.isTrigger = false → n.kind.isCondition = false →
    Entry.kind n.data = .step n.kind
  label : ∀ n ∈ g.nodes, n.kind.isCondition = true → Block.IsLabel n.label
  flags : ∀ n ∈ g.nodes, n.kind.isCondition = true → Block.AreFlags n.flags
  bare : ∀ n ∈ g.nodes, n.kind.isCondition = false → n.label = .null ∧ n.flags = []
  handle : ∀ e ∈ g.edges, g.isConditionAt e.source = false → e.handle = none

variable {g : Graph} {limits : Limits}

/-- Flags have texts for keys. -/
theorem Restorable.keyed_flags (h : g.Restorable limits) {n : Node} (hn : n ∈ g.nodes)
    (hcondition : n.kind.isCondition = true) : n.flags.Keyed :=
  (h.flags n hn hcondition).keyed (h.distinct n hn)

/-- A graph has a trigger, and so a document that is written of it has one. -/
theorem WellFormed.payloads_ne_nil (hwf : g.WellFormed) : g.triggers.map (·.data) ≠ [] := by
  obtain ⟨n, hn, htrigger⟩ := hwf.exists_trigger
  exact List.ne_nil_of_mem (List.mem_map_of_mem (List.mem_filter.2 ⟨hn, htrigger⟩))

/-- The payloads of the triggers are those of a document. -/
theorem payloads_triggers (hkeyed : ∀ n ∈ g.nodes, n.kind.isTrigger = true → n.data.Keyed)
    (hplatform : ∀ n ∈ g.nodes, n.kind.isTrigger = true → n.data.has "platform" = false) :
    (∀ es ∈ g.triggers.map (·.data), es.Keyed)
      ∧ ∀ es ∈ g.triggers.map (·.data), es.has "platform" = false := by
  refine ⟨List.forall_mem_map.2 fun n hn => ?_, List.forall_mem_map.2 fun n hn => ?_⟩
  · exact hkeyed n (List.mem_filter.1 hn).1 (List.mem_filter.1 hn).2
  · exact hplatform n (List.mem_filter.1 hn).1 (List.mem_filter.1 hn).2

end Graph

end Automation
