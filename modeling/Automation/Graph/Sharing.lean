import Automation.Graph.Basic

/-!
# Sharing between nodes

Values of a document that were written once and used several times keep their origin. A document
that is written for a graph has a payload of its own for each node: inside one payload the
occurrences of a value stay together, and between two payloads they do not. `Graph.apart` marks the
origins with the place of the payload they belong to. It changes nothing but origins.
-/

namespace Automation

/-- Where the values stay together that are no node's own. -/
def commonPlace : Place := { root := "common" }

/-- The settings, whose values are common. -/
def Settings.apart (s : Settings) : Settings :=
  { s with
    trace := s.trace.map (Entries.inside commonPlace)
    vars := Entries.inside commonPlace s.vars }

/-- A node whose payload and flags are copies of their own; its label is common. -/
def Node.apart (index : Nat) (n : Node) : Node :=
  let place := Place.item { root := "nodes" } index
  { n with
    data := Entries.inside (place.field "data") n.data
    label := n.label.inside commonPlace
    flags := Entries.inside (place.field "flags") n.flags }

namespace Graph

/-- The graph with the payloads of its nodes apart. -/
def apart (g : Graph) : Graph :=
  { g with
    nodes := g.nodes.zipIdx.map fun n => n.1.apart n.2
    settings := g.settings.apart }

theorem apart_ids (g : Graph) : g.apart.nodes.map (·.id) = g.nodes.map (·.id) := by
  have h : ∀ (ns : List Node) (k : Nat),
      ((ns.zipIdx k).map fun n => n.1.apart n.2).map (·.id) = ns.map (·.id) := by
    intro ns
    induction ns with
    | nil => simp
    | cons n ns ih => intro k; simpa [Node.apart] using ih (k + 1)
  exact h g.nodes 0

end Graph

end Automation
