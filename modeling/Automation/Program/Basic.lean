import Automation.Graph.Basic

/-!
# Programs

The structured form of an automation: triggers, conditions that every run has to pass, and blocks,
which are steps and choices between lists of blocks. A choice tries the conditions of its options in
turn and takes the first that holds, or what is left otherwise.

A program is a graph with its nesting kept. `Program.nodes` lists its nodes in the order in which
they are written, and `Program.edges` joins each node to the ends that are open in front of it: a
list of blocks passes open ends from each block to the next, a step leaves one open end, and a
choice those of all its branches.
-/

namespace Automation

/-- A step, or a choice. A condition that is a step stops the run when it fails. -/
inductive Block where
  | step (node : Node)
  | choice (options : List (Node × List Block)) (otherwise : List Block)
  deriving Inhabited

structure Program where
  triggers : List Node := []
  gates : List Node := []
  body : List Block := []
  deriving Inhabited

/-- A node from which an edge with a handle is still to be drawn. -/
abbrev OpenEnd := String × Option String

/-- The open end that a node by itself leaves. -/
def Node.exit (n : Node) : OpenEnd :=
  (n.id, if n.kind.isCondition then some handleTrue else none)

namespace Block

mutual
/-- The nodes of a block, as they are written. -/
def nodes : Block → List Node
  | step node => [node]
  | choice options otherwise => optionNodes options ++ listNodes otherwise

/-- The nodes of a list of blocks. -/
def listNodes : List Block → List Node
  | [] => []
  | b :: bs => nodes b ++ listNodes bs

/-- The nodes of the options of a choice. -/
def optionNodes : List (Node × List Block) → List Node
  | [] => []
  | (node, body) :: rest => node :: listNodes body ++ optionNodes rest
end

/-- The nodes of the options are their conditions and the nodes of their bodies. -/
theorem mem_optionNodes {n : Node} {options : List (Node × List Block)} :
    n ∈ optionNodes options ↔ ∃ o ∈ options, n = o.1 ∨ n ∈ listNodes o.2 := by
  induction options with
  | nil => simp [optionNodes]
  | cons o options ih => simp [optionNodes, ih, or_assoc]

/-- The edges from open ends to a node. -/
def join (ends : List OpenEnd) (id : String) : List Edge :=
  ends.map fun e => .between e.1 id e.2

/-- What has been drawn of a choice: the edges, the ends that its branches leave open, and the ends
from which the next option is reached. -/
structure Wiring where
  edges : List Edge
  exits : List OpenEnd
  pending : List OpenEnd

mutual
/-- The edges into and inside a block, and the ends that it leaves open. -/
def wire (ends : List OpenEnd) : Block → List Edge × List OpenEnd
  | step node => (join ends node.id, [node.exit])
  | choice options otherwise =>
    let tried := wireOptions ends options
    let last := wireList tried.pending otherwise
    (tried.edges ++ last.1, tried.exits ++ last.2)
termination_by structural b => b

/-- The edges of a list of blocks, and the ends that it leaves open. -/
def wireList (ends : List OpenEnd) : List Block → List Edge × List OpenEnd
  | [] => ([], ends)
  | b :: bs =>
    let first := wire ends b
    let rest := wireList first.2 bs
    (first.1 ++ rest.1, rest.2)
termination_by structural bs => bs

/-- The edges of options, each of which is reached when the one before does not hold. -/
def wireOptions (ends : List OpenEnd) : List (Node × List Block) → Wiring
  | [] => ⟨[], [], ends⟩
  | (node, body) :: rest =>
    let inner := wireList [(node.id, some handleTrue)] body
    let others := wireOptions [(node.id, some handleFalse)] rest
    ⟨join ends node.id ++ inner.1 ++ others.edges, inner.2 ++ others.exits, others.pending⟩
termination_by structural options => options
end

/-- The edges through conditions that every run has to pass, and the end behind them. -/
def wireGates (ends : List OpenEnd) : List Node → List Edge × List OpenEnd
  | [] => ([], ends)
  | gate :: rest =>
    let others := wireGates [(gate.id, some handleTrue)] rest
    (join ends gate.id ++ others.1, others.2)

end Block

namespace Program

/-- The nodes of a program, as they are written. -/
def nodes (p : Program) : List Node := p.triggers ++ p.gates ++ Block.listNodes p.body

/-- The edges of a program: from the triggers through the gates into the body. -/
def edges (p : Program) : List Edge :=
  let gates := Block.wireGates (p.triggers.map fun t => (t.id, none)) p.gates
  gates.1 ++ (Block.wireList gates.2 p.body).1

/-- The graph of a program. -/
def graph (p : Program) : Graph := { nodes := p.nodes, edges := p.edges }

end Program

namespace Block

theorem join_targets (ends : List OpenEnd) (id : String) :
    ∀ e ∈ join ends id, e.target = id := by
  intro e he
  obtain ⟨_, _, rfl⟩ := List.mem_map.1 he
  rfl

/-- The blocks of two lists put together have the nodes of both. -/
theorem listNodes_append (a b : List Block) : listNodes (a ++ b) = listNodes a ++ listNodes b := by
  induction a with
  | nil => rfl
  | cons x xs ih => simp [listNodes, ih]

/-- Two lists of blocks are wired one behind the other. -/
theorem wireList_append (ends : List OpenEnd) (a b : List Block) :
    wireList ends (a ++ b)
      = ((wireList ends a).1 ++ (wireList (wireList ends a).2 b).1,
          (wireList (wireList ends a).2 b).2) := by
  induction a generalizing ends with
  | nil => simp [wireList]
  | cons x xs ih => simp [wireList, ih]

end Block

end Automation
