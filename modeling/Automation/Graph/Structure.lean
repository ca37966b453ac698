import Automation.Failure
import Automation.Graph.Basic
import Automation.Limits

/-!
# The invariants of a graph

`Graph.problems` lists every violation; a graph is well formed when there is none. `Graph.check`
refuses the others, and refuses a graph that is too large before it looks at anything else
(`check_eq_ok_iff`).

The rules: ids are not empty, not repeated, made of id characters and not the reserved end state;
kinds are known; there is a trigger; edges join nodes and none enters a trigger; a condition has at
most one edge for each of its two handles and no other, and any other node has at most one edge.
-/

namespace Automation

/-- The state in which a dispatch loop stops, which no node may be named after. -/
def endState : String := "END"

namespace Text

/-- A character of node ids. -/
def isIdChar (c : Char) : Bool :=
  c.isAlphanum || c == '_' || c == '.' || c == ':' || c == '-'

/-- The text without a line feed at its end. -/
def dropFinalBreak (cs : List Char) : List Char :=
  if cs.getLast? = some '\n' then cs.dropLast else cs

/-- Whether a text is a node id: id characters, at least one, and perhaps a line feed. -/
def isId (s : String) : Bool :=
  let cs := dropFinalBreak s.toList
  !cs.isEmpty && cs.all isIdChar

end Text

namespace Graph

/-- What is wrong with each node, given the ids before it. -/
def nodeProblems (seen : List String) : List Node → List GraphProblem
  | [] => []
  | n :: rest =>
    if n.id = "" then .emptyId :: nodeProblems seen rest
    else
      (if seen.contains n.id then [.duplicateId n.id] else [])
        ++ (if Text.isId n.id then [] else [.illegalId n.id])
        ++ (if n.id = endState then [.reservedId] else [])
        ++ (if n.kind.isKnown then [] else [.unknownKind n.kind.toValue n.id])
        ++ nodeProblems (n.id :: seen) rest

/-- Whether there is a node with an id. -/
def hasNode (g : Graph) (id : String) : Bool := g.nodes.any (·.id == id)

/-- Whether both ends of an edge are nodes. -/
def isJoined (g : Graph) (e : Edge) : Bool := g.hasNode e.source && g.hasNode e.target

/-- What is wrong with an edge by itself. -/
def edgeProblem (g : Graph) (e : Edge) : List GraphProblem :=
  if !g.isJoined e then [.unknownEnd e.source e.target]
  else if (g.kind? e.target).any (·.isTrigger) then [.entersTrigger e.target e.source]
  else []

/-- The items of a list at their first occurrence. -/
def distinct : List String → List String
  | [] => []
  | x :: xs => x :: (distinct xs).filter (· != x)

/-- What is wrong with the edges out of a node, given their handles. -/
def branchingProblems (g : Graph) (source : String) (handles : List String) : List GraphProblem :=
  if g.isConditionAt source then
    (handles.filter fun h => h != handleTrue && h != handleFalse).map (.foreignHandle source)
      ++ ([handleTrue, handleFalse].filter fun h => handles.count h > 1).map
          (.repeatedHandle source)
  else if handles.length > 1 then [.manyEdges source handles.length]
  else []

/-- All violations of the invariants: of the nodes, of the graph, of each edge, and of the edges out
of each node. -/
def problems (g : Graph) : List GraphProblem :=
  let joined := g.edges.filter g.isJoined
  let sources := distinct (joined.map (·.source))
  nodeProblems [] g.nodes
    ++ (if g.nodes.any fun n => (g.kind? n.id).any (·.isTrigger) then [] else [.noTrigger])
    ++ g.edges.flatMap g.edgeProblem
    ++ sources.flatMap fun source =>
        g.branchingProblems source <|
          (joined.filter (·.source == source)).map fun e => e.handle.getD ""

/-- The messages of all violations. -/
def problemTexts (g : Graph) : Outcome (List String) :=
  if (g.problems.flatMap (·.values)).all (·.hasText) then .ok (g.problems.map (·.message))
  else Outcome.fault .value

/-- Whether a graph keeps the invariants. -/
def WellFormed (g : Graph) : Prop := g.problems = []

/-- Refuses a graph that is too large or breaks an invariant. -/
def check (limits : Limits) (g : Graph) : Outcome Unit :=
  if limits.maxGraphNodes < g.nodes.length then
    Outcome.tooLarge (.graphNodes g.nodes.length limits.maxGraphNodes)
  else match g.problems with
    | [] => .ok ()
    | ps => Outcome.malformed (.graph ps)

/-- The check accepts exactly the well-formed graphs within the limit. -/
theorem check_eq_ok_iff {limits : Limits} {g : Graph} :
    g.check limits = .ok () ↔ g.nodes.length ≤ limits.maxGraphNodes ∧ g.WellFormed := by
  unfold check WellFormed
  by_cases h : g.nodes.length ≤ limits.maxGraphNodes
  · have fits : ¬ limits.maxGraphNodes < g.nodes.length := by omega
    cases g.problems <;> simp [h, fits, Outcome.malformed, Outcome.refuse]
  · have large : limits.maxGraphNodes < g.nodes.length := by omega
    simp [h, large, Outcome.tooLarge, Outcome.refuse]

theorem mem_distinct {x : String} {xs : List String} : x ∈ distinct xs ↔ x ∈ xs := by
  induction xs with
  | nil => simp [distinct]
  | cons y ys ih =>
    by_cases h : x = y <;> simp [distinct, h, ih]

theorem nodup_distinct (xs : List String) : (distinct xs).Nodup := by
  induction xs with
  | nil => simp [distinct]
  | cons y ys ih =>
    refine List.nodup_cons.2 ⟨by simp, List.Pairwise.filter _ ih⟩

end Graph

end Automation
