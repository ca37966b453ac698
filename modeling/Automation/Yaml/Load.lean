import Automation.Yaml.Part
import Automation.Yaml.Token.Scan

/-!
# Reading YAML

The value of a YAML text. A text may be no YAML, or it may hold a scalar that stands for nothing,
which is a fault. A fault among the tokens counts only when everything in front of it is sound: the
tokens there form a tree as far as they go, and their names are given once and before they are used
(`namesAreSound`).
-/

namespace Automation.Yaml

/-! ## From parts to values -/

namespace Part

/-- The nodes that are reached from some nodes. -/
def reach (parts : Array (Option Part)) : Nat → List Nat → List Nat → List Nat
  | 0, _, seen => seen
  | _ + 1, [], seen => seen
  | fuel + 1, n :: todo, seen =>
    if seen.contains n then reach parts fuel todo seen
    else reach parts fuel (((parts[n]?.join).getD default).children ++ todo) (n :: seen)

/-- The nodes that can occur inside themselves. -/
def knots (parts : Array (Option Part)) : List Nat :=
  let children (n : Nat) : List Nat := ((parts[n]?.join).getD default).children
  let fuel := parts.size + ((List.range parts.size).flatMap children).length + 1
  (List.range parts.size).filter fun n => (reach parts (fuel + fuel) (children n) []).contains n

/-- The values of nodes found so far. -/
abbrev Found := Array (Option Value)

/-- The value of a node inside the collections of the given nodes. A value found before is taken
again, unless collections occur inside themselves: then it depends on what is around it. -/
def value (parts : Array (Option Part)) (knots : List Nat) :
    Nat → List Nat → Nat → StateM Found Value
  | 0, _, _ => return .null
  | fuel + 1, around, n => do
    let origin := Origin.written n (knots.contains n)
    let inner := value parts knots fuel (n :: around)
    match parts[n]?.join with
    | none => return .null
    | some part =>
      if around.contains n then
        return .enclosing origin (match part with | .entries _ => true | _ => false)
      match (← get)[n]?.join with
      | some v => return v
      | none =>
        let v ← match part with
          | .atom v => pure v
          | .items ns => do return .list origin (← ns.mapM inner)
          | .tuples ps => do
            return .list origin (← ps.zipIdx.mapM fun (p, i) => do
              return .tuple (.part n i) [← inner p.1, ← inner p.2])
          | .entries es => do return .map origin (← es.mapM fun e => do return (e.1, ← inner e.2))
          | .keys ks => pure (.set origin ks)
        if knots.isEmpty then modify fun found => found.setIfInBounds n (some v)
        return v

end Part

/-! ## Names in front of a fault -/

/-- Whether nothing but what belongs to one node stands in front of the end of the tokens. -/
def startsBroken : List Token → Bool
  | .tag _ :: .broken _ :: _ => true
  | .broken _ :: _ => true
  | _ => false

/-- Whether names are given once and before they are used, in tokens that are cut off. A name whose
node is cut off has not been given. -/
def namesAreSound (given : List String) : List Token → Bool
  | [] => true
  | .repeated name :: rest => given.contains name && namesAreSound given rest
  | .anchor name :: rest =>
    startsBroken rest || (!given.contains name && namesAreSound (name :: given) rest)
  | _ :: rest => namesAreSound given rest

/-- The tree of the only document of some tokens, if there is a document. -/
def treeOf (tokens : List Token) : Outcome (Option Tree) :=
  match Tree.ofTokens tokens with
  | .error (.fault f) => if namesAreSound [] tokens then Outcome.fault f else invalid
  | result => result

/-- The value of a YAML text; null when there is no document in it. The undefined numbers of two
readings are told apart when the readings have different numbers. -/
def load (text : String) (reading : Nat := 0) : Outcome Value := do
  match ← treeOf (← tokens text) with
  | none => return .null
  | some tree =>
    match Composition.ofTree? {} tree with
    | none => invalid
    | some (root, c) =>
      let parts ← c.nodes.parts reading root
      let knots := if c.isKnotted then Part.knots parts else []
      return ((Part.value parts knots (parts.size + 1) [] root).run
        (Array.replicate parts.size none)).1

end Automation.Yaml
