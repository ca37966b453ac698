import Automation.Number.Literal
import Automation.Value.Show

/-!
# Limits

The bounds that keep documents and graphs to a manageable size. Every operation that checks one
takes the record as an argument. A bound may be set from outside by a text; `Setting.read` reads it,
and a text of blanks counts as not set (`Setting.read_blank`).
-/

namespace Automation

/-- The bounds in force. A bound below zero allows nothing at all. -/
structure Limits where
  /-- passes of the dispatch loop, and steps of a simulated run -/
  maxIterations : Int := 1000
  /-- branching blocks inside one another -/
  maxNesting : Int := 32
  /-- condition groups inside one another -/
  maxConditionDepth : Int := 16
  /-- conditions and groups in the payload of one node -/
  maxConditionLeaves : Int := 256
  /-- nodes for each option of a choose block, nested blocks included -/
  chooseNodesPerOption : Int := 64
  /-- nodes of a graph -/
  maxGraphNodes : Int := 5000
  deriving DecidableEq, Repr

/-- A variable of the environment that holds a number. -/
structure Setting where
  name : String
  /-- what it is set to -/
  raw : Option String

namespace Setting

/-- Why a variable holds no number. -/
def message (name raw : String) : String :=
  s!"Environment variable {name} must be an integer, got " ++ Text.quote raw

/-- The number that a variable holds, or a default when it is not set. -/
def read (s : Setting) (default : Int) : Except String Int :=
  match s.raw with
  | none => .ok default
  | some raw =>
    if (Text.trim raw.toList).isEmpty then .ok default
    else match Literal.int? 10 raw.toList with
      | some n => .ok n
      | none => .error (message s.name raw)

theorem read_blank {s : Setting} {raw : String} (h : s.raw = some raw)
    (blank : Text.trim raw.toList = []) (default : Int) : s.read default = .ok default := by
  simp [read, h, blank]

end Setting

end Automation
