/-!
# Places in a document

Where an entry stands, from a section of the document inwards. Places appear in warnings and errors
only. Different ways to go on lead to different places (`Place.item_inj`).
-/

namespace Automation

/-- One step inwards: to an item of a list or to a field of a mapping. -/
inductive Step where
  | index (i : Nat)
  | field (name : String)
  deriving DecidableEq, Repr

/-- A section of a document and the steps from there. -/
structure Place where
  root : String
  steps : List Step := []
  deriving DecidableEq, Repr

namespace Place

/-- The place of an item of the list at a place. -/
def item (p : Place) (i : Nat) : Place := { p with steps := p.steps ++ [.index i] }

/-- The place of a field of the mapping at a place. -/
def field (p : Place) (name : String) : Place := { p with steps := p.steps ++ [.field name] }

/-- The text of a step. -/
def renderStep : Step → String
  | .index i => "[" ++ toString i ++ "]"
  | .field name => "." ++ name

/-- The text of a place, such as `actions[2].then[0]`. -/
def render (p : Place) : String := p.root ++ String.join (p.steps.map renderStep)

theorem item_inj {p : Place} {i j : Nat} : p.item i = p.item j ↔ i = j := by
  simp [Place.item]

theorem field_inj {p : Place} {a b : String} : p.field a = p.field b ↔ a = b := by
  simp [Place.field]

end Place

end Automation
