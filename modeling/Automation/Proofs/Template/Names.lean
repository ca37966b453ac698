import Automation.Simulation.Guard

/-!
# Names in conditions

Which variables a condition depends on. An expression mentions a name when the name stands in it as
an operand; a condition mentions what the templates in it mention, its parts included. Contexts that
differ only in variables that a condition does not mention give it the same outcome
(`Guard.evaluate_congr`).
-/

namespace Automation

namespace Template

/-! ## Expressions -/

mutual
/-- Whether a name stands in an expression as an operand. -/
def Expr.mentions (name : String) : Expr → Bool
  | .constant _ => false
  | .name s => s == name
  | .field e _ => e.mentions name
  | .negation e => e.mentions name
  | .allOf es => Expr.anyMentions name es
  | .anyOf es => Expr.anyMentions name es
  | .compare first rest => first.mentions name || Expr.chainMentions name rest
  | .unsupported => false

/-- Whether a name stands in one of some expressions. -/
def Expr.anyMentions (name : String) : List Expr → Bool
  | [] => false
  | e :: es => e.mentions name || Expr.anyMentions name es

/-- Whether a name stands on the right side of one of some comparisons. -/
def Expr.chainMentions (name : String) : List (Option Comparison × Expr) → Bool
  | [] => false
  | (_, e) :: rest => e.mentions name || Expr.chainMentions name rest
end

variable {a b : Entries}

mutual
/-- The value of an expression depends only on the variables that it mentions. Each operand mentions
what the whole does, so the hypothesis goes down with the recursion. -/
theorem evaluate?_congr (e : Expr) (h : ∀ s, e.mentions s = true → a.get? s = b.get? s) :
    evaluate? a e = evaluate? b e := by
  -- a name is looked up where both agree, and all others are made of parts that mention less
  cases e with
  | constant d => simp only [evaluate?]
  | name s =>
    have hs : a.get? s = b.get? s := h s (by simp [Expr.mentions])
    simp only [evaluate?, hs]
  | field e name =>
    have he := evaluate?_congr e fun s hs => h s (by simpa [Expr.mentions] using hs)
    simp only [evaluate?, he]
  | negation e =>
    have he := evaluate?_congr e fun s hs => h s (by simpa [Expr.mentions] using hs)
    simp only [evaluate?, he]
  | allOf es =>
    have hes := evaluateAll?_congr es fun s hs => h s (by simpa [Expr.mentions] using hs)
    simp only [evaluate?, hes]
  | anyOf es =>
    have hes := evaluateAll?_congr es fun s hs => h s (by simpa [Expr.mentions] using hs)
    simp only [evaluate?, hes]
  | compare first rest =>
    have hfirst := evaluate?_congr first fun s hs => h s (by simp [Expr.mentions, hs])
    have hrest (left : Datum) := chain?_congr left rest fun s hs => h s (by simp [Expr.mentions, hs])
    simp only [evaluate?, hfirst, hrest]
  | unsupported => simp only [evaluate?]

/-- Expressions are evaluated alike where the variables agree that one of them mentions. -/
theorem evaluateAll?_congr (es : List Expr)
    (h : ∀ s, Expr.anyMentions s es = true → a.get? s = b.get? s) :
    evaluateAll? a es = evaluateAll? b es := by
  cases es with
  | nil => simp only [evaluateAll?]
  | cons e es =>
    have he := evaluate?_congr e fun s hs => h s (by simp [Expr.anyMentions, hs])
    have hes := evaluateAll?_congr es fun s hs => h s (by simp [Expr.anyMentions, hs])
    simp only [evaluateAll?, he, hes]

/-- A chain of comparisons is decided alike where the variables agree that its operands mention. -/
theorem chain?_congr (left : Datum) (rest : List (Option Comparison × Expr))
    (h : ∀ s, Expr.chainMentions s rest = true → a.get? s = b.get? s) :
    chain? a left rest = chain? b left rest := by
  cases rest with
  | nil => simp only [chain?]
  | cons c rest =>
    obtain ⟨op, e⟩ := c
    have he := evaluate?_congr e fun s hs => h s (by simp [Expr.chainMentions, hs])
    have hrest (d : Datum) := chain?_congr d rest fun s hs => h s (by simp [Expr.chainMentions, hs])
    simp only [chain?, he, hrest]
end

/-- Whether the expression of a template mentions a name. -/
def mentions (name template : String) : Bool :=
  (parse? (expressionOf template.toList)).any (·.mentions name)

/-- Whether a template holds depends only on the variables that it mentions. -/
theorem holds_congr {template : String}
    (h : ∀ s, mentions s template = true → a.get? s = b.get? s) :
    holds a template = holds b template := by
  have hvalue : (parse? (expressionOf template.toList)).bind (evaluate? a)
      = (parse? (expressionOf template.toList)).bind (evaluate? b) := by
    cases hp : parse? (expressionOf template.toList) with
    | none => rfl
    | some e => exact evaluate?_congr e fun s hs => h s (by simpa [mentions, hp] using hs)
  unfold holds
  simp only [hvalue]

end Template

namespace Guard

/-! ## Conditions -/

/-- Whether the template of a condition of that kind mentions a name. -/
def templateMentions (name : String) (es : Entries) : Bool :=
  match es.get "condition", (es.get? "value_template").getD (.str "") with
  | .str "template", .str template => Template.mentions name template
  | _, _ => false

mutual
/-- Whether a template in a condition mentions a name. -/
def mentions (name : String) : Value → Bool
  | .map _ es => templateMentions name es || partMentions name es
  | _ => false

/-- Whether a template in the parts among the entries of a condition mentions a name. -/
def partMentions (name : String) : List (Value × Value) → Bool
  | [] => false
  | (k, v) :: rest =>
    if k.isText "conditions" then elementMentions name v else partMentions name rest

/-- Whether a template in an element of a value mentions a name. -/
def elementMentions (name : String) : Value → Bool
  | .list _ items => anyMentions name items
  | .tuple _ items => anyMentions name items
  | .set _ items => anyMentions name items
  | _ => false

/-- Whether a template in one of some conditions mentions a name. -/
def anyMentions (name : String) : List Value → Bool
  | [] => false
  | v :: vs => mentions name v || anyMentions name vs
end

variable {a b : Context}

/-- What a condition by itself, without its parts, asks of a context. -/
theorem decide_congr {es : Entries} (parts : Outcome (List (Outcome Bool)))
    (hstates : a.states = b.states) (hid : a.triggerId = b.triggerId)
    (h : ∀ s, templateMentions s es = true → a.vars.get? s = b.vars.get? s) :
    decide a es parts = decide b es parts := by
  have hstate (entity : Value) : stateOf a entity = stateOf b entity := by
    simp only [stateOf, hstates]
  have hholds : stateHolds a es = stateHolds b es := by
    simp only [stateHolds, hstate]
  have hnumeric : numericHolds a es = numericHolds b es := by
    have hwithin (entity : Value) : entityWithin a es entity = entityWithin b es entity := by
      simp only [entityWithin, hstate]
    rw [numericHolds, numericHolds, funext hwithin]
  have htrigger : triggerHolds a es = triggerHolds b es := by
    simp only [triggerHolds, hid]
  -- only the variables that the template mentions are known to agree
  have htemplate (hk : es.get "condition" = .str "template") :
      Template.check a.vars ((es.get? "value_template").getD (.str ""))
        = Template.check b.vars ((es.get? "value_template").getD (.str "")) := by
    cases hv : (es.get? "value_template").getD (.str "") with
    | str template =>
      have hh : Template.holds a.vars template = Template.holds b.vars template :=
        Template.holds_congr fun s hs => h s (by simpa [templateMentions, hk, hv] using hs)
      simp only [Template.check, hh]
    | _ => rfl
  unfold decide
  rw [hholds, hnumeric, htrigger]
  split
  · rfl
  · split <;> first | exact htemplate (by assumption) | rfl

mutual
/-- The outcome of a condition depends only on the states, the trigger, and the variables that it
mentions. -/
theorem evaluate_congr (v : Value) (hstates : a.states = b.states) (hid : a.triggerId = b.triggerId)
    (h : ∀ s, mentions s v = true → a.vars.get? s = b.vars.get? s) :
    evaluate a v = evaluate b v := by
  cases v with
  | map o es =>
    have hparts := evaluateParts_congr es hstates hid fun s hs => h s (by simp [mentions, hs])
    simp only [evaluate, hparts]
    exact decide_congr _ hstates hid fun s hs => h s (by simp [mentions, hs])
  | _ => simp only [evaluate]

/-- The parts of a group are decided alike where the variables agree that they mention. -/
theorem evaluateParts_congr (es : List (Value × Value)) (hstates : a.states = b.states)
    (hid : a.triggerId = b.triggerId)
    (h : ∀ s, partMentions s es = true → a.vars.get? s = b.vars.get? s) :
    evaluateParts a es = evaluateParts b es := by
  cases es with
  | nil => simp only [evaluateParts]
  | cons e rest =>
    obtain ⟨k, v⟩ := e
    by_cases hk : k.isText "conditions"
    · simp only [evaluateParts, hk, if_true]
      exact evaluateElements_congr v hstates hid fun s hs => h s (by simpa [partMentions, hk] using hs)
    · simp only [evaluateParts, hk]
      exact evaluateParts_congr rest hstates hid fun s hs =>
        h s (by simpa [partMentions, hk] using hs)

/-- The elements of a list of conditions are decided alike where the variables agree that they
mention. -/
theorem evaluateElements_congr (v : Value) (hstates : a.states = b.states)
    (hid : a.triggerId = b.triggerId)
    (h : ∀ s, elementMentions s v = true → a.vars.get? s = b.vars.get? s) :
    evaluateElements a v = evaluateElements b v := by
  cases v with
  | list o items =>
    simp only [evaluateElements]
    rw [evaluateEach_congr items hstates hid fun s hs => h s (by simpa [elementMentions] using hs)]
  | tuple o items =>
    simp only [evaluateElements]
    rw [evaluateEach_congr items hstates hid fun s hs => h s (by simpa [elementMentions] using hs)]
  | set o items =>
    simp only [evaluateElements]
    rw [evaluateEach_congr items hstates hid fun s hs => h s (by simpa [elementMentions] using hs)]
  | _ => simp only [evaluateElements]

theorem evaluateEach_congr (vs : List Value) (hstates : a.states = b.states)
    (hid : a.triggerId = b.triggerId)
    (h : ∀ s, anyMentions s vs = true → a.vars.get? s = b.vars.get? s) :
    evaluateEach a vs = evaluateEach b vs := by
  cases vs with
  | nil => simp only [evaluateEach]
  | cons v vs =>
    have hv := evaluate_congr v hstates hid fun s hs => h s (by simp [anyMentions, hs])
    have hvs := evaluateEach_congr vs hstates hid fun s hs => h s (by simp [anyMentions, hs])
    simp only [evaluateEach, hv, hvs]
end

end Guard

end Automation
