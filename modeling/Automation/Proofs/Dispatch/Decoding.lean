import Automation.Dispatch.Decoding
import Automation.Proofs.Condition
import Automation.Proofs.Program.Entries
import Automation.Proofs.Text.Plain

/-!
# Dispatch loops read back

Every part of a loop is read back as what it was written for: a test as its state
(`testedState?_test`), an assignment as its target, an option as its node and the states that follow
(`readOption_option`), and the loop as its first state and its options (`readLoop_actions`). What
is decoded out of a loop as a whole is told in one place (`decode_eq_ok`).
-/

namespace Automation

namespace Dispatch

open Text Entries

/-! ## Tests and assignments -/

/-- Nothing is trimmed off an expression in its braces. -/
theorem trim_inBraces (expression : String) :
    trim (inBraces expression).toList = (inBraces expression).toList := by
  have htext : (inBraces expression).toList
      = "\x7b\x7b ".toList ++ expression.toList ++ " \x7d\x7d".toList := by
    simp [inBraces]
  rw [trim_eq_self_iff, htext]
  refine ⟨fun c hc => ?_, fun c hc => ?_⟩
  · cases hc
    decide
  · rw [List.getLast?_append] at hc
    cases hc
    decide

/-- The state of a test is the name that was written in it. -/
theorem testedState?_test {name : String} (h : IsName name.toList) :
    testedState? (inBraces (stateVariable ++ " == '" ++ name ++ "'")) = some name := by
  have htext : (inBraces (stateVariable ++ " == '" ++ name ++ "'")).toList
      = "\x7b\x7b".toList ++ (' ' :: (stateVariable.toList ++ (' ' :: ("==".toList
        ++ (' ' :: (['\''] ++ (name.toList ++ '\'' :: ' ' :: "\x7d\x7d".toList))))))) := by
    simp [inBraces]
  have hblank (c : Char) (cs : List Char) (hc : isBlank c = false) :
      trimStart (' ' :: c :: cs) = c :: cs := by
    rw [trimStart, List.dropWhile_cons_of_pos (by decide), List.dropWhile_cons_of_neg (by simp [hc])]
  have hquote (cs : List Char) : trimStart (' ' :: (['\''] ++ cs)) = ['\''] ++ cs := rfl
  have htake (rest : List Char) : (name.toList ++ '\'' :: rest).takeWhile isIdChar = name.toList := by
    rw [List.takeWhile_append_of_pos h.2, List.takeWhile_cons_of_neg (by decide), List.append_nil]
  have hdrop (rest : List Char) :
      (name.toList ++ '\'' :: rest).dropWhile isIdChar = ['\''] ++ rest := by
    rw [List.dropWhile_append_of_pos h.2, List.dropWhile_cons_of_neg (by decide)]
    rfl
  -- the test is read from the left: braces, variable, sign of equality, quote, name, quote, braces
  unfold testedState?
  rw [trim_inBraces, htext, dropFront?_append]
  simp only [Option.bind_eq_bind, Option.bind_some]
  rw [show stateVariable.toList = 'c' :: "urrent_node".toList from rfl, List.cons_append,
    hblank _ _ (by decide), ← List.cons_append, dropFront?_append]
  simp only [Option.bind_some]
  rw [show "==".toList = '=' :: ['='] from rfl, List.cons_append, hblank _ _ (by decide),
    ← List.cons_append, dropFront?_append]
  simp only [Option.bind_some]
  rw [hquote, dropFront?_append]
  simp only [Option.bind_some]
  rw [htake, hdrop, dropFront?_append]
  simp only [Option.bind_some]
  have hne : name.toList.isEmpty = false := by simpa using h.1
  have hend : (trimStart (' ' :: "\x7d\x7d".toList) != "\x7d\x7d".toList) = false := by decide
  rw [hne, hend, String.ofList_toList]
  rfl

@[simp] theorem assigned?_assignText (state : String) : assigned? (assignText state) = some state :=
  rfl

theorem readBranch_assign (state branch : String) (target : Option String) :
    readBranch state branch (.ofItems [assign target]) = .ok (stateOf target) := rfl

/-! ## Options -/

variable {limits : Limits} {g : Graph} {joins : List (String × Option String)} {n : Node}

theorem readTest_option (h : IsName n.id.toList) :
    readTest [(.str "conditions", .ofItems [stateTest n.id]),
      (.str "sequence", .ofItems (steps g joins n))] = .ok n.id := by
  have hconditions : (Entries.get [(.str "conditions", .ofItems [stateTest n.id]),
      (.str "sequence", .ofItems (steps g joins n))] "conditions").expose
      = .list {} [stateTest n.id] := rfl
  have htest : (stateTest n.id).expose = .map {} [(.str "condition", .str "template"),
      (.str "value_template", .str (inBraces (stateVariable ++ " == '" ++ n.id ++ "'")))] := rfl
  have htemplate (template : Value) : Entries.get [(.str "condition", .str "template"),
      (.str "value_template", template)] "value_template" = template := rfl
  unfold readTest
  rw [hconditions]
  dsimp only
  rw [htest]
  dsimp only
  rw [htemplate, Value.text?, Option.bind_some, testedState?_test h]

/-- What a reader makes of the payload of a node: that of a condition in its canonical form. -/
def rereadData (limits : Limits) (n : Node) : Entries :=
  if n.kind.isCondition then (Condition.normalize limits (.ofEntries n.data)).toOption.getD []
  else n.data

/-- The node that a reader makes of what is written for a node. -/
def reread (limits : Limits) (n : Node) : Node :=
  { id := n.id, kind := n.kind, data := rereadData limits n, label := n.label.ifTruthy.getD .null
    flags := Entry.flagsOf n.flags }

/-- Where a run goes on from a node, by the handle of the edge. -/
def exits (g : Graph) (n : Node) : List (Option String × Option String) :=
  if n.kind.isCondition then
    [(some handleTrue, g.whenTrue? n.id), (some handleFalse, g.whenFalse? n.id)]
  else [(none, g.successor? n.id)]

/-- The states that follow the one of a node. -/
def exitStates (g : Graph) (n : Node) : List (Option String × String) :=
  (exits g n).map fun x => (x.1, stateOf x.2)

/-- A node whose entries a reader takes for what they are. -/
structure Restorable (limits : Limits) (n : Node) : Prop where
  id : IsName n.id.toList
  kind : n.kind.isTrigger = false
  normal : n.kind.isCondition = true →
    ∃ data, Condition.normalize limits (.ofEntries n.data) = .ok data
  /-- a group that is written as a list stands in full -/
  whole : n.kind.isCondition = true → (n.data.get "condition").isText "and" = true →
    (n.data.get "conditions").expose = n.data.get "conditions"
  flags : Block.AreFlags n.flags
  distinct : n.flags.Distinct
  step : n.kind.isCondition = false →
    Entry.kind n.data = .step n.kind ∧ n.label = .null ∧ n.flags = []

/-- The if block of a condition is read back as the condition. -/
theorem readCondition_ifEntry (h : Restorable limits n) (hkind : n.kind.isCondition = true) :
    readCondition limits n.id (Block.ifEntry n [assign (g.whenTrue? n.id)]
      [assign (g.whenFalse? n.id)]) = .ok ⟨reread limits n, exitStates g n⟩ := by
  obtain ⟨data, hdata⟩ := h.normal hkind
  have hpayload : Condition.payload limits (Block.conditionsOf n) = .ok data := by
    rw [Condition.payload_conditionsOf (h.whole hkind), hdata]
  have hcondition := NodeKind.isCondition_iff.1 hkind
  unfold readCondition
  rw [Entries.get, Block.get?_ifEntry_if, Option.getD_some, hpayload, Entries.get,
    Block.get?_ifEntry_then, Option.getD_some, readBranch_assign, Entries.get,
    Block.get?_ifEntry_else (by simp), Option.getD_some, readBranch_assign,
    Block.get_ifEntry_alias (h.flags.has_eq_false (by decide)), Block.flagsOf_ifEntry h.distinct]
  simp only [reread, rereadData, exitStates, exits, hcondition, hdata]
  rfl

theorem branchOf?_single {o : Origin} {es : Entries} (h : Entry.kind es = .ifBlock) :
    branchOf? [.map o es] = some es := by
  rw [branchOf?, h]
  rfl

theorem branchOf?_skip {v : Value} {o : Origin} {es : Entries} (hskip : (assigned? v).isSome = true)
    (h : Entry.kind es = .ifBlock) : branchOf? [v, .map o es] = some es := by
  rw [branchOf?, h, hskip]
  rfl

/-- An assignment is no block. -/
theorem branchOf?_assign (v : Value) (target : Option String) :
    branchOf? [v, assign target] = none := by
  unfold assign assignText Value.ofEntries
  rw [branchOf?]
  exact if_neg (by rw [Bool.and_eq_true]; exact fun h => nomatch h.2)

/-- The steps of an option, as a reader goes through them: a mapping comes first. -/
theorem exists_steps_eq_cons (g : Graph) (joins : List (String × Option String)) (n : Node) :
    ∃ o first rest, (steps g joins n).map Value.expose = .map o first :: rest := by
  unfold steps
  split
  · dsimp only
    split
    · exact ⟨_, _, _, rfl⟩
    · exact ⟨_, _, _, rfl⟩
  · exact ⟨_, _, _, rfl⟩

theorem map_expose_steps (hkind : n.kind.isCondition = false) :
    (steps g joins n).map Value.expose = [.map {} n.data, assign (g.successor? n.id)] := by
  unfold steps
  rw [hkind]
  rfl

/-- The block of a condition is found in its option, behind the assignment for a disabled block. -/
theorem branchOf?_steps (hkind : n.kind.isCondition = true) :
    branchOf? ((steps g joins n).map Value.expose) = some (Block.ifEntry n
      [assign (g.whenTrue? n.id)] [assign (g.whenFalse? n.id)]) := by
  have hif : Entry.kind (Block.ifEntry n [assign (g.whenTrue? n.id)]
      [assign (g.whenFalse? n.id)]) = .ifBlock :=
    Entry.kind_of_has_if (Entries.has_of_get?_eq_some Block.get?_ifEntry_if)
  unfold steps
  rw [if_pos hkind]
  dsimp only
  split
  · exact branchOf?_skip (assigned?_assignText _ ▸ rfl) hif
  · exact branchOf?_single hif

/-- An option is read back as its node and the states that follow. -/
theorem readOption_option (h : Restorable limits n) :
    readOption limits (option g joins n) = .ok ⟨reread limits n, exitStates g n⟩ := by
  have hitems : items (Entries.get [(.str "conditions", .ofItems [stateTest n.id]),
      (.str "sequence", .ofItems (steps g joins n))] "sequence")
      = (steps g joins n).map Value.expose := rfl
  have hexpose (es : Entries) : (Value.ofEntries es).expose = .map {} es := rfl
  unfold readOption option
  rw [hexpose]
  dsimp only
  rw [Outcome.ok_bind, readTest_option h.id, Outcome.ok_bind, hitems]
  -- what comes first in the option tells a condition from a step
  cases hkind : n.kind.isCondition with
  | true =>
    obtain ⟨o, first, rest, hsteps⟩ := exists_steps_eq_cons g joins n
    rw [hsteps]
    dsimp only
    rw [← hsteps, branchOf?_steps hkind]
    exact readCondition_ifEntry h hkind
  | false =>
    obtain ⟨hstep, hlabel, hflags⟩ := h.step hkind
    have hnode : reread limits n = { id := n.id, kind := n.kind, data := n.data } := by
      simp [reread, rereadData, hkind, hlabel, hflags, Entry.flagsOf, Value.ifTruthy, Value.truthy]
    rw [map_expose_steps hkind]
    dsimp only
    rw [branchOf?_assign, hstep, hnode]
    simp [exitStates, exits, hkind]
    rfl

/-! ## Decoded loops -/

/-- The ids of the triggers of a loop. -/
def triggerNames (count : Nat) (ids : List String) : List String :=
  if ids.isEmpty then numberedTriggers count else ids

/-- The nodes of the triggers of a loop. -/
def startNodes (names : List String) (triggers : List Entries) : List Node :=
  (names.zip triggers).map fun t => { id := t.1, kind := .trigger, data := t.2 }

/-- Where a run goes on, by what was read: from each trigger to its first state, and from each state
to those behind it. -/
def transitions (names : List String) (start : String) (decoded : List Decoded) :
    List (String × Option String × String) :=
  (names.zipIdx.map fun t => (t.1, (none : Option String), Routing.resolve start t.2)).filter
      (·.2.2 != "")
    ++ decoded.flatMap fun d => d.exits.map fun x => (d.node.id, x.1, x.2)

/-- A loop that is decoded: without actions there are only triggers, and otherwise the graph is made
of the options that are read, with an edge for each transition. -/
theorem decode_eq_ok {triggers : List Entries} {actions : List Value} {ids : List String} :
    decode limits triggers actions ids = .ok g ↔
      (actions = [] ∧ g = { nodes := startNodes (triggerNames triggers.length ids) triggers })
      ∨ actions ≠ [] ∧ ∃ start options decoded edges, readLoop actions = .ok (start, options)
        ∧ options.mapM (readOption limits) = .ok decoded
        ∧ (transitions (triggerNames triggers.length ids) start decoded).mapM (fun t =>
            readTransition ((startNodes (triggerNames triggers.length ids) triggers
              ++ decoded.map (·.node)).map (·.id)) t.1 t.2.2 t.2.1) = .ok edges
        ∧ g = { nodes := startNodes (triggerNames triggers.length ids) triggers
                  ++ decoded.map (·.node)
                edges := edges.filterMap id } := by
  -- a decoding is a chain of steps, of which each either fails or hands its result on
  cases actions with
  | nil =>
    refine ⟨fun h => ?_, ?_⟩
    · cases h
      exact .inl ⟨rfl, rfl⟩
    · rintro (⟨-, rfl⟩ | ⟨hne, -⟩)
      · rfl
      · exact absurd rfl hne
  | cons action actions =>
    refine ⟨fun h => ?_, ?_⟩
    · obtain ⟨⟨start, options⟩, hloop, h⟩ := Outcome.bind_eq_ok.1 h
      obtain ⟨decoded, hdecoded, h⟩ := Outcome.bind_eq_ok.1 h
      obtain ⟨edges, hedges, h⟩ := Outcome.bind_eq_ok.1 h
      cases h
      exact .inr ⟨List.cons_ne_nil _ _, start, options, decoded, edges, hloop, hdecoded, hedges, rfl⟩
    · rintro (⟨hnil, -⟩ | ⟨-, start, options, decoded, edges, hloop, hdecoded, hedges, rfl⟩)
      · cases hnil
      · exact Outcome.bind_eq_ok.2 ⟨_, hloop, Outcome.bind_eq_ok.2 ⟨_, hdecoded,
          Outcome.bind_eq_ok.2 ⟨_, hedges, rfl⟩⟩⟩

/-- A node of a decoded loop is that of a trigger, or of an option that was read. -/
theorem of_mem_decode {triggers : List Entries} {actions : List Value} {ids : List String}
    (h : decode limits triggers actions ids = .ok g) (hn : n ∈ g.nodes) :
    (∃ id, ∃ es ∈ triggers, n = { id, kind := .trigger, data := es })
      ∨ ∃ start options, readLoop actions = .ok (start, options)
        ∧ ∃ v ∈ options, ∃ d, readOption limits v = .ok d ∧ n = d.node := by
  have hstart {names : List String} (hn : n ∈ startNodes names triggers) :
      ∃ id, ∃ es ∈ triggers, n = { id, kind := .trigger, data := es } := by
    obtain ⟨t, ht, rfl⟩ := List.mem_map.1 hn
    exact ⟨t.1, t.2, (List.of_mem_zip ht).2, rfl⟩
  obtain ⟨-, rfl⟩ | ⟨-, start, options, decoded, edges, hloop, hdecoded, -, rfl⟩ := decode_eq_ok.1 h
  · exact .inl (hstart hn)
  · rcases List.mem_append.1 hn with hn | hn
    · exact .inl (hstart hn)
    · obtain ⟨d, hd, rfl⟩ := List.mem_map.1 hn
      obtain ⟨v, hv, hread⟩ := Outcome.exists_of_mem_mapM hdecoded hd
      exact .inr ⟨start, options, hloop, v, hv, d, hread, rfl⟩

end Dispatch

end Automation
