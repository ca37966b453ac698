import Automation.Proofs.Dispatch.Writing
import Automation.Proofs.Document.Regular
import Automation.Proofs.Document.Sheet

/-!
# Documents of what an editor keeps

A graph and what an editor keeps of it are walked alike (`Graph.redrawn_edited`) and break the same
invariants (`Graph.problems_edited`), so they are written by the same strategy or refused with the
same error, and there are the same notices about them. Of the documents only variables and the trace
differ, which are copies (`Document.matches_transpile_edited`).

So a graph that was read from an editor's shape or from a regular document can go through an editor
before it is written (`Document.exists_ofValue_toValue`). One thing gets lost: an empty trace is not
kept, and is not written afterwards (`Document.exists_trace_lost`).
-/

namespace Automation

open Entries

/-- A value or a copy of it. -/
def Value.Renewed (v v' : Value) : Prop := v' = v ∨ v' = v.detach

theorem Value.Renewed.refl (v : Value) : v.Renewed v := .inl rfl

/-- A value that was renewed can be written just if it could be before. -/
theorem Value.Renewed.textAlike {v v' : Value} (h : v.Renewed v') : v.TextAlike v' := by
  rcases h with rfl | rfl
  · rfl
  · exact hasText_detach v

/-- Two documents of one strategy, the second with copies of values of the first. -/
structure Written.Renewed (w w' : Written) : Prop where
  strategy : w'.strategy = w.strategy
  config : Related Value.Renewed w.config w'.config

/-- A name that an editor keeps counts as true when the name does, and is the same then. -/
theorem Value.ifTruthy_named (v : Value) : v.named.ifTruthy = v.ifTruthy := by
  unfold named ifTruthy
  split
  · rename_i h
    rw [Option.getD_some, if_pos h]
  · rfl

theorem Value.truthy_named (v : Value) : v.named.truthy = v.truthy := by
  have h (v : Value) : v.truthy = v.ifTruthy.isSome := by
    unfold ifTruthy
    split <;> simp_all
  rw [h, ifTruthy_named, ← h]

/-! ## The graph -/

namespace Graph

variable (g : Graph)

/-- An editor keeps the ids of nodes. -/
theorem map_id_edited : g.edited.nodes.map (·.id) = g.nodes.map (·.id) := by
  rw [edited, List.map_map]
  rfl

/-- An editor keeps the kinds of nodes. -/
theorem kind?_edited (id : String) : g.edited.kind? id = g.kind? id := by
  have hlast : g.edited.lastNode? id = (g.lastNode? id).map Node.edited := by
    unfold lastNode?
    rw [edited, ← List.map_reverse, List.find?_map]
    rfl
  unfold kind?
  rw [hlast, Option.map_map]
  rfl

theorem triggers_edited : g.edited.triggers = g.triggers.map Node.edited :=
  filter_map_of_forall (fun _ => rfl) g.nodes

/-- An editor keeps the edges of each node, in their order. -/
theorem outEdges_edited (id : String) : g.edited.outEdges id = (g.outEdges id).map Edge.edited := by
  unfold outEdges outgoing
  dsimp only
  rw [edited, filter_map_of_forall fun _ => rfl, filter_map_of_forall fun _ => rfl,
    filter_map_of_forall fun _ => rfl, ← List.map_append]
  rfl

/-- No walk tells a graph from what an editor keeps of it. -/
theorem redrawn_edited : Redrawn Edge.edited g g.edited where
  kept := ⟨fun _ => rfl, fun _ => rfl⟩
  kind? := g.kind?_edited
  triggers := by
    rw [triggers_edited, List.map_map]
    rfl
  outEdges := g.outEdges_edited
  edges := .refl _

theorem hasNode_edited (id : String) : g.edited.hasNode id = g.hasNode id := by
  unfold hasNode
  rw [edited, List.any_map]
  rfl

/-- An editor neither breaks invariants nor mends them. -/
theorem problems_edited : g.edited.problems = g.problems := by
  -- problems are about ids, kinds and ends, and an editor keeps all of them
  have hjoined (e : Edge) : g.edited.isJoined e.edited = g.isJoined e := by
    unfold isJoined
    rw [hasNode_edited, hasNode_edited]
    rfl
  have hnodes (seen : List String) (nodes : List Node) :
      nodeProblems seen (nodes.map Node.edited) = nodeProblems seen nodes := by
    induction nodes generalizing seen with
    | nil => rfl
    | cons n nodes ih =>
      rw [List.map_cons, nodeProblems, nodeProblems, ih, ih]
      rfl
  have hedge (e : Edge) : g.edited.edgeProblem e.edited = g.edgeProblem e := by
    unfold edgeProblem
    rw [hjoined, kind?_edited]
    rfl
  have hfilter : g.edited.edges.filter g.edited.isJoined
      = (g.edges.filter g.isJoined).map Edge.edited := filter_map_of_forall hjoined g.edges
  have hsource (source : String) (es : List Edge) : (es.map Edge.edited).filter (·.source == source)
      = (es.filter (·.source == source)).map Edge.edited := filter_map_of_forall (fun _ => rfl) es
  unfold problems branchingProblems isConditionAt
  dsimp only
  rw [hfilter, List.map_map]
  simp only [kind?_edited, hsource, List.map_map]
  congr 1
  · congr 1
    · congr 1
      · exact hnodes [] g.nodes
      · rw [edited, List.any_map]
        rfl
    · rw [edited, List.flatMap_map]
      exact List.flatMap_congr fun e _ => hedge e

variable {g} {limits : Limits}

/-- An edited graph passes the checks that the graph passes. -/
theorem check_edited : g.edited.check limits = g.check limits := by
  unfold check
  rw [problems_edited, edited, List.length_map]

/-- An edited graph is told the same notices: none of them is about what an editor leaves out. -/
theorem notices_edited : g.edited.notices limits = g.notices limits := by
  unfold notices
  rw [edited, List.foldlM_map]
  rfl

/-- Joins depend on ids and kinds, which an editor keeps. -/
theorem blockJoins_edited : g.edited.blockJoins = g.blockJoins :=
  (redrawn_edited g).blockJoins_eq g.map_id_edited

/-- The edited graph is a counterpart of the graph, under the same ids. -/
theorem WellFormed.counterpart_edited (hwf : g.WellFormed) :
    Counterpart (Equiv.refl String) (fun m n => n = m.edited) g g.edited where
  left := hwf
  right := (problems_edited g).trans hwf
  node := by
    rintro m _ rfl
    exact ⟨rfl, rfl, Value.truthy_named m.label, rfl⟩
  nodes := ⟨_, List.forall₂_map_right_iff.2 (List.forall₂_same.2 fun _ _ => rfl), .refl _⟩
  triggers := by
    rw [triggers_edited, List.forall₂_map_right_iff]
    exact List.forall₂_same.2 fun _ _ => rfl
  edges := by
    rw [edited, List.map_map]
    rfl

end Graph

namespace Document

open Automation.Graph Outcome Value

variable {g : Graph} {limits : Limits} {r r' : TopologyReport}

/-! ## The document -/

theorem detach_texts (texts : List String) : (Value.ofTexts texts).detach = .ofTexts texts := by
  show Value.ofItems (detachItems (texts.map .str)) = .ofItems (texts.map .str)
  rw [detachItems_eq_map, List.map_map]
  rfl

theorem detach_number (x : Number) : x.toValue.detach = x.toValue := by
  cases x <;> rfl

theorem detach_position (p : Position) : p.toValue.detach = p.toValue := by
  unfold Position.toValue
  rw [detach_ofEntries, detachEntries, detachEntries, detach_number, detach_number]
  rfl

/-- Positions have nothing to share. -/
theorem detach_positionEntries (nodes : List Node) :
    detachEntries (Metadata.positionEntries nodes) = Metadata.positionEntries nodes := by
  have hall : ∀ (nodes : List Node) (acc : Entries), detachEntries acc = acc →
      detachEntries (nodes.foldl
        (fun acc n => n.position.elim acc fun p => Entries.set acc n.id p.toValue) acc)
      = nodes.foldl
        (fun acc n => n.position.elim acc fun p => Entries.set acc n.id p.toValue) acc := by
    intro nodes
    induction nodes with
    | nil => exact fun _ hacc => hacc
    | cons n nodes ih =>
      intro acc hacc
      rw [List.foldl_cons]
      refine ih _ ?_
      cases n.position with
      | none => exact hacc
      | some p => rw [Option.elim_some, detachEntries_set, hacc, detach_position]
  rw [positionEntries_eq_foldl]
  exact hall nodes [] rfl

/-- The metadata of a graph have nothing to share. -/
theorem detach_metadata (g : Graph) (strategy : String) (order : List String) :
    detachEntries (Metadata.encode g strategy order) = Metadata.encode g strategy order := by
  have hid : (if g.id = "" then .null else .str g.id : Value).detach
      = if g.id = "" then .null else .str g.id := by
    split <;> rfl
  unfold Metadata.encode
  simp only [detachEntries, hid, detach_texts, detach_number, detach_ofEntries,
    detach_positionEntries]
  rfl

/-- The variables are copies. -/
theorem vars_edited (g : Graph) (strategy : Strategy) (order : List String) :
    vars g.edited strategy order = detachEntries (vars g strategy order) := by
  have hpositions : Metadata.positionEntries g.edited.nodes = Metadata.positionEntries g.nodes := by
    rw [positionEntries_eq_foldl, positionEntries_eq_foldl, edited, List.foldl_map]
    rfl
  have hblock : Metadata.encode g.edited strategy.name order
      = Metadata.encode g strategy.name order := by
    unfold Metadata.encode
    rw [hpositions]
    rfl
  unfold vars
  rw [detachEntries_set, detach_ofEntries, detach_metadata, hblock]
  rfl

/-- Only variables and the trace differ, which are copies. -/
theorem related_assemble (htrace : g.settings.trace ≠ some []) (strategy : Strategy)
    (order : List String) (triggers conditions actions : List Value) :
    Related Renewed (assemble g strategy order triggers conditions actions)
      (assemble g.edited strategy order triggers conditions actions) := by
  have hhead : SameHead g g.edited := ⟨rfl, rfl, rfl⟩
  refine forall₂_assemble Renewed.refl hhead ?_ (.inr ?_) (.refl _) rfl (.refl _) (.refl _)
  · show Option.Rel Renewed _ (((g.settings.trace.filter (!·.isEmpty)).map detachEntries).map
      Value.ofEntries)
    cases h : g.settings.trace with
    | none => exact .none
    | some es =>
      cases es with
      | nil => exact absurd h htrace
      | cons e es => exact .some (.inr rfl)
  · rw [vars_edited, detach_ofEntries]

/-- Both documents can be put into text, or neither. -/
theorem matches_inText_of_related {c c' : Entries} (h : Related Renewed c c') :
    Matches (Related Renewed) (inText c) (inText c') := by
  have htext : (Value.ofEntries c').hasText = (Value.ofEntries c).hasText :=
    hasText_ofEntries_of_forall₂ (h.imp fun _ _ he => ⟨he.1, he.2.textAlike⟩)
  unfold inText
  rw [htext]
  split
  · exact .ok h
  · exact .error _

/-- What is written is a document of the strategy. -/
theorem strategy_of_written_eq_ok {strategy : Strategy} {write : Graph → Outcome Entries}
    {w : Written} (h : written strategy g write = .ok w) : w.strategy = strategy := by
  obtain ⟨sheet, -, h⟩ := bind_eq_ok.1 h
  obtain ⟨config, -, h⟩ := bind_eq_ok.1 h
  obtain ⟨text, -, h⟩ := bind_eq_ok.1 h
  cases h
  rfl

/-- Documents with renewed values are written from both graphs or from neither. -/
theorem matches_written_edited {strategy : Strategy} {write write' : Graph → Outcome Entries}
    {g' : Graph} (h : Matches (Related Renewed) ((written strategy g write).map (·.config))
      ((written strategy g' write').map (·.config))) :
    Matches Written.Renewed (written strategy g write) (written strategy g' write') := by
  -- the strategies agree in any case, so only the entries are left to compare
  cases hw : written strategy g write with
  | error failure =>
    cases hw' : written strategy g' write' with
    | error failure' =>
      rw [hw, hw'] at h
      cases h
      exact .error _
    | ok w' =>
      rw [hw, hw'] at h
      cases h
  | ok w =>
    cases hw' : written strategy g' write' with
    | error failure' =>
      rw [hw, hw'] at h
      cases h
    | ok w' =>
      rw [hw, hw'] at h
      cases h with
      | ok h =>
        exact .ok ⟨(strategy_of_written_eq_ok hw').trans (strategy_of_written_eq_ok hw).symm, h⟩

/-! ## Branching blocks -/

/-- An editor leaves out only what is not written. -/
theorem writtenAlike_edited (n : Node) : n.WrittenAlike n.edited :=
  ⟨rfl, ifTruthy_named n.label, rfl⟩

/-- A graph and its edited form are written as blocks alike. -/
theorem matches_nativeEntries_edited (hwf : g.WellFormed) (htrace : g.settings.trace ≠ some [])
    (hr : r.Counterpart (Equiv.refl String) r') :
    Matches (Related Renewed) (nativeEntries limits r g) (nativeEntries limits r' g.edited) := by
  have halike (m n : Node) (h : n = m.edited) : m.WrittenAlike n := h ▸ writtenAlike_edited m
  refine (hwf.counterpart_edited.matches_program hr).bind fun p q hpq => .ok ?_
  have hids := hwf.counterpart_edited.map_id hpq.nodes
  rw [Equiv.coe_refl, List.map_id] at hids
  rw [hids, Program.payloads_eq halike hpq.triggers, Program.payloads_eq halike hpq.gates,
    hpq.actions_eq halike]
  exact related_assemble htrace ..

/-! ## Dispatch loops -/

/-- A graph and its edited form are emulated by the same actions. -/
theorem actions_edited (joins : List (String × Option String)) (body : List Node) :
    Dispatch.actions limits g.edited joins (body.map Node.edited)
      = Dispatch.actions limits g joins body :=
  Dispatch.actions_congr (redrawn_edited g) rfl limits joins (List.forall₂_map_right_iff.2
    (List.forall₂_same.2 fun n _ =>
      Dispatch.runAlike_of_writtenAlike (writtenAlike_edited n) rfl rfl))

/-- The loop goes through the edited forms of the same nodes. -/
theorem loopNodes_edited (hr : r'.reachable = r.reachable) :
    loopNodes r' g.edited = (loopNodes r g).map Node.edited := by
  unfold loopNodes
  rw [hr]
  exact filter_map_of_forall (fun _ => rfl) g.nodes

/-- A graph and its edited form are emulated alike. -/
theorem matches_dispatchEntries_edited (htrace : g.settings.trace ≠ some [])
    (hr : r'.reachable = r.reachable) :
    Matches (Related Renewed) (dispatchEntries limits r g)
      (dispatchEntries limits r' g.edited) := by
  unfold dispatchEntries
  rw [blockJoins_edited, loopNodes_edited hr]
  refine (Matches.refl (fun _ => rfl) g.blockJoins).bind fun joins _ heq => heq ▸ .ok ?_
  have hpayloads : Program.payloads g.edited.triggers = Program.payloads g.triggers := by
    rw [triggers_edited, Program.payloads, List.map_map]
    rfl
  rw [actions_edited, hpayloads, triggers_edited, ← List.map_append, List.map_map]
  exact related_assemble htrace ..

/-! ## Both strategies -/

section Report

variable (hr : r' = { r with backEdges := r.backEdges.map Edge.edited })

include hr

theorem isNative_edited : r'.isNative = r.isNative := by
  rw [hr, TopologyReport.isNative, List.isEmpty_map, TopologyReport.isNative]

theorem counterpart_edited : r.Counterpart (Equiv.refl String) r' where
  isNative := isNative_edited hr
  entry := by rw [hr, Equiv.coe_refl, Option.map_id]; rfl
  join? id := by rw [hr, Equiv.coe_refl, Option.map_id]; rfl

/-- An edge is described by its id and its ends. -/
theorem conflictMessage_edited : r'.conflictMessage = r.conflictMessage := by
  unfold TopologyReport.conflictMessage
  rw [hr]
  dsimp only
  rw [List.isEmpty_map, List.map_map]
  rfl

/-- The notices about an emulation are the same. -/
theorem loopNotices_edited : loopNotices limits r' g.edited = loopNotices limits r g := by
  unfold loopNotices TopologyReport.hasCycles omittedNotice
  rw [loopNodes_edited (by rw [hr]), List.isEmpty_map, hr, List.isEmpty_map]
  rfl

end Report

variable (limits) in
/-- Both graphs are reported on alike, with the same notices, or neither is. -/
theorem matches_examine_edited (g : Graph) : Matches
    (fun x x' => x'.1 = { x.1 with backEdges := x.1.backEdges.map Edge.edited } ∧ x'.2 = x.2
      ∧ g.WellFormed)
    (examine limits g) (examine limits g.edited) := by
  have hanalyze := (redrawn_edited g).matches_analyze g.map_id_edited (@check_edited g limits)
  unfold examine
  rw [notices_edited]
  generalize hr : g.analyze limits = o at hanalyze ⊢
  generalize g.edited.analyze limits = o' at hanalyze ⊢
  cases hanalyze with
  | error failure => exact .error failure
  | ok heq =>
    have hwf := (check_eq_ok_iff.1 (of_analyze_eq_ok hr).1).2
    rw [Outcome.ok_bind, Outcome.ok_bind]
    exact (Matches.refl (fun _ => rfl) (g.notices limits)).bind fun _ _ h => .ok ⟨heq, h.symm, hwf⟩

/-- Both graphs are written with branching blocks, or refused with the same error. -/
theorem matches_native_edited (htrace : g.settings.trace ≠ some []) :
    (native limits g.edited).2 = (native limits g).2
      ∧ Matches Written.Renewed (native limits g).1 (native limits g.edited).1 := by
  have hexamine := matches_examine_edited limits g
  unfold native
  generalize examine limits g = o at hexamine ⊢
  generalize examine limits g.edited = o' at hexamine ⊢
  -- both are examined alike, and then written or refused alike
  cases hexamine with
  | error failure => exact ⟨rfl, .error failure⟩
  | @ok x x' h =>
    obtain ⟨r, notices⟩ := x
    obtain ⟨r', notices'⟩ := x'
    obtain ⟨hr, hnotices, hwf⟩ := h
    dsimp only at hr hnotices ⊢
    rw [isNative_edited hr, conflictMessage_edited hr, hnotices]
    split
    · refine ⟨by rw [hr]; rfl, matches_written_edited ?_⟩
      rw [config_native hwf, config_native ((problems_edited g).trans hwf)]
      exact (matches_nativeEntries_edited hwf htrace (counterpart_edited hr)).bind
        fun _ _ h => matches_inText_of_related h
    · exact ⟨rfl, .error _⟩

/-- Both graphs are written with a dispatch loop, or refused with the same error. -/
theorem matches_dispatch_edited (htrace : g.settings.trace ≠ some []) :
    (dispatch limits g.edited).2 = (dispatch limits g).2
      ∧ Matches Written.Renewed (dispatch limits g).1 (dispatch limits g.edited).1 := by
  have hexamine := matches_examine_edited limits g
  unfold dispatch
  generalize examine limits g = o at hexamine ⊢
  generalize examine limits g.edited = o' at hexamine ⊢
  cases hexamine with
  | error failure => exact ⟨rfl, .error failure⟩
  | @ok x x' h =>
    obtain ⟨r, notices⟩ := x
    obtain ⟨r', notices'⟩ := x'
    obtain ⟨hr, hnotices, hwf⟩ := h
    dsimp only at hr hnotices ⊢
    refine ⟨by rw [loopNotices_edited hr, hnotices], matches_written_edited ?_⟩
    rw [config_dispatch, config_dispatch]
    exact (matches_dispatchEntries_edited htrace (by rw [hr])).bind
      fun _ _ h => matches_inText_of_related h

/-- An edited graph is written by the same strategy. -/
theorem classify_edited : g.edited.classify limits = g.classify limits := by
  unfold classify
  refine ((redrawn_edited g).matches_analyze g.map_id_edited check_edited).bind_eq fun r r' hr => ?_
  rw [TopologyReport.strategy, isNative_edited hr, TopologyReport.strategy]

/-- The same strategy is selected for both graphs. -/
theorem selectStrategy_edited (forced : Value) :
    selectStrategy limits g.edited forced = selectStrategy limits g forced := by
  have hstrategy : g.edited.strategy = some Strategy.dispatch.name
      ↔ g.strategy = some Strategy.dispatch.name := by
    show g.strategy.filter (· != "") = _ ↔ _
    rw [Option.filter_eq_some_iff]
    exact and_iff_left rfl
  unfold selectStrategy
  rw [classify_edited]
  simp only [hstrategy]

/-- A graph and what an editor keeps of it are written alike, whichever strategy is asked for: both
are written, by the same strategy and with the same notices, and the documents are the same but for
copies of variables and of the trace; or both are refused with the same error. -/
theorem matches_transpile_edited (limits : Limits) (htrace : g.settings.trace ≠ some [])
    (forced : Value) :
    (transpile limits g.edited forced).2 = (transpile limits g forced).2
      ∧ Matches Written.Renewed (transpile limits g forced).1
          (transpile limits g.edited forced).1 := by
  unfold transpile
  dsimp only
  rw [check_edited, selectStrategy_edited]
  split
  · exact ⟨rfl, .error _⟩
  · exact matches_native_edited htrace
  · exact matches_dispatch_edited htrace

/-! ## Through an editor -/

/-- A graph that was read, from an editor's shape or from a regular document. -/
inductive Given (g : Graph) : Prop where
  | shape {v : Value} (h : Graph.ofValue v = .ok g)
  | document {limits : Limits} {freshId : String} {document : Value} {reading : Nat} {raw : Entries}
    (hload : load document reading = .ok raw) (hraw : (Value.ofEntries raw).Regular)
    (h : (parse limits freshId document reading).1 = .ok g)

/-- A graph that comes from an editor or from a document can be edited. -/
theorem Given.editable (h : Given g) : g.Editable := by
  cases h with
  | shape h => exact editable_of_ofValue h
  | document hload hraw h => exact editable_of_parse hload hraw h

/-- A graph that was read is read again from its editor's shape, and what is read is written as the
graph is: by the same strategy and with the same notices, as a document that is the same but for
copies of variables and of the trace, or neither is written, and for the same reason. This takes a
graph without an empty trace. -/
theorem exists_ofValue_toValue (h : Given g) (htrace : g.settings.trace ≠ some []) :
    ∃ g', Graph.ofValue g.toValue = .ok g' ∧ ∀ limits forced,
      (transpile limits g' forced).2 = (transpile limits g forced).2
        ∧ Matches Written.Renewed (transpile limits g forced).1 (transpile limits g' forced).1 :=
  ⟨g.edited, ofValue_toValue h.editable, fun limits forced =>
    matches_transpile_edited limits htrace forced⟩

/-- A lamp that a trigger turns on, with some settings, as an editor has it. -/
def hallLamp (settings : Entries) : Value :=
  .ofEntries [
    (.str "nodes", .ofItems [
      .ofEntries [(.str "id", .str "t1"), (.str "type", .str "trigger"),
        (.str "data", .ofEntries [(.str "trigger", .str "time")]), (.str "label", .str "")],
      .ofEntries [(.str "id", .str "on"), (.str "type", .str "action"),
        (.str "data", .ofEntries [(.str "action", .str "light.turn_on")])]]),
    (.str "edges", .ofItems [.ofEntries [(.str "source", .str "t1"), (.str "target", .str "on")]]),
    (.str "settings", .ofEntries settings)]

theorem exists_ofValue_toValue_hallLamp : ∃ g g' w w',
    Graph.ofValue (hallLamp [(.str "mode", .str "restart")]) = .ok g
      ∧ Graph.ofValue g.toValue = .ok g' ∧ (transpile {} g .null).1 = .ok w
      ∧ (transpile {} g' .null).1 = .ok w' ∧ w.Renewed w' := by
  obtain ⟨g, hg⟩ : ∃ g, Graph.ofValue (hallLamp [(.str "mode", .str "restart")]) = .ok g :=
    isSome_toOption.1 (by decide +kernel)
  have hwritten : ((Graph.ofValue (hallLamp [(.str "mode", .str "restart")])
      >>= fun g => (transpile {} g .null).1).toOption.isSome
    && (Graph.ofValue (hallLamp [(.str "mode", .str "restart")])).toOption.any
      (·.settings.trace.isNone)) = true := by decide +kernel
  rw [hg, Outcome.ok_bind, Bool.and_eq_true, isSome_toOption] at hwritten
  obtain ⟨⟨w, hw⟩, hnone⟩ := hwritten
  have htrace : g.settings.trace ≠ some [] := fun heq => by
    rw [Except.toOption, Option.any_some, heq] at hnone
    cases hnone
  obtain ⟨g', hg', hall⟩ := exists_ofValue_toValue (.shape hg) htrace
  obtain ⟨w', hw', hrenewed⟩ := (hall {} .null).2.exists_of_left hw
  exact ⟨g, g', w, w', hg, hg', hw, hw', hrenewed⟩

/-- An empty trace is written, but not when the graph has gone through an editor. -/
theorem exists_trace_lost : ∃ g g' w w',
    Graph.ofValue (hallLamp [(.str "trace", .ofEntries [])]) = .ok g
      ∧ Graph.ofValue g.toValue = .ok g' ∧ (transpile {} g .null).1 = .ok w
      ∧ (transpile {} g' .null).1 = .ok w' ∧ w.config.has "trace" = true
      ∧ w'.config.has "trace" = false := by
  have hwritten : ((do
      let g ← Graph.ofValue (hallLamp [(.str "trace", .ofEntries [])])
      let g' ← Graph.ofValue g.toValue
      return ((← (transpile {} g .null).1).config.has "trace",
        (← (transpile {} g' .null).1).config.has "trace") : Outcome (Bool × Bool)).toOption
      == some (true, false)) = true := by decide +kernel
  obtain ⟨g, hg, h⟩ := bind_eq_ok.1 (toOption_eq_some.1 (beq_iff_eq.1 hwritten))
  obtain ⟨g', hg', h⟩ := bind_eq_ok.1 h
  obtain ⟨w, hw, h⟩ := bind_eq_ok.1 h
  obtain ⟨w', hw', h⟩ := bind_eq_ok.1 h
  obtain ⟨htrace, hlost⟩ := Prod.mk.inj (Except.ok.inj h)
  exact ⟨g, g', w, w', hg, hg', hw, hw', htrace, hlost⟩

end Document

end Automation
