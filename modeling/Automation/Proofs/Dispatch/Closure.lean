import Automation.Proofs.Dispatch.LoopGraph
import Automation.Proofs.Document.Answers

/-!
# Dispatch loops are closed

Any well-formed graph can be run by a dispatch loop, whatever its shape
(`Document.exists_dispatch`): the loop has an option for each node that triggers lead to, and every
state that it assigns stops it or is the state of exactly one option. That holds of the joins that
skipped blocks jump to as it does of the ends of edges, and of the first state whichever trigger
fires (`Routing.resolve_render_eq`). Its values have to be such that YAML has a text for each: an
integer with more digits than are ever written has none (`Document.dispatch_meteredLamp`).
-/

namespace Automation

open Text

/-! ## First states -/

namespace Routing

/-- The text of a state: a name, perhaps with a line feed behind it, as ids may have one. -/
def IsState (cs : List Char) : Prop := ∃ name, IsName name ∧ (cs = name ∨ cs = name ++ ['\n'])

theorem isState_stateOf {target : Option String} (h : ∀ id ∈ target, isId id = true) :
    IsState (stateOf target).toList := by
  have hend : IsState endState.toList := ⟨_, isName_endState, .inl rfl⟩
  cases target with
  | none => exact hend
  | some id =>
    by_cases hempty : id = ""
    · rwa [stateOf, if_pos hempty]
    · rw [stateOf, if_neg hempty]
      have hid := h id rfl
      unfold isId dropFinalBreak at hid
      dsimp only at hid
      split at hid
      · rename_i hbreak
        obtain ⟨hne, hchars⟩ := Bool.and_eq_true_iff.1 hid
        refine ⟨id.toList.dropLast, ⟨by simpa using hne, List.all_eq_true.1 hchars⟩, .inr ?_⟩
        exact (List.dropLast_append_getLast? _ hbreak).symm
      · obtain ⟨hne, hchars⟩ := Bool.and_eq_true_iff.1 hid
        exact ⟨id.toList, ⟨by simpa using hne, List.all_eq_true.1 hchars⟩, .inl rfl⟩

/-- Nothing but the route that was written is found in it, if any is. -/
theorem mem_routes_renderRoute {target : Option String} (h : IsState (stateOf target).toList)
    (index : Nat) (rest : List Char) :
    ∀ x ∈ routes ((renderRoute index target).toList ++ "\x7b%".toList ++ rest),
      x.2 = (stateOf target).toList ∨ x ∈ routes ("\x7b%".toList ++ rest) := by
  obtain ⟨name, hname, hstate | hstate⟩ := h
  · rw [routes_renderRoute (hstate ▸ hname)]
    intro x hx
    rcases List.mem_cons.1 hx with rfl | hx
    · exact .inl rfl
    · exact .inr hx
  · -- the line feed stands where the statement should follow
    have hdigits : (toString index).toList ≠ [] := by
      rw [Nat.toString_eq_repr, Nat.toList_repr]
      exact Nat.toDigits_ne_nil
    have htext : (renderRoute index target).toList ++ "\x7b%".toList ++ rest
        = ("\x7b% ".toList ++ (if index = 0 then "if" else "elif").toList ++ [' '])
          ++ ("trigger.idx == \"".toList ++ ((toString index).toList ++ ("\" %\x7d".toList
            ++ ((name ++ ['\n']) ++ "\x7b%".toList ++ rest)))) := by
      rw [← hstate]
      simp [renderRoute]
    have hfront : 't' ∉ "\x7b% ".toList ++ (if index = 0 then "if" else "elif").toList ++ [' '] := by
      split <;> decide
    have hbehind : ((name ++ ['\n']) ++ "\x7b%".toList ++ rest).dropWhile isIdChar
        = '\n' :: ("\x7b%".toList ++ rest) := by
      rw [List.append_assoc, List.append_assoc, List.dropWhile_append_of_pos hname.2]
      show List.dropWhile isIdChar ('\n' :: ("\x7b%".toList ++ rest)) = _
      rw [List.dropWhile_cons_of_neg (by decide)]
    have hroute := route?_front hdigits (fun c hc => isDigit_of_mem_toString hc)
      ((name ++ ['\n']) ++ "\x7b%".toList ++ rest)
    rw [hbehind, show dropFront? "\x7b%".toList ('\n' :: ("\x7b%".toList ++ rest)) = none from rfl,
      Option.bind_none] at hroute
    rw [htext, routes_skip hfront]
    rw [show "trigger.idx == \"".toList = 't' :: "rigger.idx == \"".toList from rfl,
      List.cons_append] at hroute ⊢
    rw [routes, hroute, routes_skip (by decide), routes_skip, routes_skip (by decide)]
    · rw [List.append_assoc]
      refine fun x hx => .inr ?_
      have hchars : ∀ c ∈ name ++ ['\n'], isIdChar c = true ∨ isBlank c = true := by
        intro c hc
        rcases List.mem_append.1 hc with hc | hc
        · exact .inl (hname.2 c hc)
        · exact .inr (by rw [List.mem_singleton.1 hc]; decide)
      exact routes_name hchars ('%' :: rest) ▸ hx
    · intro hc
      exact absurd (isDigit_of_mem_toString hc) (by decide)

theorem mem_routes_routesText {targets : List (Option String × Nat)}
    (h : ∀ t ∈ targets, IsState (stateOf t.1).toList) :
    ∀ x ∈ routes (routesText targets), ∃ t ∈ targets, x.2 = (stateOf t.1).toList := by
  induction targets with
  | nil =>
    intro x hx
    cases hx
  | cons t targets ih =>
    obtain ⟨rest, hrest⟩ := routesText_eq_statement targets
    have hcons : routesText (t :: targets)
        = (renderRoute t.2 t.1).toList ++ routesText targets := by
      simp [routesText]
    intro x hx
    rw [hcons, hrest, ← List.append_assoc] at hx
    rcases mem_routes_renderRoute (h t List.mem_cons_self) t.2 rest x hx with hstate | hx
    · exact ⟨t, List.mem_cons_self, hstate⟩
    · obtain ⟨t', ht', hstate⟩ := ih (fun y hy => h y (List.mem_cons_of_mem _ hy)) x (hrest ▸ hx)
      exact ⟨t', List.mem_cons_of_mem _ ht', hstate⟩

/-- Whichever trigger fires, a loop starts in the end state or in the state of a node that some
trigger leads to. -/
theorem resolve_render_eq {targets : List (Option String)}
    (h : ∀ t ∈ targets, ∀ id ∈ t, isId id = true) (trigger : Int) :
    resolve (render targets) trigger = endState
      ∨ ∃ t ∈ targets, resolve (render targets) trigger = stateOf t := by
  have hstates : ∀ t ∈ targets, IsState (stateOf t).toList := fun t ht => isState_stateOf (h t ht)
  have hroutes : resolve (render.routes targets) trigger = endState
      ∨ ∃ t ∈ targets, resolve (render.routes targets) trigger = stateOf t := by
    unfold resolve
    rw [toList_renderRoutes, if_pos (hasStatement_routesText _)]
    cases hfound : (routes (routesText targets.zipIdx)).reverse.find?
        (·.1 == (toString trigger).toList) with
    | none => exact .inl rfl
    | some x =>
      obtain ⟨t, ht, hstate⟩ := mem_routes_routesText
        (fun t ht => hstates t.1 (List.fst_mem_of_mem_zipIdx ht)) x
        (List.mem_reverse.1 (List.mem_of_find?_eq_some hfound))
      refine .inr ⟨t.1, List.fst_mem_of_mem_zipIdx ht, ?_⟩
      dsimp only
      rw [hstate, String.ofList_toList]
  cases targets with
  | nil => exact hroutes
  | cons first rest =>
    -- one state for all triggers is written as it is, and no route is looked for in it
    by_cases hall : rest.all (· == first) = true
    · rw [render, if_pos hall]
      refine .inr ⟨first, List.mem_cons_self,
        resolve_of_not_hasStatement (hasStatement_of_not_mem fun hmem => ?_) trigger⟩
      obtain ⟨name, hname, hstate | hstate⟩ := hstates first List.mem_cons_self
      · exact absurd (hname.2 '{' (hstate ▸ hmem)) (by decide)
      · rw [hstate, List.mem_append] at hmem
        exact hmem.elim (fun hmem => absurd (hname.2 '{' hmem) (by decide)) (by decide)
    · rw [render, if_neg hall]
      exact hroutes

end Routing

/-! ## States of options -/

namespace Dispatch

/-- Whether an option tests for a state. -/
def Tests (state : String) (option : Value) : Prop := ∃ o es, option = .map o es
  ∧ Entries.get? es "conditions" = some (.ofItems [stateTest state])

/-- A state that stops a loop, or that exactly one of its options tests for. -/
def Handled (options : List Value) (state : String) : Prop :=
  state = endState ∨ ∃! i : Nat, ∃ option, options[i]? = some option ∧ Tests state option

/-- An option that runs a node, and whose assignments of states have a property. Behind a step the
next state is assigned. A condition is an if block that assigns a state for each outcome; when the
block is disabled, a state is assigned in front of it. -/
inductive Runs (P : String → Prop) (n : Node) : Value → Prop
  | step {next : String} (hcondition : n.kind.isCondition = false) (hnext : P next) :
    Runs P n (.ofEntries [(.str "conditions", .ofItems [stateTest n.id]),
      (.str "sequence", .ofItems [.ofEntries n.data, assignText next])])
  | block {skip : List Value} {block : Entries} {yes no : String}
    (hcondition : n.kind.isCondition = true)
    (hskip : if (n.flags.get "enabled").isFalse then ∃ jump, skip = [assignText jump] ∧ P jump
      else skip = [])
    (hthen : block.get? "then" = some (.ofItems [assignText yes])) (hyes : P yes)
    (helse : block.get? "else" = some (.ofItems [assignText no])) (hno : P no) :
    Runs P n (.ofEntries [(.str "conditions", .ofItems [stateTest n.id]),
      (.str "sequence", .ofItems (skip ++ [.ofEntries block]))])

variable {g : Graph} {r : TopologyReport} {joins : List (String × Option String)}

theorem stateTest_inj {a b : String} (h : stateTest a = stateTest b) : a = b := by
  have htext : inBraces (stateVariable ++ " == '" ++ a ++ "'")
      = inBraces (stateVariable ++ " == '" ++ b ++ "'") := by
    have hentry := (List.cons.inj (List.cons.inj (Value.map.inj h).2).2).1
    exact Value.str.inj (Prod.mk.inj hentry).2
  unfold inBraces at htext
  have hlist := congrArg String.toList htext
  simp only [String.toList_append, List.append_assoc, List.append_cancel_left_eq,
    List.append_cancel_right_eq] at hlist
  exact String.toList_injective hlist

/-- The option of a node tests for its state alone. -/
theorem tests_option {n : Node} {state : String} : Tests state (option g joins n) ↔ n.id = state := by
  constructor
  · rintro ⟨o, es, hoption, hget⟩
    obtain ⟨-, rfl⟩ := Value.map.inj hoption
    have htest := Option.some.inj hget
    exact stateTest_inj (List.cons.inj (Value.list.inj htest).2).1
  · rintro rfl
    exact ⟨_, _, rfl, rfl⟩

/-- The state of a node that a loop runs is tested by its option alone. -/
theorem handled_id (hwf : g.WellFormed) {n : Node} (hn : n ∈ Document.loopNodes r g) :
    Handled ((Document.loopNodes r g).map (option g joins)) n.id := by
  have hnodup : ((Document.loopNodes r g).map (·.id)).Nodup :=
    hwf.nodup.sublist (List.filter_sublist.map _)
  obtain ⟨i, hi, rfl⟩ := List.getElem_of_mem hn
  refine .inr ⟨i, ⟨_, by rw [List.getElem?_map, List.getElem?_eq_getElem hi]; rfl,
    tests_option.2 rfl⟩, ?_⟩
  rintro j ⟨o, hj, htests⟩
  rw [List.getElem?_map] at hj
  obtain ⟨m, hm, rfl⟩ := Option.map_eq_some_iff.1 hj
  obtain ⟨hlength, rfl⟩ := List.getElem?_eq_some_iff.1 hm
  have hids : ((Document.loopNodes r g).map (·.id))[j]? = ((Document.loopNodes r g).map (·.id))[i]? := by
    rw [List.getElem?_map, List.getElem?_map, hm, List.getElem?_eq_getElem hi]
    exact congrArg some (tests_option.1 htests)
  exact (List.getElem?_inj (by simpa using hlength) hnodup).1 hids

/-- The state behind a node that triggers lead to is handled. -/
theorem handled_exit (hwf : g.WellFormed) (hr : r.reachable = g.reachable) {n : Node}
    (hn : n ∈ keptNodes r g) {x : Option String × String} (hx : x ∈ exitStates g n) :
    Handled ((Document.loopNodes r g).map (option g joins)) x.2 := by
  by_cases hend : x.2 = endState
  · exact .inl hend
  · obtain ⟨m, hm, hid⟩ := exists_loopNode_of_exit hwf hr hn hx hend
    exact hid ▸ handled_id hwf hm

/-- So is the state that a skipped block jumps to. -/
theorem handled_jump (hwf : g.WellFormed) (hr : r.reachable = g.reachable)
    (hjoins : g.blockJoins = .ok joins) (id : String) :
    Handled ((Document.loopNodes r g).map (option g joins))
      (stateOf ((joins.find? (·.1 == id)).map (·.2)).join) := by
  cases hfound : ((joins.find? (·.1 == id)).map (·.2)).join with
  | none => exact .inl rfl
  | some target =>
    obtain ⟨⟨id, join⟩, hrow, rfl⟩ := Option.map_eq_some_iff.1 (Option.join_eq_some_iff.1 hfound)
    obtain ⟨e, he, hsource, rfl⟩ :=
      Graph.exists_edge_of_mem_blockJoins hjoins (List.mem_of_find?_eq_some hrow)
    obtain ⟨m, hm, hid⟩ := Document.mem_loopNodes_of_edge hwf hr he hsource
    rw [(stateOf_target hwf he).1, ← hid]
    exact handled_id hwf hm

/-- The option of a node that a loop runs assigns states that are handled. -/
theorem runs_option (hwf : g.WellFormed) (hr : r.reachable = g.reachable)
    (hjoins : g.blockJoins = .ok joins) {n : Node} (hn : n ∈ Document.loopNodes r g) :
    Runs (Handled ((Document.loopNodes r g).map (option g joins))) n (option g joins n) := by
  have hkept : n ∈ keptNodes r g := List.mem_append_right _ hn
  have hexit {handle target : Option String} (hx : (handle, target) ∈ exits g n) :
      Handled ((Document.loopNodes r g).map (option g joins)) (stateOf target) :=
    handled_exit hwf hr hkept (x := (handle, stateOf target)) (List.mem_map_of_mem hx)
  -- a step moves to one state, and the branches of a condition to one each
  unfold exits at hexit
  unfold option steps
  cases hcondition : n.kind.isCondition with
  | false =>
    rw [hcondition] at hexit
    exact .step hcondition (hexit List.mem_cons_self)
  | true =>
    rw [hcondition] at hexit
    simp only [if_true]
    refine .block hcondition ?_ Block.get?_ifEntry_then (hexit List.mem_cons_self)
      (Block.get?_ifEntry_else (List.cons_ne_nil _ _)) (hexit (List.mem_cons_of_mem _ List.mem_cons_self))
    cases (n.flags.get "enabled").isFalse with
    | false => rfl
    | true => exact ⟨_, rfl, handled_jump hwf hr hjoins n.id⟩

end Dispatch

namespace Document

open Dispatch

variable {limits : Limits} {g : Graph}

/-- Every well-formed graph is written with a dispatch loop, whatever its shape, when YAML has a
text for its values and the platforms and kinds that its checks look up can be looked up. The loop
has an option for each node that triggers lead to, in the order of the graph and without the
triggers, and all states that it assigns are handled: the first one whichever trigger fires, and
those that options assign. -/
theorem exists_dispatch (hwf : g.WellFormed) (hsize : g.nodes.length ≤ limits.maxGraphNodes)
    (htext : g.HasText) (hkinds : ∀ n ∈ g.nodes, n.HasKinds) :
    ∃ w actions options, (dispatch limits g).1 = .ok w
      ∧ w.config.get? "actions" = some (.ofItems actions)
      ∧ List.Forall₂ (Runs (Handled options))
          (g.nodes.filter fun n => !n.kind.isTrigger && g.reachable.contains n.id) options
      ∧ ((options = [] ∧ actions = []) ∨ ∃ entry, readLoop actions = .ok (entry, options)
          ∧ ∀ trigger : Int, Handled options (Routing.resolve entry trigger)) := by
  have hcheck : g.check limits = .ok () := Graph.check_eq_ok_iff.2 ⟨hsize, hwf⟩
  obtain ⟨r, hanalyze, -⟩ := Graph.exists_analyze hcheck
  obtain ⟨-, hr⟩ := of_analyze_eq_ok hanalyze
  obtain ⟨notices, hnotices, -⟩ := Graph.exists_notices fun n hn =>
    (hkinds n hn).told (htext.nodes n hn).data limits
  obtain ⟨joins, hjoins⟩ := hwf.exists_blockJoins
  -- the emulation is made, and can be written, with shared values and with values of their own
  obtain ⟨w, hw⟩ : ∃ w, (dispatch limits g).1 = .ok w := by
    obtain ⟨config, hconfig, hconfigText⟩ := exists_dispatchEntries limits r htext hjoins
    obtain ⟨sheet, hsheet, hsheetText⟩ := exists_dispatchEntries limits r htext.apart
      ((Graph.blockJoins_apart g).trans hjoins)
    obtain ⟨w, hw⟩ : ∃ w, written .dispatch g (dispatchEntries limits r) = .ok w :=
      exists_written hconfig hsheet hsheetText
    refine ⟨w, ?_⟩
    unfold dispatch examine
    rw [hanalyze, hnotices]
    exact hw
  obtain ⟨r', -, joins', hanalyze', -, hjoins', hconfig⟩ := of_dispatch_eq_ok hw
  cases hanalyze.symm.trans hanalyze'
  cases hjoins.symm.trans hjoins'
  have hloop : (g.nodes.filter fun n => !n.kind.isTrigger && g.reachable.contains n.id)
      = loopNodes r g := by
    unfold loopNodes
    rw [hr]
  refine ⟨w, Dispatch.actions limits g joins (loopNodes r g), (loopNodes r g).map (option g joins), hw,
    ?_, ?_, ?_⟩
  · rw [hconfig]
    exact get?_assemble_actions ..
  · rw [hloop, List.forall₂_map_right_iff]
    exact List.forall₂_same.2 fun n hn => runs_option hwf hr hjoins hn
  -- without anything to run there is no loop
  · by_cases hempty : loopNodes r g = []
    · refine .inl ⟨by rw [hempty]; rfl, ?_⟩
      rw [hempty]
      rfl
    · refine .inr ⟨_, readLoop_actions hempty, fun trigger => ?_⟩
      -- the first state is the end, or an option of the loop handles it
      have hfirst : ∀ t ∈ g.firstNodes, ∀ id ∈ t, ∃ m ∈ loopNodes r g, m.id = id := by
        intro t ht id hid
        obtain ⟨n, hn, e, he, hsource, rfl⟩ := exists_edge_of_mem_firstNodes ht hid
        exact mem_loopNodes_of_edge hwf hr he (hsource ▸ .trigger hn)
      have hids : ∀ t ∈ g.firstNodes, ∀ id ∈ t, Text.isId id = true := by
        intro t ht id hid
        obtain ⟨m, hm, rfl⟩ := hfirst t ht id hid
        exact hwf.isId (List.mem_filter.1 hm).1
      rcases Routing.resolve_render_eq hids trigger with hend | ⟨t, ht, hstate⟩
      · exact .inl hend
      · rw [hstate]
        cases t with
        | none => exact .inl rfl
        | some id =>
          obtain ⟨m, hm, rfl⟩ := hfirst _ ht id rfl
          rw [show stateOf (some m.id) = m.id from if_neg (hwf.ne_empty (List.mem_filter.1 hm).1)]
          exact handled_id hwf hm

/-- Lamps that two triggers enter a cycle of at different nodes, with a group of conditions whose
block is skipped, and a lamp that no trigger leads to. -/
def landingLoop : Graph where
  nodes := [
    { id := "dusk", kind := .trigger, data := [(.str "trigger", .str "sun")] },
    { id := "motion", kind := .trigger, data := [(.str "trigger", .str "state")] },
    { id := "late", kind := .condition, flags := [(.str "enabled", .bool false)],
      data := [(.str "condition", .str "or"), (.str "conditions", .ofItems [
        .ofEntries [(.str "condition", .str "time"), (.str "after", .str "22:00:00")]])] },
    { id := "lamp", kind := .action, data := [(.str "action", .str "light.turn_on")] },
    { id := "rest", kind := .delay, data := [(.str "delay", .int 5)] },
    { id := "attic", kind := .action, data := [(.str "action", .str "light.turn_off")] }]
  edges := [.between "dusk" "late", .between "motion" "lamp",
    .between "late" "lamp" (some handleTrue), .between "late" "rest" (some handleFalse),
    .between "lamp" "rest", .between "rest" "late"]

theorem exists_dispatch_landingLoop : ∃ w actions options entry,
    (dispatch {} landingLoop).1 = .ok w ∧ w.config.get? "actions" = some (.ofItems actions)
      ∧ readLoop actions = .ok (entry, options) ∧ options.length = 3
      ∧ ∀ trigger : Int, Handled options (Routing.resolve entry trigger) := by
  have hall {P : Node → Prop} : (∀ n ∈ landingLoop.nodes, P n)
      ↔ P landingLoop.nodes[0] ∧ P landingLoop.nodes[1] ∧ P landingLoop.nodes[2]
        ∧ P landingLoop.nodes[3] ∧ P landingLoop.nodes[4] ∧ P landingLoop.nodes[5] := by
    simp [landingLoop]
  have htexts : ∀ n ∈ landingLoop.nodes, n.HasText := by
    have hone {n : Node} (hn : Value.entriesHaveText n.data = true ∧ n.position = none
        ∧ n.label.hasText = true ∧ Value.entriesHaveText n.flags = true) : n.HasText :=
      ⟨Entries.entriesHaveText_iff.1 hn.1, by simp [hn.2.1], hn.2.2.1,
        Entries.entriesHaveText_iff.1 hn.2.2.2⟩
    rw [hall]
    refine ⟨hone ?_, hone ?_, hone ?_, hone ?_, hone ?_, hone ?_⟩
    all_goals exact ⟨by decide +kernel, rfl, rfl, by decide +kernel⟩
  have hkinds : ∀ n ∈ landingLoop.nodes, n.HasKinds := by
    rw [hall]
    refine ⟨⟨fun _ _ => rfl, nofun⟩, ⟨fun _ _ => rfl, nofun⟩, ⟨nofun, fun _ => ?_⟩, ⟨nofun, nofun⟩,
      ⟨nofun, nofun⟩, ⟨nofun, nofun⟩⟩
    refine .intro (fun _ => rfl) fun _ o items hitems p es hes => ?_
    obtain ⟨-, rfl⟩ := Value.list.inj hitems
    obtain ⟨-, rfl⟩ := Value.map.inj (List.mem_singleton.1 hes)
    exact .intro (fun _ => rfl) fun hgroup => absurd hgroup (by decide)
  obtain ⟨w, actions, options, hw, hactions, hruns, hloop⟩ := @exists_dispatch {} landingLoop
    (List.isEmpty_iff.1 (by decide +kernel)) (by decide)
    ⟨htexts, ⟨nofun, nofun, Entries.hasText_nil⟩, by decide +kernel⟩ hkinds
  have hlength : options.length = 3 := by
    rw [← hruns.length_eq]
    decide +kernel
  -- three nodes are run, so there is a loop
  rcases hloop with ⟨hempty, -⟩ | ⟨entry, hread, hhandled⟩
  · rw [hempty] at hlength
    cases hlength
  · exact ⟨w, actions, options, entry, hw, hactions, hread, hlength, hhandled⟩

/-- A lamp with an integer of too many digits among its data. -/
def meteredLamp : Graph where
  nodes := [
    { id := "dusk", kind := .trigger, data := [(.str "trigger", .str "sun")] },
    { id := "lamp", kind := .action, data := [(.str "action", .str "light.turn_on"),
      (.str "data", .ofEntries [(.str "count", .int Literal.writingBound)])] }]
  edges := [.between "dusk" "lamp"]

/-- There is no document of a graph with a value that has no text. -/
theorem dispatch_meteredLamp : meteredLamp.WellFormed
    ∧ (meteredLamp.nodes.length : Int) ≤ ({} : Limits).maxGraphNodes ∧ meteredLamp.NoExit
    ∧ (∀ n ∈ meteredLamp.nodes, n.HasKinds) ∧ ∀ w, (dispatch {} meteredLamp).1 ≠ .ok w := by
  have hnone : ((dispatch {} meteredLamp).1).toOption.isSome = false := by decide +kernel
  refine ⟨List.isEmpty_iff.1 (by decide +kernel), by decide, by unfold Graph.NoExit; decide, ?_,
    fun w hw => ?_⟩
  · refine List.forall_mem_cons.2 ⟨⟨fun _ _ => rfl, nofun⟩,
      List.forall_mem_singleton.2 ⟨nofun, nofun⟩⟩
  · rw [hw] at hnone
    cases hnone

end Document

end Automation
