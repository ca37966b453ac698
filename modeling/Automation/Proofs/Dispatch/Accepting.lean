import Automation.Proofs.Dispatch.LoopGraph
import Automation.Proofs.Entry
import Automation.Proofs.Value.Origins
import Mathlib.Data.List.TakeWhile

/-!
# What a decoder of loops looks at

A loop that is decoded need not be one that was written: the decoder looks at the assignment of the
first state and at the options of the choice, and in an option at the state that it tests, at its
step or its if block, and at the states that these lead to. In all this a loop agrees with the loop
that is written for its graph (`Document.retold_of_decode`). What else stands in it is not looked at
and not written again (`Document.exists_decode_not_retained`): the condition to stop after a pass,
the default of the choice, further fields of the options and of the blocks, the assignment in front
of a block, and all entries behind the loop.
-/

namespace Automation

namespace Dispatch

open Text

variable {limits : Limits}

/-! ## Loops that tell the same -/

/-- If blocks of loops that tell the same: they stand for one condition, with one name and the same
flags, and their branches assign the same states. -/
structure SameBlock (limits : Limits) (read written : Entries) : Prop where
  condition : ∃ data, Condition.payload limits (read.get "if") = .ok data
    ∧ Condition.payload limits (written.get "if") = .ok data
  label : (written.get "alias").ifTruthy = (read.get "alias").ifTruthy
  flags : Entry.flagsOf written = Entry.flagsOf read
  whenTrue : (written.get "then").stripped = (read.get "then").stripped
  whenFalse : (written.get "else").stripped = (read.get "else").stripped

/-- Options of loops that tell the same: they test one state, and behind the test stand blocks that
tell the same, or one step and the assignment of one state. -/
inductive SameOption (limits : Limits) : Value → Value → Prop where
  | block {v v' : Value} {o o' : Origin} {es es' read written : Entries} {state : String}
    (hread : v.expose = .map o es) (hwritten : v'.expose = .map o' es')
    (htest : readTest es = .ok state) (htest' : readTest es' = .ok state)
    (hblock : branchOf? (items (es.get "sequence")) = some read)
    (hblock' : branchOf? (items (es'.get "sequence")) = some written)
    (hsame : SameBlock limits read written) : SameOption limits v v'
  | step {v v' next next' : Value} {o o' p p' : Origin} {es es' step : Entries} {state : String}
    (hread : v.expose = .map o es) (hwritten : v'.expose = .map o' es')
    (htest : readTest es = .ok state) (htest' : readTest es' = .ok state)
    (hsteps : items (es.get "sequence") = [.map p step, next])
    (hsteps' : items (es'.get "sequence") = [.map p' step, next'])
    (hnext : next'.stripped = next.stripped) : SameOption limits v v'

/-- Actions that were written, and what was read before they were: nothing, a loop without options,
or a loop that tells the same. The first state is the same for each trigger, where an empty text
stands for the end. -/
inductive Retold (limits : Limits) (triggers : Nat) : List Value → List Value → Prop where
  | nothing : Retold limits triggers [] []
  | idle {read : List Value} {start : String} (hread : readLoop read = .ok (start, [])) :
    Retold limits triggers read []
  | loop {read written options options' : List Value} {start start' : String}
    (hread : readLoop read = .ok (start, options))
    (hwritten : readLoop written = .ok (start', options')) (hlength : written.length = 3)
    (hstart : ∀ i, i < triggers →
      Routing.resolve start' i = stateOf (some (Routing.resolve start i)))
    (hoptions : List.Forall₂ (SameOption limits) options options') :
    Retold limits triggers read written

/-! ## What was read -/

/-- A state that is tested is a name. -/
theorem isName_of_testedState? {template state : String}
    (h : testedState? template = some state) : IsName state.toList := by
  unfold testedState? at h
  obtain ⟨_, -, h⟩ := Option.bind_eq_some_iff.1 h
  obtain ⟨_, -, h⟩ := Option.bind_eq_some_iff.1 h
  obtain ⟨_, -, h⟩ := Option.bind_eq_some_iff.1 h
  obtain ⟨cs, -, h⟩ := Option.bind_eq_some_iff.1 h
  obtain ⟨_, -, h⟩ := Option.bind_eq_some_iff.1 h
  split at h
  · cases h
  · rename_i hstate
    cases h
    rw [Bool.or_eq_true, not_or] at hstate
    rw [String.toList_ofList]
    exact ⟨by simpa using hstate.1, fun c hc => List.mem_takeWhile_imp hc⟩

theorem isName_of_readTest {es : Entries} {state : String} (h : readTest es = .ok state) :
    IsName state.toList := by
  unfold readTest at h
  dsimp only at h
  split at h
  · rename_i htested
    cases h
    obtain ⟨template, -, htemplate⟩ := Option.bind_eq_some_iff.1 htested
    exact isName_of_testedState? htemplate
  · cases h

/-- An entry that assigns a state is the assignment of that state. -/
theorem stripped_of_assigned? {v : Value} {state : String} (h : assigned? v = some state) :
    v.stripped = (assignText state).stripped := by
  unfold assigned? at h
  split at h
  · split at h
    · rename_i hkeys
      cases h
      rw [Bool.and_eq_true] at hkeys
      rw [Value.isText_iff.1 hkeys.1, Value.isText_iff.1 hkeys.2]
      rfl
    · cases h
  · cases h

theorem stripped_of_readBranch {state branch target : String} {v : Value}
    (h : readBranch state branch v = .ok target) :
    v.stripped = (Value.ofItems [assignText target]).stripped := by
  unfold readBranch at h
  dsimp only at h
  split at h
  · rename_i hassigned
    cases h
    split at hassigned
    · rename_i o entry
      show Value.list {} [entry.stripped] = Value.list {} [(assignText target).stripped]
      rw [stripped_of_assigned? hassigned]
    · cases hassigned
  · cases h

/-- A condition that was read, by the parts of its block. -/
theorem of_readCondition_eq_ok {state : String} {es : Entries} {d : Decoded}
    (h : readCondition limits state es = .ok d) :
    ∃ data whenTrue whenFalse, Condition.payload limits (es.get "if") = .ok data
      ∧ readBranch state "then" (es.get "then") = .ok whenTrue
      ∧ readBranch state "else" (es.get "else") = .ok whenFalse
      ∧ d.node = { id := state, kind := .condition, data, label := es.get "alias", flags := Entry.flagsOf es }
      ∧ d.exits = [(some handleTrue, whenTrue), (some handleFalse, whenFalse)] := by
  unfold readCondition at h
  obtain ⟨data, hdata, h⟩ := Outcome.bind_eq_ok.1 h
  obtain ⟨whenTrue, htrue, h⟩ := Outcome.bind_eq_ok.1 h
  obtain ⟨whenFalse, hfalse, h⟩ := Outcome.bind_eq_ok.1 h
  cases h
  exact ⟨data, whenTrue, whenFalse, hdata, htrue, hfalse, rfl, rfl⟩

/-- An option that was read: it tests the state of its node, and what stands behind the test is the
block of a condition, or a step and an assignment. -/
theorem of_readOption_eq_ok {v : Value} {d : Decoded} (h : readOption limits v = .ok d) :
    ∃ o es, v.expose = .map o es ∧ readTest es = .ok d.node.id
      ∧ ((∃ block, branchOf? (items (Entries.get es "sequence")) = some block
          ∧ readCondition limits d.node.id block = .ok d)
        ∨ ∃ p next target, items (Entries.get es "sequence") = [.map p d.node.data, next]
          ∧ assigned? next = some target ∧ Entry.kind d.node.data = .step d.node.kind
          ∧ d.exits = [(none, target)]
          ∧ d.node = { id := d.node.id, kind := d.node.kind, data := d.node.data }) := by
  unfold readOption at h
  dsimp only at h
  -- at each step down only one shape is read, and every other is refused
  split at h
  · rename_i o es hexpose
    rw [Outcome.ok_bind] at h
    obtain ⟨state, htest, h⟩ := Outcome.bind_eq_ok.1 h
    split at h
    · rename_i p first rest hitems
      split at h
      · rename_i block hblock
        obtain ⟨data, whenTrue, whenFalse, -, -, -, hnode, -⟩ := of_readCondition_eq_ok h
        have hid : d.node.id = state := by rw [hnode]
        rw [hid]
        exact ⟨o, es, hexpose, htest, .inl ⟨block, hitems ▸ hblock, h⟩⟩
      · split at h
        · rename_i next hrest
          split at h
          · rename_i kind hkind
            cases h
            obtain ⟨last, rest, rfl, hlast, hnone⟩ := List.map_eq_cons_iff.1 hrest
            rw [List.map_eq_nil_iff.1 hnone] at hitems
            exact ⟨o, es, hexpose, htest, .inr ⟨p, last, next, hitems, hlast, hkind, rfl, rfl⟩⟩
          · cases h
        · cases h
    · cases h
  · cases h

/-- A node that was read is no trigger. -/
theorem isTrigger_of_readOption {v : Value} {d : Decoded} (h : readOption limits v = .ok d) :
    d.node.kind.isTrigger = false := by
  obtain ⟨o, es, -, -, ⟨block, -, hblock⟩ | ⟨p, next, target, -, -, hkind, -⟩⟩ :=
    of_readOption_eq_ok h
  · obtain ⟨data, whenTrue, whenFalse, -, -, -, hnode, -⟩ := of_readCondition_eq_ok hblock
    rw [hnode]
    rfl
  · exact Entry.isTrigger_of_kind hkind

/-! ## What is written for it -/

variable {g : Graph} {joins : List (String × Option String)}

/-- The block that is written for a condition that was read tells the same, when a run goes on from
the condition as it was read. -/
theorem SameBlock.of_readCondition {es : Entries} {d : Decoded}
    (h : readCondition limits d.node.id es = .ok d) (hexits : d.exits = exitStates g d.node) :
    SameBlock limits es (Block.ifEntry d.node [assign (g.whenTrue? d.node.id)]
      [assign (g.whenFalse? d.node.id)]) := by
  obtain ⟨data, whenTrue, whenFalse, hdata, htrue, hfalse, hnode, hexit⟩ := of_readCondition_eq_ok h
  have hkind : d.node.kind.isCondition = true := by
    rw [hnode]
    rfl
  obtain ⟨hwhenTrue, hwhenFalse⟩ : stateOf (g.whenTrue? d.node.id) = whenTrue
      ∧ stateOf (g.whenFalse? d.node.id) = whenFalse := by
    rw [hexit] at hexits
    simpa [exitStates, exits, hkind, eq_comm] using hexits
  -- the fields of the block are written from the node, whose fields were read from the block
  refine ⟨⟨data, hdata, ?_⟩, ?_, ?_, ?_, ?_⟩
  · obtain ⟨w, hw⟩ := Condition.exists_of_payload_eq_ok hdata
    rw [Entries.get, Block.get?_ifEntry_if, Option.getD_some, Condition.payload_conditionsOf]
    · rw [hnode]
      exact Condition.normalize_of_normalize hw
    · rw [hnode]
      exact Condition.expose_conditions_of_normalize hw
  · have hlabel : Entries.has d.node.flags "alias" = false := by
      rw [hnode]
      exact (Entry.areFlags_flagsOf es).has_eq_false (by decide)
    rw [Block.get_ifEntry_alias hlabel, hnode]
    exact Value.ifTruthy_getD_ifTruthy _
  · rw [Block.flagsOf_ifEntry, hnode]
    · exact Entry.flagsOf_flagsOf es
    · rw [hnode]
      exact (Entry.keyed_flagsOf es).distinct
  · rw [Entries.get, Block.get?_ifEntry_then, Option.getD_some, stripped_of_readBranch htrue,
      ← hwhenTrue]
    rfl
  · rw [Entries.get, Block.get?_ifEntry_else (List.cons_ne_nil _ _), Option.getD_some,
      stripped_of_readBranch hfalse, ← hwhenFalse]
    rfl

/-- The option that is written for a node that was read tells the same, when a run goes on from the
node as it was read. -/
theorem SameOption.of_readOption {v : Value} {d : Decoded} (h : readOption limits v = .ok d)
    (hexits : d.exits = exitStates g d.node) :
    SameOption limits v (option g joins d.node) := by
  obtain ⟨o, es, hread, htest, hsteps⟩ := of_readOption_eq_ok h
  have htest' : readTest [(.str "conditions", .ofItems [stateTest d.node.id]),
      (.str "sequence", .ofItems (steps g joins d.node))] = .ok d.node.id :=
    readTest_option (isName_of_readTest htest)
  have hitems : items (Entries.get [(.str "conditions", .ofItems [stateTest d.node.id]),
      (.str "sequence", .ofItems (steps g joins d.node))] "sequence")
      = (steps g joins d.node).map Value.expose := rfl
  -- an option of the loop is a condition with two branches, or a step and the next state
  rcases hsteps with ⟨block, hblock, hcondition⟩ | ⟨p, next, target, hsteps, hnext, hkind, hexit, -⟩
  · have hkind : d.node.kind.isCondition = true := by
      obtain ⟨data, whenTrue, whenFalse, -, -, -, hnode, -⟩ := of_readCondition_eq_ok hcondition
      rw [hnode]
      rfl
    exact .block hread rfl htest htest' hblock (hitems ▸ branchOf?_steps hkind)
      (.of_readCondition hcondition hexits)
  · have hcondition := Entry.isCondition_of_kind hkind
    have hstate : stateOf (g.successor? d.node.id) = target := by
      rw [hexit] at hexits
      simpa [exitStates, exits, hcondition, eq_comm] using hexits
    refine .step hread rfl htest htest' hsteps (hitems ▸ map_expose_steps hcondition) ?_
    rw [stripped_of_assigned? hnext, ← hstate]
    rfl

/-! ## The graph of a loop that was read -/

/-- A graph of what was read: the triggers of the given names, the nodes of the options, and the
edges of all transitions that are not the end. -/
structure IsGraphOf (names : List String) (start : String) (decoded : List Decoded) (g : Graph) :
    Prop where
  nodes : ∃ starts : List Node, starts.map (·.id) = names
    ∧ (∀ n ∈ starts, n.kind.isTrigger = true) ∧ g.nodes = starts ++ decoded.map (·.node)
  body : ∀ d ∈ decoded, d.node.kind.isTrigger = false
  ids : ∀ d ∈ decoded, IsName d.node.id.toList
  handles : ∀ d ∈ decoded, d.exits.map (·.1)
    = if d.node.kind.isCondition then [some handleTrue, some handleFalse] else [none]
  edges : ∀ e, e ∈ g.edges ↔ ∃ t ∈ transitions names start decoded, t.2.2 ≠ endState
    ∧ e = .between t.1 t.2.2 t.2.1

/-- The edges of transitions are those that do not lead to the end. -/
theorem mem_edges_iff {known : List String} {ts : List (String × Option String × String)}
    {edges : List (Option Edge)}
    (h : ts.mapM (fun t => readTransition known t.1 t.2.2 t.2.1) = .ok edges) (e : Edge) :
    e ∈ edges.filterMap id ↔ ∃ t ∈ ts, t.2.2 ≠ endState ∧ e = .between t.1 t.2.2 t.2.1 := by
  have hread := Outcome.mapM_eq_ok_iff.1 h
  clear h
  induction hread with
  | nil => simp
  | @cons t edge ts edges hedge _ ih =>
    -- a transition is drawn unless it leads to the end
    have hhead : edge = if t.2.2 = endState then none else some (.between t.1 t.2.2 t.2.1) := by
      unfold readTransition at hedge
      split at hedge
      · rename_i hend
        cases hedge
        exact (if_pos hend).symm
      · rename_i hend
        split at hedge
        · cases hedge
          exact (if_neg hend).symm
        · cases hedge
    rw [hhead]
    by_cases hend : t.2.2 = endState
    · simpa [hend] using ih
    · simpa [hend] using or_congr_right ih

theorem handles_of_readOption {v : Value} {d : Decoded} (h : readOption limits v = .ok d) :
    d.exits.map (·.1)
      = if d.node.kind.isCondition then [some handleTrue, some handleFalse] else [none] := by
  obtain ⟨o, es, -, -, ⟨block, -, hblock⟩ | ⟨p, next, target, -, -, hkind, hexit, -⟩⟩ :=
    of_readOption_eq_ok h
  · obtain ⟨data, whenTrue, whenFalse, -, -, -, hnode, hexit⟩ := of_readCondition_eq_ok hblock
    rw [hnode, hexit]
    rfl
  · rw [hexit, Entry.isCondition_of_kind hkind]
    rfl

/-- A loop that was decoded: without actions there are only triggers, and otherwise the graph is
that of the options. -/
theorem of_decode_eq_ok {triggers : List Entries} {actions : List Value} {ids : List String}
    (hids : ids.length ≤ triggers.length) (h : decode limits triggers actions ids = .ok g) :
    ∃ names start options decoded, (actions = [] ∧ options = [] ∨ readLoop actions = .ok (start, options))
      ∧ List.Forall₂ (fun v d => readOption limits v = .ok d) options decoded
      ∧ IsGraphOf names start decoded g := by
  have hlength : (triggerNames triggers.length ids).length ≤ triggers.length := by
    unfold triggerNames
    split
    · simp [numberedTriggers]
    · exact hids
  generalize hnames : triggerNames triggers.length ids = names at hlength
  have hstarts : (startNodes names triggers).map (·.id) = names := by
    rw [startNodes, List.map_map]
    exact List.map_fst_zip hlength
  have htriggers : ∀ n ∈ startNodes names triggers, n.kind.isTrigger = true :=
    List.forall_mem_map.2 fun _ _ => rfl
  obtain ⟨rfl, rfl⟩ | ⟨-, start, options, decoded, edges, hloop, hdecoded, hedges, rfl⟩ :=
    decode_eq_ok.1 h
  · refine ⟨names, endState, [], [], .inl ⟨rfl, rfl⟩, .nil,
      ⟨_, hstarts, htriggers, by rw [hnames]; exact (List.append_nil _).symm⟩,
      List.forall_mem_nil _, List.forall_mem_nil _, List.forall_mem_nil _,
      fun e => ⟨fun he => absurd he List.not_mem_nil, ?_⟩⟩
    -- without a loop every trigger leads to the end
    have hplain : Routing.hasStatement endState.toList = false := by decide
    rintro ⟨t, ht, hend, -⟩
    rw [transitions, List.flatMap_nil, List.append_nil] at ht
    obtain ⟨x, -, rfl⟩ := List.mem_map.1 (List.mem_filter.1 ht).1
    exact absurd (Routing.resolve_of_not_hasStatement hplain x.2) hend
  · rw [hnames] at hedges ⊢
    have hmem : ∀ d ∈ decoded, ∃ v ∈ options, readOption limits v = .ok d := fun d hd =>
      Outcome.exists_of_mem_mapM hdecoded hd
    refine ⟨names, start, options, decoded, .inr hloop, Outcome.mapM_eq_ok_iff.1 hdecoded,
      ⟨_, hstarts, htriggers, rfl⟩, fun d hd => ?_, fun d hd => ?_, fun d hd => ?_,
      mem_edges_iff hedges⟩
    · obtain ⟨v, -, hv⟩ := hmem d hd
      exact isTrigger_of_readOption hv
    · obtain ⟨v, -, hv⟩ := hmem d hd
      obtain ⟨o, es, -, htest, -⟩ := of_readOption_eq_ok hv
      exact isName_of_readTest htest
    · obtain ⟨v, -, hv⟩ := hmem d hd
      exact handles_of_readOption hv

namespace IsGraphOf

variable {names : List String} {start : String} {decoded : List Decoded}

theorem nodup (h : IsGraphOf names start decoded g) (hwf : g.WellFormed) :
    (names ++ decoded.map (·.node.id)).Nodup := by
  obtain ⟨starts, hnames, -, hnodes⟩ := h.nodes
  have hids := hwf.nodup
  rwa [hnodes, List.map_append, hnames, List.map_map] at hids

theorem mem_nodes (h : IsGraphOf names start decoded g) {d : Decoded} (hd : d ∈ decoded) :
    d.node ∈ g.nodes := by
  obtain ⟨starts, -, -, hnodes⟩ := h.nodes
  rw [hnodes]
  exact List.mem_append_right _ (List.mem_map_of_mem hd)

/-- The transitions out of the state of an option are those that the option assigns. -/
theorem mem_exits_of_mem_transitions (h : IsGraphOf names start decoded g) (hwf : g.WellFormed)
    {d : Decoded} (hd : d ∈ decoded) {x : Option String × String}
    (hx : (d.node.id, x) ∈ transitions names start decoded) : x ∈ d.exits := by
  obtain ⟨-, hdecoded, hdisjoint⟩ := List.nodup_append.1 (h.nodup hwf)
  rcases List.mem_append.1 hx with hx | hx
  · obtain ⟨⟨name, i⟩, hname, heq⟩ := List.mem_map.1 (List.mem_filter.1 hx).1
    exact absurd (Prod.mk.inj heq).1
      (hdisjoint name (List.fst_mem_of_mem_zipIdx hname) d.node.id (List.mem_map_of_mem hd))
  · obtain ⟨d', hd', hx⟩ := List.mem_flatMap.1 hx
    obtain ⟨y, hy, heq⟩ := List.mem_map.1 hx
    obtain ⟨hid, rfl⟩ := Prod.mk.inj heq
    rwa [← List.inj_on_of_nodup_map hdecoded hd' hd hid]

/-- The transition out of a trigger is that to its first state. -/
theorem eq_of_mem_transitions (h : IsGraphOf names start decoded g) (hwf : g.WellFormed) {i : Nat}
    (hi : i < names.length) {x : Option String × String}
    (hx : (names[i], x) ∈ transitions names start decoded) :
    x = (none, Routing.resolve start i) := by
  obtain ⟨hnodup, -, hdisjoint⟩ := List.nodup_append.1 (h.nodup hwf)
  rcases List.mem_append.1 hx with hx | hx
  · obtain ⟨⟨name, j⟩, hname, heq⟩ := List.mem_map.1 (List.mem_filter.1 hx).1
    obtain ⟨hid, rfl⟩ := Prod.mk.inj heq
    obtain ⟨hj, hjname⟩ := List.getElem?_eq_some_iff.1 (List.mk_mem_zipIdx_iff_getElem?.1 hname)
    have hij : j = i := hnodup.getElem_inj_iff.1 (hjname.trans hid)
    rw [hij]
  · obtain ⟨d, hd, hx⟩ := List.mem_flatMap.1 hx
    obtain ⟨y, -, heq⟩ := List.mem_map.1 hx
    exact absurd (Prod.mk.inj heq).1.symm
      (hdisjoint names[i] (List.getElem_mem hi) d.node.id (List.mem_map_of_mem hd))

/-- Where a run goes on from a node, when the transitions out of the node are known: the state
behind it is the one of its transition. -/
theorem stateOf_eq (h : IsGraphOf names start decoded g) (id : String) (handle : Option String)
    {target : String} {next : Option String}
    (hmem : target = "" ∨ (id, handle, target) ∈ transitions names start decoded)
    (hnext : ∀ t, next = some t → ∃ e ∈ g.edges, e.source = id ∧ e.target = t ∧ e.handle = handle)
    (hedge : ∀ e ∈ g.edges, e.source = id → e.handle = handle → next = some e.target)
    (hunique : ∀ t, (id, handle, t) ∈ transitions names start decoded → t = target) :
    stateOf next = stateOf (some target) := by
  -- without an edge the state is the end, and with one it is the target of the transition
  cases next with
  | none =>
    by_cases hend : target = endState
    · rw [hend]
      rfl
    · rcases hmem with rfl | hmem
      · rfl
      · have hnone := hedge _ ((h.edges _).2 ⟨_, hmem, hend, rfl⟩) rfl rfl
        cases hnone
  | some t =>
    obtain ⟨e, he, hsource, rfl, hhandle⟩ := hnext t rfl
    obtain ⟨x, hx, -, heq⟩ := (h.edges e).1 he
    have hx' : (id, handle, e.target) ∈ transitions names start decoded := by
      rw [← hsource, ← hhandle, heq]
      exact hx
    rw [hunique _ hx']

/-- An edge is the transition that it was made of. -/
theorem mem_transitions (h : IsGraphOf names start decoded g) {e : Edge} (he : e ∈ g.edges) :
    (e.source, e.handle, e.target) ∈ transitions names start decoded := by
  obtain ⟨t, ht, -, rfl⟩ := (h.edges e).1 he
  exact ht

/-- No option assigns an empty text: no node has it for an id. -/
theorem ne_empty_of_mem_exits (h : IsGraphOf names start decoded g) (hwf : g.WellFormed)
    {d : Decoded} (hd : d ∈ decoded) {x : Option String × String} (hx : x ∈ d.exits) :
    x.2 ≠ "" := by
  intro hempty
  have hmem : (d.node.id, x) ∈ transitions names start decoded :=
    List.mem_append_right _ (List.mem_flatMap.2 ⟨d, hd, List.mem_map_of_mem hx⟩)
  have hend : x.2 ≠ endState := by
    rw [hempty]
    decide
  obtain ⟨-, -, -, n, hn, -, htarget, -⟩ := hwf.edge ((h.edges _).2 ⟨_, hmem, hend, rfl⟩)
  exact hwf.ne_empty hn (htarget.symm.trans hempty)

section Exits

variable (h : IsGraphOf names start decoded g) (hwf : g.WellFormed) {d : Decoded} (hd : d ∈ decoded)

include h hwf hd

/-- The state behind the branch of a condition is the one that its option assigns there. -/
theorem stateOf_branch?_eq {handle target : String} (hx : (some handle, target) ∈ d.exits)
    (hunique : ∀ t, (some handle, t) ∈ d.exits → t = target) :
    stateOf (g.branch? d.node.id handle) = target := by
  have hmem : (d.node.id, some handle, target) ∈ transitions names start decoded :=
    List.mem_append_right _ (List.mem_flatMap.2 ⟨d, hd, List.mem_map_of_mem hx⟩)
  have hstate : stateOf (some target) = target := if_neg (h.ne_empty_of_mem_exits hwf hd hx)
  refine (h.stateOf_eq d.node.id (some handle) (.inr hmem)
    (fun t ht => Graph.exists_edge_of_branch? ht) (fun e he hsource hhandle => ?_)
    fun t ht => hunique t (h.mem_exits_of_mem_transitions hwf hd ht)).trans hstate
  rw [← hsource, hwf.branch?_of_mem he hhandle]

/-- The state behind a step is the one that its option assigns. -/
theorem stateOf_successor?_eq (hkind : d.node.kind.isCondition = false) {target : String}
    (hfirst : d.exits = [(none, target)]) : stateOf (g.successor? d.node.id) = target := by
  have hx : (none, target) ∈ d.exits := by simp [hfirst]
  have hexit {handle : Option String} {t : String}
      (ht : (d.node.id, handle, t) ∈ transitions names start decoded) : handle = none ∧ t = target := by
    have hmem := h.mem_exits_of_mem_transitions hwf hd ht
    rw [hfirst, List.mem_singleton] at hmem
    exact Prod.mk.inj hmem
  have hmem : (d.node.id, none, target) ∈ transitions names start decoded :=
    List.mem_append_right _ (List.mem_flatMap.2 ⟨d, hd, List.mem_map_of_mem hx⟩)
  have hstate : stateOf (some target) = target := if_neg (h.ne_empty_of_mem_exits hwf hd hx)
  refine (h.stateOf_eq d.node.id none (.inr hmem) (fun t ht => ?_)
    (fun e he hsource _ => ?_) fun t ht => (hexit ht).2).trans hstate
  · obtain ⟨e, he, hsource, htarget⟩ := Graph.exists_edge_of_successor? ht
    exact ⟨e, he, hsource, htarget, (hexit (hsource ▸ h.mem_transitions he)).1⟩
  · have hcondition := hwf.isConditionAt_of_mem (h.mem_nodes hd)
    rw [hkind, ← hsource] at hcondition
    rw [← hsource, hwf.successor?_of_mem he hcondition]

/-- A run goes on from a node that was read as its option says. -/
theorem exits_eq : d.exits = exitStates g d.node := by
  have hhandles := h.handles d hd
  unfold exitStates exits
  -- a condition has two exits, in the order of its branches, and a step has one
  cases hkind : d.node.kind.isCondition with
  | true =>
    rw [hkind] at hhandles
    obtain ⟨⟨_, whenTrue⟩, rest, hfirst, rfl, hrest⟩ := List.map_eq_cons_iff.1 hhandles
    obtain ⟨⟨_, whenFalse⟩, more, rfl, rfl, hnone⟩ := List.map_eq_cons_iff.1 hrest
    rw [List.map_eq_nil_iff.1 hnone] at hfirst
    have htrue : stateOf (g.branch? d.node.id handleTrue) = whenTrue :=
      h.stateOf_branch?_eq hwf hd (by simp [hfirst]) (by simp [hfirst, handleTrue, handleFalse])
    have hfalse : stateOf (g.branch? d.node.id handleFalse) = whenFalse :=
      h.stateOf_branch?_eq hwf hd (by simp [hfirst]) (by simp [hfirst, handleTrue, handleFalse])
    rw [hfirst, Graph.whenTrue?, Graph.whenFalse?]
    simp [htrue, hfalse]
  | false =>
    rw [hkind] at hhandles
    obtain ⟨⟨_, target⟩, rest, hfirst, rfl, hrest⟩ := List.map_eq_cons_iff.1 hhandles
    rw [List.map_eq_nil_iff.1 hrest] at hfirst
    rw [hfirst]
    simp [h.stateOf_successor?_eq hwf hd hkind hfirst]

end Exits

/-- The triggers are those of the given names, and the nodes behind them are those of the
options. -/
theorem exists_triggers (h : IsGraphOf names start decoded g) :
    g.triggers.map (·.id) = names
      ∧ g.nodes.filter (fun n => !n.kind.isTrigger) = decoded.map (·.node) := by
  obtain ⟨starts, hnames, hstarts, hnodes⟩ := h.nodes
  have hbody : ∀ n ∈ decoded.map (·.node), n.kind.isTrigger = false := by
    intro n hn
    obtain ⟨d, hd, rfl⟩ := List.mem_map.1 hn
    exact h.body d hd
  rw [Graph.triggers, hnodes, List.filter_append, List.filter_append, List.filter_eq_self.2 hstarts,
    List.filter_eq_nil_iff.2 fun n hn => by simp [hbody n hn], List.append_nil,
    List.filter_eq_nil_iff.2 fun n hn => by simp [hstarts n hn], List.nil_append,
    List.filter_eq_self.2 fun n hn => by simp [hbody n hn]]
  exact ⟨hnames, rfl⟩

/-- Edges lead to the nodes of options. -/
theorem isName_target (h : IsGraphOf names start decoded g) (hwf : g.WellFormed) {e : Edge}
    (he : e ∈ g.edges) : IsName e.target.toList := by
  obtain ⟨-, -, -, n, hn, -, htarget, htrigger⟩ := hwf.edge he
  have hmem : n ∈ g.nodes.filter fun n => !n.kind.isTrigger :=
    List.mem_filter.2 ⟨hn, by simp [htrigger]⟩
  rw [h.exists_triggers.2] at hmem
  obtain ⟨d, hd, rfl⟩ := List.mem_map.1 hmem
  rw [htarget]
  exact h.ids d hd

/-- A trigger starts a run in the state that was read for it. -/
theorem resolve_eq (h : IsGraphOf names start decoded g) (hwf : g.WellFormed) {i : Nat}
    (hi : i < g.triggers.length) : Routing.resolve (Routing.render g.firstNodes) i
      = stateOf (some (Routing.resolve start i)) := by
  have hids : ∀ t ∈ g.firstNodes, ∀ id ∈ t, ∀ c ∈ id.toList, isIdChar c = true := by
    intro t ht id hid
    obtain ⟨-, -, e, he, -, rfl⟩ := Document.exists_edge_of_mem_firstNodes ht hid
    exact (h.isName_target hwf he).2
  have hfirst : i < g.firstNodes.length := by
    rwa [Graph.firstNodes, List.length_map]
  have hlength : i < names.length := by
    rwa [← h.exists_triggers.1, List.length_map]
  have hname : g.triggers[i].id = names[i] := by
    simp only [← h.exists_triggers.1, List.getElem_map]
  have htrigger : g.triggers[i] ∈ g.triggers := List.getElem_mem hi
  have hcondition : g.isConditionAt names[i] = false :=
    hname ▸ hwf.isConditionAt_of_mem_triggers htrigger
  rw [Routing.resolve_render hids hfirst]
  have hnext : g.firstNodes[i] = g.successor? names[i] := by
    simp only [Graph.firstNodes, List.getElem_map, hname]
  rw [hnext]
  -- the transition out of the trigger is the only one, unless the state is an empty text
  refine h.stateOf_eq names[i] none ?_ (fun t ht => ?_) (fun e he hsource _ => ?_) fun t ht => ?_
  · by_cases hempty : Routing.resolve start i = ""
    · exact .inl hempty
    · refine .inr (List.mem_append_left _ (List.mem_filter.2 ⟨?_, bne_iff_ne.2 hempty⟩))
      exact List.mem_map.2 ⟨(names[i], i), List.mk_mem_zipIdx_iff_getElem?.2 (by simp), rfl⟩
  · obtain ⟨e, he, hsource, htarget⟩ := Graph.exists_edge_of_successor? ht
    have hedge := h.eq_of_mem_transitions hwf hlength (hsource ▸ h.mem_transitions he)
    exact ⟨e, he, hsource, htarget, (Prod.mk.inj hedge).1⟩
  · rw [← hsource, hwf.successor?_of_mem he (hsource ▸ hcondition)]
  · exact (Prod.mk.inj (h.eq_of_mem_transitions hwf hlength ht)).2

end IsGraphOf

end Dispatch

namespace Document

open Dispatch

/-- A loop that was decoded to a graph, with all of its nodes on paths, agrees with the loop that is
written for the graph in all that the decoder looks at. -/
theorem retold_of_decode {limits : Limits} {triggers : List Entries} {actions : List Value}
    {ids : List String} {g g' : Graph} {w : Written} (hids : ids.length ≤ triggers.length)
    (hdecode : decode limits triggers actions ids = .ok g) (hnodes : g'.nodes = g.nodes)
    (hedges : g'.edges = g.edges) (hreach : ∀ n ∈ g'.nodes, g'.Reaches n.id)
    (hw : (dispatch limits g').1 = .ok w) :
    ∃ written, w.config.get? "actions" = some (.ofItems written)
      ∧ Retold limits g'.triggers.length actions written := by
  obtain ⟨r, -, joins, hanalyze, -, -, hconfig⟩ := of_dispatch_eq_ok hw
  obtain ⟨hcheck, hr⟩ := of_analyze_eq_ok hanalyze
  have hwf := (Graph.check_eq_ok_iff.1 hcheck).2
  obtain ⟨names, start, options, decoded, hloop, hread, hgraph⟩ := of_decode_eq_ok hids hdecode
  have hgraph : IsGraphOf names start decoded g' :=
    ⟨hnodes ▸ hgraph.nodes, hgraph.body, hgraph.ids, hgraph.handles, hedges ▸ hgraph.edges⟩
  have hbody : loopNodes r g' = decoded.map (·.node) := by
    rw [← hgraph.exists_triggers.2, loopNodes, hr]
    refine List.filter_congr fun n hn => ?_
    rw [List.contains_iff_mem.2 (Graph.mem_reachable_iff.2 (hreach n hn)), Bool.and_true]
  refine ⟨Dispatch.actions limits g' joins (decoded.map (·.node)), ?_, ?_⟩
  · rw [hconfig, hbody]
    exact get?_assemble_actions ..
  -- without options nothing is written, whatever was read
  by_cases hnone : decoded = []
  · subst hnone
    cases hread
    rcases hloop with ⟨rfl, -⟩ | hloop
    · exact .nothing
    · exact .idle hloop
  · have hne : decoded.map (·.node) ≠ [] := by simpa using hnone
    have hlength : (Dispatch.actions limits g' joins (decoded.map (·.node))).length = 3 := by
      unfold Dispatch.actions
      rw [if_neg (by simpa using hnone)]
      rfl
    rcases hloop with ⟨-, rfl⟩ | hloop
    · cases hread
      exact absurd rfl hnone
    · refine .loop hloop (readLoop_actions hne) hlength (fun i hi => hgraph.resolve_eq hwf hi) ?_
      rw [List.map_map, List.forall₂_map_right_iff]
      refine List.forall₂_iff_zip.2 ⟨hread.length_eq, fun {v d} hzip => ?_⟩
      have hd : d ∈ decoded := (List.of_mem_zip hzip).2
      exact .of_readOption ((List.forall₂_iff_zip.1 hread).2 hzip) (hgraph.exits_eq hwf hd)

/-- A loop for one lamp that was changed by hand: it stops after each pass, it says so when it comes
to a state that it does not know, and it has two entries of other kinds behind it. -/
def changedLoop : List Value := [
  assignText "lamp",
  .ofEntries [(.str "repeat", .ofEntries [
    (.str "sequence", .ofItems [.ofEntries [
      (.str "choose", .ofItems [.ofEntries [
        (.str "conditions", .ofItems [stateTest "lamp"]),
        (.str "sequence", .ofItems [.ofEntries [(.str "action", .str "light.turn_on")],
          assign none])]]),
      (.str "default", .ofItems [.ofEntries [(.str "action", .str "notify.hall")]])]]),
    (.str "until", .ofItems [templateCondition "true"])])],
  .ofEntries [(.str "delay", .int 5)],
  .ofEntries [(.str "action", .str "light.turn_off")]]

/-- The graph that this loop is decoded to. -/
def lampGraph : Graph where
  nodes := [
    { id := "trigger_1", kind := .trigger, data := [(.str "trigger", .str "sun")] },
    { id := "lamp", kind := .action, data := [(.str "action", .str "light.turn_on")] }]
  edges := [.between "trigger_1" "lamp"]

theorem decode_changedLoop :
    decode {} [[(.str "trigger", .str "sun")]] changedLoop [] = .ok lampGraph := by
  rfl

theorem reaches_lampGraph : ∀ n ∈ lampGraph.nodes, lampGraph.Reaches n.id := by
  intro n hn
  refine Graph.mem_reachable_iff.1 ?_
  rw [show lampGraph.reachable = lampGraph.nodes.map (·.id) by decide +kernel]
  exact List.mem_map_of_mem hn

theorem retold_changedLoop : ∃ w written, (dispatch {} lampGraph).1 = .ok w
    ∧ w.config.get? "actions" = some (.ofItems written) ∧ Retold {} 1 changedLoop written := by
  have hwritten : ((dispatch {} lampGraph).1).toOption.isSome = true := by decide +kernel
  obtain ⟨w, hw⟩ := Outcome.isSome_toOption.1 hwritten
  obtain ⟨written, hget, hretold⟩ :=
    retold_of_decode (Nat.zero_le _) decode_changedLoop rfl rfl reaches_lampGraph hw
  exact ⟨w, written, hw, hget, hretold⟩

/-- Not all of a loop that is decoded is written again: entries behind the loop are lost. -/
theorem exists_decode_not_retained : ∃ g w written,
    decode {} [[(.str "trigger", .str "sun")]] changedLoop [] = .ok g ∧ g.WellFormed
      ∧ (∀ n ∈ g.nodes, g.Reaches n.id) ∧ (dispatch {} g).1 = .ok w
      ∧ w.config.get? "actions" = some (.ofItems written)
      ∧ changedLoop.length = 4 ∧ written.length = 3 := by
  have hwf : lampGraph.WellFormed := List.isEmpty_iff.1 (by decide +kernel)
  have hwritten : ((dispatch {} lampGraph).1).toOption.any (fun w =>
      (((w.config.get? "actions").bind Value.items?).map (·.length)) == some 3) = true := by
    decide +kernel
  obtain ⟨w, hw, hitems⟩ := (Option.any_eq_true _ _).1 hwritten
  have hw := Outcome.toOption_eq_some.1 hw
  obtain ⟨r, -, joins, -, -, -, hconfig⟩ := of_dispatch_eq_ok hw
  have hget : w.config.get? "actions"
      = some (.ofItems (Dispatch.actions {} lampGraph joins (loopNodes r lampGraph))) := by
    rw [hconfig]
    exact get?_assemble_actions ..
  -- three actions are emitted where the decoded list has more
  have hlength : (Dispatch.actions {} lampGraph joins (loopNodes r lampGraph)).length = 3 := by
    rw [hget] at hitems
    exact Option.some.inj (beq_iff_eq.1 hitems)
  exact ⟨lampGraph, w, _, decode_changedLoop, hwf, reaches_lampGraph, hw, hget, rfl, hlength⟩

end Document

end Automation
