import Automation.Proofs.Program.Formation
import Automation.Proofs.Program.Rereading

/-!
# Native documents can be read

A reader takes the document that was written for a graph with branching blocks, under the limits
under which it was written (`Document.exists_parse_native`). The walk that writes it already keeps
to the limits on nesting and on nodes; what it does not look at are the budgets of choose blocks and
choices with nothing in their branches, and these have to be right. Nor does it look into payloads:
what stands in the two lists of the document has to be a mapping from texts, and an action must not
be found inside itself (`Document.exists_native_not_parse`).
-/

namespace Automation

namespace Document

open Automation.Graph Reads

variable {limits : Limits} {g : Graph}

/-- Names that are restored change nothing else, and what there is to say about them can be
written. -/
theorem restoreIds_same (g : Graph) (m : Metadata) : Notice.check (restoreIds g m).2 = .ok ()
    ∧ (restoreIds g m).1.nodes.length ≤ g.nodes.length
    ∧ ∀ n ∈ (restoreIds g m).1.nodes, ∃ n' ∈ g.nodes, n.kind = n'.kind ∧ n.data = n'.data := by
  have hself : ∀ n ∈ g.nodes, ∃ n' ∈ g.nodes, n.kind = n'.kind ∧ n.data = n'.data :=
    fun n hn => ⟨n, hn, rfl, rfl⟩
  unfold restoreIds
  split
  · exact ⟨rfl, Nat.le_refl _, hself⟩
  · split
    · exact ⟨rfl, Nat.le_refl _, hself⟩
    · dsimp only
      split
      · refine ⟨rfl, ?_, fun n hn => ?_⟩
        · show ((g.nodes.zip m.nodeIds).map _).length ≤ _
          rw [List.length_map, List.length_zip]
          exact Nat.min_le_left _ _
        · obtain ⟨x, hx, rfl⟩ := List.mem_map.1 hn
          exact ⟨x.1, (List.of_mem_zip hx).1, rfl, rfl⟩
      · exact ⟨rfl, Nat.le_refl _, hself⟩

/-- Whatever ids the metadata has, a well-formed graph stays one with the payloads that it has. -/
theorem restoreIds_keeps (hg : g.WellFormed) (m : Metadata) :
    (restoreIds g m).1.WellFormed ∧ Notice.check (restoreIds g m).2 = .ok ()
      ∧ (restoreIds g m).1.nodes.length ≤ g.nodes.length
      ∧ ∀ n ∈ (restoreIds g m).1.nodes, ∃ n' ∈ g.nodes, n.kind = n'.kind ∧ n.data = n'.data := by
  refine ⟨?_, restoreIds_same g m⟩
  unfold restoreIds
  split
  · exact hg
  · split
    · exact hg
    · dsimp only
      split
      · rename_i hproblems
        exact hproblems
      · exact hg

/-- A native document is written only when the issues of all nodes can be told. -/
theorem isTold_of_native {w : Written} (h : (native limits g).1 = .ok w) :
    ∀ n ∈ g.nodes, n.IsTold limits := by
  unfold native at h
  split at h
  · cases h
  · rename_i hexamine
    exact of_notices_eq_ok (of_examine_eq_ok hexamine).2

/-- A native document whose choose blocks are within their budgets, and in which no choice with
nothing in its branches stands inside as many others as may stand inside one another, can be read
when its triggers, and the steps that stand in no block, are mappings from texts. -/
theorem exists_parse_native (hg : g.Legible limits)
    (hmodern : ∀ n ∈ g.nodes, n.kind = .action → n.data.has "service" = false) {w : Written}
    (hw : (native limits g).1 = .ok w) {r : TopologyReport} (hr : g.analyze limits = .ok r)
    {p : Program} (hp : g.program limits r = .ok p)
    (hkeyed : ∀ n, n ∈ g.triggers ∨ Block.step n ∈ p.body → n.data.Keyed)
    (hbudget : Block.listAffordable limits p.body = true)
    (hhollow : Block.listHollowAt limits.maxNesting.toNat p.body = false) (freshId : String)
    (reading : Nat) :
    ∃ g' notices, parse limits freshId (.ofEntries w.config) reading = (.ok g', notices) := by
  obtain ⟨r', p', hanalyze, hnative, hprogram, hconfig⟩ := of_native_eq_ok hw
  cases hr.symm.trans hanalyze
  cases hp.symm.trans hprogram
  have hdepth := listDepth_le_of_program hp hhollow
  have hp := programmed_of_program hg.wellFormed hg.exit hanalyze hnative hprogram
  have hbody : Program.Readable limits g limits.maxNesting.toNat p.body :=
    ⟨hp.shaped, hp.inside, hbudget, hdepth⟩
  have hactions := p.actions_eq_map
  obtain ⟨hpayloads, hplatforms⟩ := payloads_triggers
    (fun n hn htrigger => hkeyed n (.inl (List.mem_filter.2 ⟨hn, htrigger⟩))) hg.platform
  have hne := hg.wellFormed.payloads_ne_nil
  rw [← hp.triggers] at hpayloads hplatforms hne
  obtain ⟨record, m, hconditions, hrecord, hid, -, hstrategy, hparse⟩ :=
    parse_assemble hg.headed .native (p.nodes.map (·.id)) hpayloads hplatforms hne
      (Program.payloads p.gates) (Block.forall_of_listShaped hg.told hg.keyed (fun _ hes => hes)
        (fun n hn => hkeyed n (.inr hn)) hp.shaped hp.inside)
  -- there is room for the nodes, as they are nodes of the graph
  have hroom : (p.nodes.length : Int) ≤ limits.maxGraphNodes := by
    have hsize := (check_eq_ok_iff.1 (of_analyze_eq_ok hanalyze).1).1
    have hsubset : p.nodes.length ≤ g.nodes.length :=
      (List.Nodup.subperm hp.nodup.of_map fun n hn => ((hp.mem_iff n).1 hn).1).length_le
    omega
  obtain ⟨q, s, hread, -, htold⟩ := Program.creates_read hg hmodern (isTold_of_native hw) hp hbody
    hactions {} (by simpa using hroom)
  have hq := (Program.sectionsRead_of_read rfl hread).wellFormed hne
  obtain ⟨hwf, hcheck, hlength, hkept⟩ := restoreIds_keeps hq m
  have hlength : (restoreIds q.graph m).1.nodes.length ≤ p.nodes.length :=
    htold.length ▸ hlength
  have hgraph : proceed (readGraph limits (some m) (p.triggers.map (·.data)) record) {}
      = (.ok { (restoreIds q.graph m).1 with strategy := m.strategy },
        { s with notices := s.notices ++ (restoreIds q.graph m).2 }) := by
    have hstructure : proceed (readStructure limits (some m) (p.triggers.map (·.data)) record) {}
        = (.ok (restoreIds q.graph m).1,
          { s with notices := s.notices ++ (restoreIds q.graph m).2 }) := by
      unfold readStructure
      rw [hconditions, hrecord, proceed_bind_of_ok hread]
      dsimp only
      rw [proceed_bind_of_ok (proceed_note hcheck s)]
      rfl
    unfold readGraph
    dsimp only
    rw [if_neg (by rw [hstrategy]; decide), proceed_bind_of_ok hstructure]
    rfl
  have hsize : ((restoreIds q.graph m).1.nodes.length : Int) ≤ limits.maxGraphNodes := by omega
  have hissues : ∀ n ∈ (restoreIds q.graph m).1.nodes, n.IsTold limits := by
    intro n hn
    obtain ⟨n', hn', hkind, hdata⟩ := hkept n hn
    exact (htold.told n' hn').of_eq hkind hdata
  obtain ⟨g', notices, hsettle, -⟩ := exists_proceed_settle freshId
    (g := { (restoreIds q.graph m).1 with strategy := m.strategy }) hwf hsize hissues m hid
    { s with notices := s.notices ++ (restoreIds q.graph m).2 }
  rw [hconfig, hactions, Program.payloads_eq_map p.triggers, hparse, start_eq_proceed,
    proceed_bind_of_ok hgraph, hsettle]
  exact ⟨g', _, rfl⟩

/-- The lights at dusk are written with an if block, and what is written can be read. -/
theorem exists_parse_native_duskLights :
    ∃ w, (native {} duskLights).1 = .ok w
      ∧ ∃ g' notices, parse {} "new" (.ofEntries w.config) 0 = (.ok g', notices) := by
  have hrun : ((duskLights.analyze {}).toOption.bind fun r => (duskLights.program {} r).toOption.map
      fun p => (native {} duskLights).1.toOption.isSome && Block.listAffordable {} p.body
        && !Block.listHollowAt 32 p.body) = some true := by decide +kernel
  rcases hr : duskLights.analyze {} with _ | r
  · rw [hr] at hrun
    cases hrun
  rw [hr] at hrun
  rcases hp : duskLights.program {} r with _ | p
  · change ((duskLights.program {} r).toOption.map _) = _ at hrun
    rw [hp] at hrun
    cases hrun
  change ((duskLights.program {} r).toOption.map _) = _ at hrun
  rw [hp] at hrun
  rcases hw : (native {} duskLights).1 with _ | w
  · rw [hw] at hrun
    cases hrun
  rw [hw] at hrun
  have hright := Option.some.inj hrun
  simp only [Bool.and_eq_true, Bool.not_eq_true'] at hright
  have hmodern : ∀ n ∈ duskLights.nodes, n.data.has "service" = false := by decide +kernel
  have hone (name : String) (v : Value) : Entries.Keyed [(.str name, v)] :=
    Entries.keyed_nil.cons rfl _
  have hall : ∀ n ∈ duskLights.nodes, n.data.Keyed := by
    simp only [duskLights, List.forall_mem_cons, List.not_mem_nil, false_imp_iff, implies_true,
      and_true]
    exact ⟨(hone ..).cons rfl _, ((hone ..).cons rfl _).cons rfl _, hone .., hone .., hone ..⟩
  -- the steps in the program are nodes of the graph, and these have texts as keys
  have hkeyed (n : Node) (hn : n ∈ duskLights.triggers ∨ Block.step n ∈ p.body) : n.data.Keyed := by
    rcases hn with hn | hn
    · exact hall n (List.mem_filter.1 hn).1
    · obtain ⟨r', p', hr', hnative, hp', -⟩ := of_native_eq_ok hw
      cases hr.symm.trans hr'
      cases hp.symm.trans hp'
      have hinside := (programmed_of_program normal_duskLights.wellFormed normal_duskLights.exit hr
        hnative hp).inside
      exact hall n (hinside n (Block.mem_listNodes_of_step hn)).1
  exact ⟨w, rfl, exists_parse_native normal_duskLights.legible (fun n hn _ => hmodern n hn) hw hr hp
    hkeyed hright.1.2 hright.2 "new" 0⟩

/-! ## Documents that cannot be read -/

/-- A graph with nothing out of the ordinary, and flags and names on conditions only, for which a
document is written that cannot be read. -/
def IsRefused (limits : Limits) (g : Graph) : Prop :=
  g.Telling limits ∧ (∀ n ∈ g.nodes, n.kind = .action → n.data.has "service" = false)
    ∧ (∀ n ∈ g.nodes, n.kind.isCondition = false → n.label = .null ∧ n.flags = [])
    ∧ ∃ w, (native limits g).1 = .ok w
      ∧ ∀ g', (parse limits "new" (.ofEntries w.config)).1 ≠ .ok g'

def morning : Node where
  id := "t1"
  kind := .trigger
  data := [(.str "trigger", .str "time"), (.str "at", .str "07:00:00")]

def whenLit (id : String) (label : Value := .null) (flags : Entries := []) : Node where
  id := id
  kind := .condition
  data := [(.str "condition", .str "state"), (.str "entity_id", .str "light.hall"),
    (.str "state", .str "on")]
  label := label
  flags := flags

def turnOn (id : String) (more : Entries := []) : Node where
  id := id
  kind := .action
  data := (.str "action", .str "light.turn_on") :: more

/-- Nodes with nothing out of the ordinary. -/
inductive IsOrdinary : Node → Prop where
  | morning : IsOrdinary morning
  | whenLit {id : String} {label : Value} {flags : Entries} (hflags : flags.Distinct) :
    IsOrdinary (whenLit id label flags)
  | turnOn {id : String} {more : Entries}
    (honce : (Value.ofEntries (turnOn id more).data).keysOnce = true)
    (hkind : Entry.kind (turnOn id more).data = .step .action)
    (hservice : (turnOn id more).data.has "service" = false) : IsOrdinary (turnOn id more)

/-- A graph of such nodes is told for what it is, so the document that is written for it should be
read. -/
theorem isRefused_of_run {limits : Limits} {nodes : List Node} {edges : List Edge}
    (hwf : Graph.problems { nodes, edges } = [])
    (hnodes : ∀ n ∈ nodes, IsOrdinary n)
    (hnormal : Condition.IsNormal limits (whenLit "").data)
    (hrun : (native limits { nodes, edges }).1.toOption.map (fun w =>
      (parse limits "new" (.ofEntries w.config)).1.toOption.isSome) = some false) :
    IsRefused limits { nodes, edges } := by
  have hall {P : Node → Prop} (htrigger : P morning)
      (hcondition : ∀ id label flags, Entries.Distinct flags → P (whenLit id label flags))
      (haction : ∀ id more, (Value.ofEntries (turnOn id more).data).keysOnce = true →
        Entry.kind (turnOn id more).data = .step .action →
        (turnOn id more).data.has "service" = false → P (turnOn id more)) :
      ∀ n ∈ nodes, P n := by
    intro n hn
    cases hnodes n hn with
    | morning => exact htrigger
    | whenLit hflags => exact hcondition _ _ _ hflags
    | turnOn honce hkind hservice => exact haction _ _ honce hkind hservice
  -- each condition is met by all three sorts of nodes
  have htelling : Graph.Telling limits { nodes, edges } := {
    wellFormed := hwf
    headed := ⟨⟨1, rfl⟩, hall nofun (fun _ _ _ _ => nofun) fun _ _ _ _ _ => nofun,
      nofun, nofun, nofun, Entries.keyed_nil⟩
    once := hall rfl (fun _ _ _ _ => rfl) fun _ _ honce _ _ => honce
    distinct := hall .nil (fun _ _ _ hflags => hflags) fun _ _ _ _ _ => .nil
    platform := hall (fun _ => rfl) (fun _ _ _ _ => nofun) fun _ _ _ _ _ => nofun
    normal := hall nofun (fun _ _ _ _ _ => hnormal) fun _ _ _ _ _ => nofun
    unblocked := hall nofun (fun _ _ _ _ _ => ⟨rfl, rfl⟩) fun _ _ _ _ _ => nofun
    step := hall nofun (fun _ _ _ _ _ => nofun) fun _ _ _ hkind _ _ _ => hkind }
  refine ⟨htelling, ?_, ?_, ?_⟩
  · exact hall nofun (fun _ _ _ _ => nofun) fun _ _ _ _ hservice _ => hservice
  · exact hall (fun _ => ⟨rfl, rfl⟩) (fun _ _ _ _ => nofun) fun _ _ _ _ _ _ => ⟨rfl, rfl⟩
  · rcases hw : (native limits { nodes, edges }).1 with _ | w
    · rw [hw] at hrun
      cases hrun
    rw [hw] at hrun
    refine ⟨w, rfl, fun g' hg' => ?_⟩
    have hfail : (parse limits "new" (.ofEntries w.config)).1.toOption.isSome = false :=
      Option.some.inj hrun
    rw [hg'] at hfail
    cases hfail

/-- Documents that are written and cannot be read: with more nodes in a choose block than its
budget, with a block around nothing where no block may stand, with a node that has the name of the
place behind the end and is written twice, with a flag that has the key of a branch, with a number
for a key of an action that stands in no block, and with an action that is found inside itself. -/
theorem exists_native_not_parse :
    IsRefused { chooseNodesPerOption := 1 } {
      nodes := [morning, whenLit "c1", whenLit "c2", turnOn "a1", turnOn "a2"]
      edges := [.between "t1" "c1", .between "c1" "a1" (some handleTrue),
        .between "c1" "c2" (some handleFalse), .between "c2" "a2" (some handleTrue)] }
    ∧ IsRefused { maxNesting := 0 } {
      nodes := [morning, whenLit "c1" (.str "Dusk")], edges := [.between "t1" "c1"] }
    ∧ IsRefused { maxGraphNodes := 5 } {
      nodes := [morning, whenLit "c1", turnOn "a1", turnOn "a2", turnOn exitName]
      edges := [.between "t1" "c1", .between "c1" "a1" (some handleTrue),
        .between "c1" "a2" (some handleFalse), .between "a1" exitName, .between "a2" exitName] }
    ∧ IsRefused {} {
      nodes := [morning, whenLit "c1" .null [(.str "else", .ofTexts ["x"])], turnOn "a1"]
      edges := [.between "t1" "c1", .between "c1" "a1" (some handleTrue)] }
    ∧ IsRefused {} {
      nodes := [morning, turnOn "a1" [(.int 5, .int 1)]], edges := [.between "t1" "a1"] }
    ∧ IsRefused {} {
      nodes := [morning, turnOn "a1" [(.str "parallel",
        .list (.written 1 true) [.enclosing (.written 1 true) false])]]
      edges := [.between "t1" "a1"] } := by
  have hnone : Entries.Distinct [] := .nil
  have hflag : Entries.Distinct [(.str "else", .ofTexts ["x"])] := List.pairwise_singleton _ _
  have hplain {id : String} : IsOrdinary (turnOn id) := .turnOn rfl rfl rfl
  have hnormal {limits : Limits} (h : Condition.normalize limits (.ofEntries (whenLit "").data)
      = .ok (whenLit "").data) : Condition.IsNormal limits (whenLit "").data :=
    ⟨_, h, Value.same_ofEntries_self _⟩
  -- each graph is ordinary, and parsing what is written of it is run to its refusal
  refine ⟨isRefused_of_run (by decide +kernel) ?_ (hnormal rfl) (by decide +kernel),
    isRefused_of_run (by decide +kernel) ?_ (hnormal rfl) (by decide +kernel),
    isRefused_of_run (by decide +kernel) ?_ (hnormal rfl) (by decide +kernel),
    isRefused_of_run (by decide +kernel) ?_ (hnormal rfl) (by decide +kernel),
    isRefused_of_run (by decide +kernel) ?_ (hnormal rfl) (by decide +kernel),
    isRefused_of_run (by decide +kernel) ?_ (hnormal rfl) (by decide +kernel)⟩
  · simp [IsOrdinary.morning, IsOrdinary.whenLit hnone, hplain]
  · simp [IsOrdinary.morning, IsOrdinary.whenLit hnone]
  · simp [IsOrdinary.morning, IsOrdinary.whenLit hnone, hplain]
  · simp [IsOrdinary.morning, IsOrdinary.whenLit hflag, hplain]
  · exact List.forall_mem_cons.2 ⟨.morning, List.forall_mem_singleton.2 (.turnOn rfl rfl rfl)⟩
  · exact List.forall_mem_cons.2 ⟨.morning, List.forall_mem_singleton.2 (.turnOn rfl rfl rfl)⟩

end Document

end Automation
