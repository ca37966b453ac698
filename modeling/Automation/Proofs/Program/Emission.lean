import Automation.Proofs.Document.Assembly
import Automation.Proofs.Program.Answers

/-!
# What a program lists

With levels enough, every graph without cycles is lowered (`Graph.Ranked.exists_program`). The
program lists the triggers first, and then each node that paths lead to at least once. It lists a
node twice exactly if the report on the graph names one that is met again, so that native graphs are
the graphs whose documents record each such node once (`Document.exists_program_listing`).
-/

namespace Automation

namespace Graph

open JoinTable (Exact)

variable {g : Graph} {limits : Limits} {r : TopologyReport} {rank : String → Nat} {top : Nat}

/-! ## Graphs that are lowered -/

/-- The further options of a choice have higher ranks than the first one. -/
theorem Ranked.lt_of_furtherOptions (hg : g.Ranked rank) {join : Option String} {steps : Nat}
    {id : String} {more : List Node} (h : g.furtherOptions r join steps id = .ok more) :
    ∀ m ∈ more, rank id < rank m.id := by
  induction more generalizing steps id with
  | nil => exact List.forall_mem_nil _
  | cons m more ih =>
    obtain ⟨steps', hmore, hfalse, -⟩ := of_furtherOptions_eq_cons h
    have hlt := hg.lt_of_branch? hfalse
    exact List.forall_mem_cons.2 ⟨hlt, fun m' hm' => Nat.lt_trans hlt (ih hmore m' hm')⟩

section Levels

variable (hg : g.Ranked rank) (hwf : g.WellFormed) (hr : r.Within g)
  (hjoin : ∀ id, ∀ join ∈ r.join? id, rank id < rank join)

include hg hwf hr hjoin

omit hr hwf in
theorem Ranked.lt_of_behind? {n : Node} : ∀ id ∈ g.behind? r n, rank n.id < rank id := by
  rw [behind?]
  split
  · exact fun id => hg.lt_of_successor?
  · split
    · exact fun id => hg.lt_of_branch?
    · exact hjoin n.id

omit hr hjoin in
/-- The choice of a condition is lowered when walks with fewer steps are: the branches of its options
are one level further in, and start at higher ranks. -/
theorem Ranked.exists_lowerChoice (hbound : ∀ id, rank id ≤ top) {steps levels : Nat} {n : Node}
    (hwalks : ∀ {levels : Nat} {current : Option String} (stop : Option String),
      (∀ id ∈ current, id ∈ g.nodes.map (·.id) ∧ top ≤ rank id + levels) →
      ∃ bs, g.lowerFrom limits r stop steps levels current = .ok bs)
    (hlevels : top ≤ rank n.id + levels) :
    ∃ b, g.lowerChoice limits r steps levels n = .ok b := by
  have hbranch {m : Node} (hm : rank n.id ≤ rank m.id) (handle : String) :
      ∃ bs, g.lowerBranch limits r (r.join? n.id) steps levels (g.branch? m.id handle) = .ok bs := by
    cases htarget : g.branch? m.id handle with
    | none => exact ⟨[], rfl⟩
    | some target =>
      have hlt := hg.lt_of_branch? htarget
      have := hbound target
      obtain ⟨inside, rfl⟩ := Nat.exists_eq_add_one_of_ne_zero (by omega : levels ≠ 0)
      refine hwalks _ fun id hid => ?_
      cases hid
      exact ⟨hwf.mem_of_branch? htarget, by omega⟩
  obtain ⟨more, hmore, -⟩ := hwf.exists_furtherOptions r (r.join? n.id) steps n.id
  have hoption : ∀ m ∈ n :: more, rank n.id ≤ rank m.id := List.forall_mem_cons.2
    ⟨Nat.le_refl _, fun m hm => Nat.le_of_lt (hg.lt_of_furtherOptions hmore m hm)⟩
  obtain ⟨options, hoptions⟩ :=
    exists_lowerOptions fun m hm => hbranch (hoption m hm) handleTrue
  obtain ⟨otherwise, hotherwise⟩ : ∃ bs, g.lowerBranch limits r (r.join? n.id) steps levels
      (((n :: more).getLast?.map (·.id)).bind g.whenFalse?) = .ok bs := by
    rw [List.getLast?_eq_some_getLast (List.cons_ne_nil n more)]
    exact hbranch (hoption _ (List.getLast_mem _)) handleFalse
  exact ⟨_, lowerChoice_eq_ok.2 ⟨more, options, otherwise, hmore, hoptions, hotherwise, rfl⟩⟩

/-- A walk is lowered when there is a level for every rank above the node where it starts. -/
theorem Ranked.exists_lowerFrom (hbound : ∀ id, rank id ≤ top) {steps levels : Nat}
    {current : Option String} (stop : Option String)
    (hcurrent : ∀ id ∈ current, id ∈ g.nodes.map (·.id) ∧ top ≤ rank id + levels) :
    ∃ bs, g.lowerFrom limits r stop steps levels current = .ok bs := by
  induction steps generalizing levels current stop with
  | zero => exact ⟨[], rfl⟩
  | succ steps ih =>
    cases current with
    | none => exact ⟨[], rfl⟩
    | some id =>
      by_cases hstop : stop = some id
      · rw [← hstop]
        exact ⟨[], lowerFrom_stop⟩
      obtain ⟨hmem, hlevels⟩ := hcurrent id rfl
      obtain ⟨n, -, hn⟩ := exists_nodeAt hmem
      obtain ⟨-, rfl, -⟩ := nodeAt_eq_ok hn
      obtain ⟨b, hb⟩ : ∃ b, g.lowerNode limits r steps levels n = .ok b := by
        rw [lowerNode]
        split
        · exact hg.exists_lowerChoice hwf hbound (fun stop => ih stop) hlevels
        · exact ⟨_, rfl⟩
      obtain ⟨rest, hrest⟩ : ∃ bs, g.lowerFrom limits r stop steps levels (g.behind? r n) = .ok bs :=
        ih stop fun id hid => ⟨hwf.mem_of_behind? hr id hid, by
          have := hg.lt_of_behind? hjoin id hid
          omega⟩
      exact ⟨b :: rest, by rw [lowerFrom_succ hstop, hn, Outcome.ok_bind, hb, Outcome.ok_bind, hrest]; rfl⟩

/-- A graph without cycles has a program, when there are as many levels as ranks. -/
theorem Ranked.exists_program (hbound : ∀ id, rank id ≤ top) (hlevels : top ≤ limits.maxNesting) :
    ∃ p, g.program limits r = .ok p := by
  obtain ⟨gates, next, hgates, -, hnext⟩ := hwf.exists_leadingGates g.stepBound hr.entry
  obtain ⟨body, hbody⟩ : ∃ body,
      g.lowerFrom limits r none g.stepBound limits.maxNesting.toNat next = .ok body :=
    hg.exists_lowerFrom hwf hr hjoin hbound none fun id hid => ⟨hnext id hid, by omega⟩
  exact ⟨_, program_eq_ok.2 ⟨gates, next, body, hgates, by omega, hbody, rfl⟩⟩

end Levels

/-- The joins of a graph without cycles are the end or nodes of higher rank. -/
theorem Ranked.lt_of_reported_join? (hg : g.Ranked rank) (ht : Exact g r.joins) {id join : String}
    (h : r.join? id = some join) : rank id < rank join := by
  cases hjoin : r.joins.join? id with
  | none =>
    rw [TopologyReport.join?, hjoin] at h
    cases h
  | some name => exact (hg.lt_of_join? ht hjoin join ((join?_eq_place hjoin).symm.trans h)).2

/-- What the program of a graph without cycles lists, whatever the report says is met again. -/
theorem Ranked.exists_covered (hg : g.Ranked rank) (hbound : ∀ id, rank id ≤ g.nodes.length)
    (hwf : g.WellFormed) (hexit : g.NoExit) (hagree : g.triggersAgree = true)
    {reporting : Limits} (hr : g.analyze reporting = .ok r) (named : List String)
    (hlevels : g.nodes.length ≤ limits.maxNesting) :
    ∃ p, g.program limits { r with reconvergent := named } = .ok p ∧ Covered g p
      ∧ ((p.nodes.map (·.id)).Nodup ↔ r.reconvergent = []) := by
  obtain ⟨hexact, hentry, ids, hregion, hids, hnodup⟩ :=
    exists_delimited hwf hexit hg hbound hagree hr
  obtain ⟨r', hr', hwithin⟩ := exists_analyze (Document.of_analyze_eq_ok hr).1
  cases hr.symm.trans hr'
  obtain ⟨p, hp⟩ : ∃ p, g.program limits { r with reconvergent := named } = .ok p :=
    hg.exists_program hwf ⟨hwithin.entry, hwithin.join⟩
      (fun id join h => hg.lt_of_reported_join? hexact h) hbound hlevels
  obtain ⟨hcovered, hiff⟩ :=
    @covered_of_program g limits { r with reconvergent := named } rank hwf hg hbound hexact hentry ids
      hregion hids p hp
  exact ⟨p, hp, hcovered, hiff.trans hnodup⟩

end Graph

namespace Document

open Automation.Graph

/-- The ids that a document records, in their order. -/
def Records (config : Entries) (ids : List String) : Prop :=
  ∃ vars block, config.get? "variables" = some (.ofEntries vars)
    ∧ Entries.get? vars Metadata.key = some (.ofEntries block)
    ∧ Entries.get? block "node_ids" = some (.ofTexts ids)

/-- Whether a document records each node that paths lead to, once, and no other. -/
def RecordsReached (g : Graph) (config : Entries) : Prop :=
  ∃ ids, Records config ids ∧ ids.Nodup ∧ ∀ id, id ∈ ids ↔ ∃ n ∈ g.nodes, n.id = id ∧ g.Reaches id

variable {g : Graph} {r : TopologyReport}

theorem records_assemble (g : Graph) (strategy : Strategy) (order : List String)
    (triggers conditions actions : List Value) :
    Records (assemble g strategy order triggers conditions actions) order :=
  ⟨_, _, get?_assemble_variables .., Entries.get?_set_self .., rfl⟩

theorem recordsReached_assemble {p : Program} (hp : Programmed g p) (strategy : Strategy)
    (triggers conditions actions : List Value) : RecordsReached g
      (assemble g strategy (p.nodes.map (·.id)) triggers conditions actions) := by
  refine ⟨_, records_assemble .., hp.nodup, fun id => List.mem_map.trans ⟨?_, ?_⟩⟩
  · rintro ⟨n, hn, rfl⟩
    obtain ⟨hn, hreaches⟩ := (hp.mem_iff n).1 hn
    exact ⟨n, hn, rfl, hreaches⟩
  · rintro ⟨n, hn, rfl, hreaches⟩
    exact ⟨n, (hp.mem_iff n).2 ⟨hn, hreaches⟩, rfl⟩

/-- In a well-formed graph without cycles whose triggers agree, and without a node that has the name
of the end, lowering lists the triggers and behind them the nodes that paths lead to, whatever the
report says is met again, as long as no branch is too deep. It lists a node more than once exactly
if the report says that one is met again. So the document of a native graph records each node that
paths lead to, once, and no other. -/
theorem exists_program_listing {reporting : Limits} (hwf : g.WellFormed) (hexit : g.NoExit)
    (hr : g.analyze reporting = .ok r) :
    ((∀ id, ¬Relation.TransGen g.Leads id id) → g.triggersAgree = true →
      ∀ (limits : Limits) (named : List String), g.nodes.length ≤ limits.maxNesting →
        ∃ p rest, g.program limits { r with reconvergent := named } = .ok p
          ∧ p.nodes = g.triggers ++ rest
          ∧ (∀ n, n ∈ rest ↔ n ∈ g.nodes ∧ n.kind.isTrigger = false ∧ g.Reaches n.id)
          ∧ ((∃ id, 1 < (p.nodes.map (·.id)).count id) ↔ r.reconvergent ≠ []))
    ∧ (r.isNative = true →
      (∀ limits : Limits, g.nodes.length ≤ limits.maxNesting →
        ∃ config, nativeEntries limits r g = .ok config ∧ RecordsReached g config)
      ∧ ∀ (limits : Limits) (w : Written), (native limits g).1 = .ok w → RecordsReached g w.config) := by
  refine ⟨fun hacyclic hagree limits named hlevels => ?_,
    fun hnative => ⟨fun limits hlevels => ?_, fun limits w hw => ?_⟩⟩
  · obtain ⟨rank, hg, hbound⟩ := hwf.exists_ranked_le hacyclic
    obtain ⟨p, hp, hcovered, hnodup⟩ :=
      hg.exists_covered hbound hwf hexit hagree hr named hlevels
    refine ⟨p, p.gates ++ Block.listNodes p.body, hp, ?_, hcovered.behind_iff, ?_⟩
    · rw [Program.nodes, List.append_assoc, hcovered.triggers]
    · rw [ne_eq, ← hnodup, List.nodup_iff_count_le_one, not_forall]
      exact exists_congr fun id => Nat.not_le.symm
  · obtain ⟨hacyclic, hagree, -⟩ := of_isNative hwf hr hnative
    obtain ⟨rank, hg, hbound⟩ := hwf.exists_ranked_le hacyclic
    obtain ⟨p, hp, -⟩ :=
      hg.exists_covered hbound hwf hexit hagree hr r.reconvergent hlevels
    have hp : g.program limits r = .ok p := hp
    have hconfig : nativeEntries limits r g = .ok (assemble g .native (p.nodes.map (·.id))
        (Program.payloads p.triggers) (Program.payloads p.gates) p.actions) := by
      unfold nativeEntries
      rw [hp]
      rfl
    exact ⟨_, hconfig, recordsReached_assemble (programmed_of_program hwf hexit hr hnative hp) ..⟩
  · obtain ⟨r', p, hr', hnative', hp, hconfig⟩ := of_native_eq_ok hw
    rw [hconfig]
    exact recordsReached_assemble (programmed_of_program hwf hexit hr' hnative' hp) ..

/-- Lamps that two conditions lead to on different branches. -/
def crossLamps : Graph where
  nodes := [
    { id := "dusk", kind := .trigger },
    { id := "home", kind := .condition },
    { id := "late", kind := .condition },
    { id := "lamp", kind := .action },
    { id := "dim", kind := .action },
    { id := "rest", kind := .delay },
    { id := "attic", kind := .action }]
  edges := [.between "dusk" "home", .between "home" "lamp" (some handleTrue),
    .between "home" "late" (some handleFalse), .between "late" "lamp" (some handleTrue),
    .between "late" "dim" (some handleFalse), .between "lamp" "rest", .between "dim" "rest"]

/-- The same lamps with an edge less, so that each stands on one branch. -/
def sideLamps : Graph :=
  { crossLamps with edges := crossLamps.edges.filter fun e => e.source != "home" || e.target != "lamp" }

theorem exists_program_listing_crossLamps :
    (∃ r p id, crossLamps.analyze {} = .ok r ∧ crossLamps.program {} { r with reconvergent := [] } = .ok p
      ∧ 1 < (p.nodes.map (·.id)).count id)
    ∧ ∃ r config, sideLamps.analyze {} = .ok r ∧ nativeEntries {} r sideLamps = .ok config
      ∧ RecordsReached sideLamps config := by
  -- the report is computed as far as it takes to see that there is one with the property
  have hreport {P : TopologyReport → Bool} {g : Graph}
      (h : (g.analyze {}).toOption.any P = true) : ∃ r, g.analyze {} = .ok r ∧ P r = true := by
    cases hr : g.analyze {} with
    | error failure =>
      rw [hr] at h
      cases h
    | ok r =>
      rw [hr] at h
      exact ⟨r, rfl, h⟩
  constructor
  · have hranked : crossLamps.Ranked fun id => ["dusk", "home", "late", "lamp", "dim"].idxOf id := by
      unfold Ranked
      decide
    obtain ⟨r, hr, hagain⟩ := hreport (P := fun r => !r.reconvergent.isEmpty) (g := crossLamps)
      (by decide +kernel)
    obtain ⟨hlisting, -⟩ := exists_program_listing (List.isEmpty_iff.1 (by decide +kernel))
      (by unfold NoExit; decide) hr
    obtain ⟨p, -, hp, -, -, htwice⟩ := hlisting
      (fun id hid => Nat.lt_irrefl _ (hranked.lt_of_transGen hid)) (by decide) {} [] (by decide)
    obtain ⟨id, hid⟩ := htwice.2 (by simpa using hagain)
    exact ⟨r, p, id, hr, hp, hid⟩
  · obtain ⟨r, hr, hnative⟩ := hreport (P := TopologyReport.isNative) (g := sideLamps)
      (by decide +kernel)
    obtain ⟨-, hlisting⟩ := exists_program_listing (List.isEmpty_iff.1 (by decide +kernel))
      (by unfold NoExit; decide) hr
    obtain ⟨config, hconfig, hrecords⟩ := (hlisting hnative).1 {} (by decide)
    exact ⟨r, config, hr, hconfig, hrecords⟩

end Document

end Automation
