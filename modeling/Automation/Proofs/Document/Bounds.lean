import Automation.Proofs.Document.Tolerance
import Automation.Proofs.Program.Bounds

/-!
# Documents within bounds

A document without metadata that is read under some limits is read under all others, with the same
nodes and edges, unless it goes over one of them: blocks inside one another, the nodes of one choose
block, the nodes of the graph, or the depth or the size of a condition (`Document.Exceeds`). Then,
and only then, it is refused as too large (`Document.tooLarge_iff_exceeds`). So raising limits never
makes a document unreadable (`Document.parse_of_atMost`).

Whether it goes over a limit is told from its actions and its graph: the nodes that an entry creates
are counted in the entry (`Entry.Counts`), and the payload of a condition has its depth and its size
in itself (`Condition.Form`).
-/

namespace Automation

open Entry Reads

/-! ## Payloads that are read -/

/-- If a node is a condition, its payload is in canonical form. -/
def Node.IsCanonical (n : Node) : Prop :=
  n.kind.isCondition = true → ∃ c, Condition.Canonical c ∧ n.data = Condition.toEntries c

/-- What there is to say about such a node can be told under all limits or none. -/
theorem Node.IsCanonical.isTold {limits limits' : Limits} {n : Node} (h : n.IsCanonical)
    (htold : n.IsTold limits) : n.IsTold limits' := by
  unfold IsTold issues at htold ⊢
  cases hkind : n.kind <;> rw [hkind] at htold
  case condition =>
    obtain ⟨c, hc, hdata⟩ := h (by rw [hkind]; rfl)
    rw [hdata]
    exact hc.exists_issues _
  all_goals exact htold

namespace Program

variable {limits : Limits}

mutual
/-- The conditions of an entry that is read are in canonical form. -/
theorem EntryRead.isCanonical {levels : Nat} {place : Place} {entry : Value}
    {created after : List NodeKind} {b : Block} :
    EntryRead limits levels place entry created b after → ∀ n ∈ b.nodes, n.IsCanonical
  | .step _ hkind _ => List.forall_mem_singleton.2 fun hcondition => by
    cases (isCondition_of_kind hkind).symm.trans hcondition
  | .gate _ _ hdata => List.forall_mem_singleton.2 fun _ =>
    Condition.exists_of_normalize_eq_ok hdata
  | .ifBlock _ _ hdata hthen helse => by
    obtain ⟨v, hnormal⟩ := Condition.exists_of_payload_eq_ok hdata
    refine List.forall_mem_append.2 ⟨List.forall_mem_append.2 ⟨List.forall_mem_cons.2 ⟨?_, ?_⟩,
      nofun⟩, ListRead.isCanonical helse⟩
    · exact fun _ => Condition.exists_of_normalize_eq_ok hnormal
    · exact ListRead.isCanonical hthen
  | .chooseBlock _ _ hoptions hdefault =>
    List.forall_mem_append.2 ⟨OptionsRead.isCanonical hoptions, ListRead.isCanonical hdefault⟩

theorem ListRead.isCanonical {levels : Nat} {place : Place} {i : Nat} {entries : List Value}
    {created after : List NodeKind} {bs : List Block} :
    ListRead limits levels place i entries created bs after →
    ∀ n ∈ Block.listNodes bs, n.IsCanonical
  | .nil => nofun
  | .cons hentry hrest =>
    List.forall_mem_append.2 ⟨EntryRead.isCanonical hentry, ListRead.isCanonical hrest⟩

theorem OptionsRead.isCanonical {levels : Nat} {place : Place} {i : Nat} {flags : Entries}
    {options : List Value} {created after : List NodeKind} {read : List (Node × List Block)} :
    OptionsRead limits levels place i flags options created read after →
    ∀ n ∈ Block.optionNodes read, n.IsCanonical
  | .nil => nofun
  | .cons _ _ hdata hbody hrest => by
    obtain ⟨v, hnormal⟩ := Condition.exists_of_payload_eq_ok hdata
    refine List.forall_mem_append.2 ⟨List.forall_mem_cons.2 ⟨?_, ListRead.isCanonical hbody⟩,
      OptionsRead.isCanonical hrest⟩
    exact fun _ => Condition.exists_of_normalize_eq_ok hnormal
end

/-- The conditions of a program that is read are in canonical form. -/
theorem SectionsRead.isCanonical {triggers actions : List Entries} {conditions : List Value}
    {p : Program} (h : SectionsRead limits triggers conditions actions p) :
    ∀ n ∈ p.nodes, n.IsCanonical := by
  obtain ⟨tests, htests, hgates⟩ := h.gates
  obtain ⟨_, hbody⟩ := h.body
  refine List.forall_mem_append.2 ⟨List.forall_mem_append.2 ⟨?_, ?_⟩, hbody.isCanonical⟩
  · intro n hn hcondition
    rw [h.triggers] at hn
    rw [(mem_freshNodes hn).1] at hcondition
    cases hcondition
  · intro n hn _
    have hdata : n.data ∈ tests := by
      rw [← map_data_freshNodes .condition (p.triggers.map (·.kind)).reverse tests, ← hgates]
      exact List.mem_map_of_mem hn
    obtain ⟨v, -, hnormal⟩ := Outcome.exists_of_mem_mapM htests hdata
    exact Condition.exists_of_normalize_eq_ok hnormal

end Program

/-- Limits each of which allows for no more than another. -/
structure Limits.AtMost (small large : Limits) : Prop where
  nesting : small.maxNesting ≤ large.maxNesting
  conditionDepth : small.maxConditionDepth ≤ large.maxConditionDepth
  conditionLeaves : small.maxConditionLeaves ≤ large.maxConditionLeaves
  perOption : small.chooseNodesPerOption ≤ large.chooseNodesPerOption
  nodes : small.maxGraphNodes ≤ large.maxGraphNodes

namespace Document

open Program (Fits Kept chooseBudget entriesOf)

/-! ## What is too large -/

/-- A document goes over a limit, in its actions or in the nodes of its graph. -/
inductive Exceeds (limits : Limits) (entries : List Value) (nodes : List Node) : Prop
  /-- A block stands inside too many others. -/
  | nesting {depth : Nat} {entry : Value} {o : Origin} {es : Entries}
    (hstands : StandsIn entries depth entry) (hentry : entry.expose = .map o es)
    (hblock : isBlock es = true) (hdeep : limits.maxNesting < (depth + 1 : Nat))
  /-- A choose block creates too many nodes, with all that is inside it. -/
  | budget {depth count : Nat} {entry : Value} {o : Origin} {es : Entries}
    (hstands : StandsIn entries depth entry) (hentry : entry.expose = .map o es)
    (hkind : Entry.kind es = .chooseBlock) (hcounts : Counts [entry] count)
    (hmany : limits.chooseNodesPerOption * max ((entriesOf (es.get "choose")).length : Int) 1
      < count)
  /-- The graph has too many nodes. -/
  | graph (hmany : limits.maxGraphNodes < nodes.length)
  /-- A condition has too many levels, or too many parts. -/
  | condition {n : Node} {depth size : Nat} (hn : n ∈ nodes) (hkind : n.kind.isCondition = true)
    (hform : Condition.Form n.data depth size)
    (hlarge : limits.maxConditionDepth < depth ∨ limits.maxConditionLeaves < size)

/-- What fits into all limits is what goes over none. -/
theorem fits_iff_not_exceeds {limits : Limits} {entries : List Value} {nodes : List Node} :
    Fits limits limits.maxNesting.toNat entries nodes 0 ↔ ¬Exceeds limits entries nodes := by
  constructor
  · rintro ⟨hkept, hallowed, hroom⟩ hexceeds
    -- each way to exceed the limits contradicts one of them
    cases hexceeds with
    | nesting hstands hentry hblock hdeep =>
      have hdepth := (hkept _ _ hstands).block _ _ hentry hblock
      omega
    | budget hstands hentry hkind hcounts hmany =>
      have hbudget := (hkept _ _ hstands).budget _ _ _ hentry hkind hcounts
      unfold chooseBudget at hbudget
      omega
    | graph hmany => omega
    | condition hn hkind hform hlarge =>
      obtain ⟨hdepth, hsize⟩ := hallowed _ hn hkind _ _ hform
      omega
  · -- and each limit that is not kept is a way to exceed them
    intro hexceeds
    refine ⟨fun depth entry hstands => ⟨fun o es hentry hblock => ?_,
      fun o es count hentry hkind hcounts => ?_⟩, fun n hn hkind depth size hform => ⟨?_, ?_⟩, ?_⟩
      <;> by_contra hlarge <;> apply hexceeds
    · exact .nesting hstands hentry hblock (by omega)
    · exact .budget hstands hentry hkind hcounts (Int.not_le.1 hlarge)
    · exact .condition hn hkind hform (.inl (Int.not_le.1 hlarge))
    · exact .condition hn hkind hform (.inr (Int.not_le.1 hlarge))
    · exact .graph (by omega)

/-! ## Documents under limits -/

variable {limits large : Limits} {freshId : String} {document : Value} {reading : Nat}
  {r : AutomationRecord} {g : Graph}

/-- A program that was settled under some limits is settled under others that have room for it. -/
theorem settle_of_settle {p : Program} {t t' : Intake} (hcanonical : ∀ n ∈ p.nodes, n.IsCanonical)
    (h : proceed (settle large freshId none r p.graph) t = (.ok g, t'))
    (hroom : p.nodes.length ≤ limits.maxGraphNodes) (freshId' : String) (s : Intake) :
    (proceed (settle limits freshId' none r p.graph) s).1 = .ok { g with id := freshId' } := by
  obtain ⟨automationId, notices, hid, hg, hcheck, hnotices, -⟩ := eq_of_settle_eq_ok h
  have hnodes : g.nodes = p.graph.nodes.map fun n =>
      (none : Option Metadata).elim n (·.place n) := by
    rw [hg]
  have hwf : p.graph.WellFormed := by
    have hproblems := Graph.problems_of_map (fun _ => rfl) (fun _ => rfl) hnodes (by rw [hg])
    exact hproblems.symm.trans (Graph.check_eq_ok_iff.1 hcheck).2
  -- what is told of a condition is told of its canonical form, which asks for no limits
  have htold : ∀ n ∈ p.graph.nodes, n.IsTold limits := fun n hn =>
    (hcanonical n hn).isTold (Graph.of_notices_eq_ok
      ((notices_of_placed none hnodes).symm.trans hnotices) n hn)
  obtain ⟨g', notices', hsettle, -⟩ :=
    exists_proceed_settle_of_written freshId' hwf hroom htold none hid s
  obtain ⟨automationId', _, hid', hg', -⟩ := eq_of_settle_eq_ok hsettle
  cases hid.symm.trans hid'
  rw [hsettle, hg', hg]
  rfl

/-- A document without metadata that is read: its program is read behind what there is to say before
it, and the graph of the program is settled, under whatever limits the document is read again. -/
theorem exists_proceed_read (hrecord : outline document reading = .ok (r, none))
    (h : (parse large freshId document reading).1 = .ok g) :
    ∃ t, t.created = [] ∧ (∀ limits freshId, proceed (read limits freshId document reading) {}
        = proceed (readStructure limits none (modernTriggers r.triggers).1 r
          >>= settle limits freshId none r) t)
      ∧ ∃ p u u',
        proceed (Program.read large (modernTriggers r.triggers).1 r.conditions r.actions) t
          = (.ok p, u)
        ∧ proceed (settle large freshId none r p.graph) u = (.ok g, u') := by
  obtain ⟨raw, hload, hrecord⟩ := Outcome.bind_eq_ok.1 hrecord
  obtain ⟨found, notices, r', hsections, hr', hcheck⟩ := of_parse_eq_ok hload h
  rw [hsections, Outcome.ok_bind, hr', Outcome.ok_bind] at hrecord
  obtain ⟨rfl, hnone⟩ := Prod.mk.inj (Except.ok.inj hrecord)
  -- what comes before the graph is read does not depend on the limits
  have hread limits freshId := proceed_read hload hsections hr' hcheck limits freshId
  rw [hnone] at hread
  have hproceed : proceed (read large freshId document reading) {} = (.ok g, _) := Prod.ext h rfl
  rw [hread] at hproceed
  obtain ⟨made, u, hmade, hsettle⟩ := proceed_bind_eq_ok hproceed
  obtain ⟨p, _, hp, hmade⟩ := proceed_bind_eq_ok hmade
  cases hmade
  exact ⟨_, rfl, hread, p, u, _, hp, hsettle⟩

/-- Whether a document without metadata is read hinges on whether it goes over a limit. -/
theorem hinges_parse (hrecord : outline document reading = .ok (r, none))
    (h : (parse large freshId document reading).1 = .ok g) (limits : Limits) (freshId' : String) :
    (parse limits freshId' document reading).1.HingesOn
      (¬Exceeds limits (r.actions.map .ofEntries) g.nodes) { g with id := freshId' } := by
  obtain ⟨t, ht, hread, p, u, u', hp, hsettle⟩ := exists_proceed_read hrecord h
  obtain ⟨hnodes, hedges, hwf⟩ := of_settle_eq_ok hsettle
  replace hnodes : g.nodes = p.nodes := hnodes.trans (List.map_id' _)
  have hsections := Program.sectionsRead_of_read ht hp
  -- a graph that was settled has a trigger, and all its triggers come from the document
  have hne : (modernTriggers r.triggers).1 ≠ [] := by
    intro hnil
    obtain ⟨n, hn, htrigger⟩ := hwf.exists_trigger
    have hmem : n ∈ g.triggers := List.mem_filter.2 ⟨hn, htrigger⟩
    rw [(hsections.parsed hnodes hedges hwf).triggers, hsections.triggers, hnil] at hmem
    cases hmem
  have hprogram := Program.hinges_read limits hne hp
  rw [ht, List.length_nil, fits_iff_not_exceeds, ← hnodes] at hprogram
  have hroom (hexceeds : ¬Exceeds limits (r.actions.map .ofEntries) g.nodes) :
      p.nodes.length ≤ limits.maxGraphNodes := by
    have := (fits_iff_not_exceeds.2 hexceeds).room
    rwa [Nat.zero_add, hnodes] at this
  -- once the program is read, settling it can fail no more
  have hanswer (hexceeds : ¬Exceeds limits (r.actions.map .ofEntries) g.nodes) :
      proceed (settle limits freshId' none r p.graph) u
        = (.ok { g with id := freshId' }, (proceed (settle limits freshId' none r p.graph) u).2) :=
    Prod.ext (settle_of_settle hsections.isCanonical hsettle (hroom hexceeds) freshId' u) rfl
  have hgraph := hprogram.map (·.graph)
  have hsettled := hgraph.bind (f := settle limits freshId' none r) fun hexceeds =>
    Reads.HingesOn.ok (hanswer hexceeds)
  rw [parse, start_eq_proceed, hread]
  exact hsettled.outcome.congr (iff_of_eq (and_true _))

/-- What goes over limits goes over smaller ones. -/
theorem Exceeds.of_atMost {small : Limits} {entries : List Value} {nodes : List Node}
    (h : Exceeds large entries nodes) (hle : small.AtMost large) : Exceeds small entries nodes := by
  cases h with
  | nesting hstands hentry hblock hdeep =>
    exact .nesting hstands hentry hblock (Int.lt_of_le_of_lt hle.nesting hdeep)
  | budget hstands hentry hkind hcounts hmany =>
    refine .budget hstands hentry hkind hcounts (Int.lt_of_le_of_lt ?_ hmany)
    exact Int.mul_le_mul_of_nonneg_right hle.perOption (by omega)
  | graph hmany => exact .graph (Int.lt_of_le_of_lt hle.nodes hmany)
  | condition hn hkind hform hlarge =>
    refine .condition hn hkind hform (hlarge.imp ?_ ?_)
    · exact Int.lt_of_le_of_lt hle.conditionDepth
    · exact Int.lt_of_le_of_lt hle.conditionLeaves

/-- A document without metadata stays readable, as the same graph, when limits are raised. -/
theorem parse_of_atMost {small : Limits} (hrecord : outline document reading = .ok (r, none))
    (h : (parse small freshId document reading).1 = .ok g) (hle : small.AtMost large)
    (freshId' : String) :
    (parse large freshId' document reading).1 = .ok { g with id := freshId' } := by
  have hfits := (hinges_parse hrecord h small freshId).holds h
  exact (hinges_parse hrecord h large freshId').accepts fun hexceeds =>
    hfits (hexceeds.of_atMost hle)

/-- A document without metadata that is read under some limits goes over others exactly when it is
refused as too large under these. When it does not, it is read as the same graph. -/
theorem tooLarge_iff_exceeds (hrecord : outline document reading = .ok (r, none))
    (h : (parse large freshId document reading).1 = .ok g) (limits : Limits) (freshId' : String) :
    ((∃ cause, (parse limits freshId' document reading).1 = .error (.refused (.tooLarge cause)))
        ↔ Exceeds limits (r.actions.map .ofEntries) g.nodes)
      ∧ (¬Exceeds limits (r.actions.map .ofEntries) g.nodes →
        (parse limits freshId' document reading).1 = .ok { g with id := freshId' }) := by
  have hhinges := hinges_parse hrecord h limits freshId'
  exact ⟨hhinges.refused_iff.trans not_not, hhinges.accepts⟩

/-- An automation with a choose block inside another. The inner one has no options, and its two
actions count for both. -/
def crowdedHall : Value := .ofEntries [
  (.str "triggers", .ofItems [.ofEntries [(.str "trigger", .str "sun")]]),
  (.str "actions", .ofItems [.ofEntries [
    (.str "choose", .ofItems [.ofEntries [
      (.str "conditions", .str "late"),
      (.str "sequence", .ofItems [.ofEntries [
        (.str "choose", .ofItems []),
        (.str "default", .ofItems [
          .ofEntries [(.str "action", .str "light.turn_on")],
          .ofEntries [(.str "delay", .int 5)]])]])]])]])]

theorem tooLarge_crowdedHall : ∃ r g, outline crowdedHall = .ok (r, none)
    ∧ (parse {} "new" crowdedHall).1 = .ok g ∧ ∃ cause,
      (parse { chooseNodesPerOption := 2 } "other" crowdedHall).1
        = .error (.refused (.tooLarge cause)) := by
  have hread : (parse {} "new" crowdedHall).1.toOption.isSome = true := by decide +kernel
  obtain ⟨g, hg⟩ := Outcome.isSome_toOption.1 hread
  obtain ⟨r, hr, hactions⟩ : ∃ r, outline crowdedHall = .ok (r, none) ∧ ∃ entry o, ∃ es : Entries,
      r.actions.map .ofEntries = [entry] ∧ entry.expose = .map o es
        ∧ Entry.kind es = .chooseBlock ∧ (entriesOf (es.get "choose")).length = 1
        ∧ Counts [entry] 3 := by
    refine ⟨_, rfl, _, _, _, rfl, rfl, rfl, rfl, ?_⟩
    -- one condition, and what the inner block creates
    refine .single rfl (.single (m := 2) rfl ?_ rfl) rfl
    exact (Counts.leaf rfl rfl).append (.leaf rfl rfl)
  obtain ⟨entry, o, es, hactions, hentry, hkind, hone, hcounts⟩ := hactions
  refine ⟨r, g, hr, hg, (tooLarge_iff_exceeds hr hg _ "other").1.2 ?_⟩
  rw [hactions]
  refine .budget (.outermost (List.mem_singleton_self _)) hentry hkind hcounts ?_
  rw [hone]
  decide

/-- What just fits is read. -/
example : (parse { chooseNodesPerOption := 3, maxNesting := 2, maxGraphNodes := 4 } "new"
    crowdedHall).1.toOption.isSome = true := by decide +kernel

end Document

end Automation
