import Automation.Proofs.Program.Formation
import Mathlib.Logic.Relation

/-!
# What a reading creates

The nodes of a program, told from what it is read from alone. `Program.drafts` lists what each node
is created for, as it is written: an entry comes before what is inside it, a block has one node for
each of its conditions, and behind each of these comes the list that the condition leads to. A
reading that succeeds creates one node for each draft, in this order, and no others
(`Program.SectionsRead.made`).

The graph of these nodes is as a reader of the document expects it (`Program.drawn_of_read`): it
breaks no invariant, all triggers lead to one place, from each of them edges lead to all other
nodes, and no edges lead back.
-/

namespace Automation

/-- What a node is created for: its kind, what its payload is read as, its name and its flags. -/
structure Draft where
  kind : NodeKind
  data : Outcome Entries
  label : Value := .null
  flags : Entries := []

namespace Program

/-! ## Drafts -/

/-- What lists the drafts of entries one level further in. -/
abbrev InnerDrafts := Value → Place → List Draft

/-- The drafts of an option of a choose block: its condition, and what it leads to. -/
def optionDrafts (limits : Limits) (inner : InnerDrafts) (flags : Entries) (option : Value)
    (place : Place) : List Draft :=
  match option.expose with
  | .map _ es =>
    { kind := .condition, data := Condition.payload limits (Entries.get es "conditions"),
      label := Entries.get es "alias", flags }
      :: inner (Entries.get es "sequence") (place.field "sequence")
  | _ => []

/-- The drafts of the options of a choose block, the first of which has the flags of the block. -/
def optionsDrafts (limits : Limits) (inner : InnerDrafts) (place : Place) :
    Nat → Entries → List Value → List Draft
  | _, _, [] => []
  | i, flags, option :: rest =>
    optionDrafts limits inner flags option (place.item i)
      ++ optionsDrafts limits inner place (i + 1) [] rest

/-- The drafts of an entry. -/
def entryDrafts (limits : Limits) (inner : InnerDrafts) (entry : Value) (place : Place) :
    List Draft :=
  match entry.expose with
  | .map _ es =>
    match Entry.kind es with
    | .ifBlock =>
      { kind := .condition, data := Condition.payload limits (Entries.get es "if"),
        label := Entries.get es "alias", flags := Entry.flagsOf es }
        :: (inner (Entries.get es "then") (place.field "then")
          ++ inner (Entries.get es "else") (place.field "else"))
    | .chooseBlock =>
      optionsDrafts limits inner (place.field "choose") 0 (Entry.flagsOf es)
          (entriesOf (Entries.get es "choose"))
        ++ inner (Entries.get es "default") (place.field "default")
    | .gate => [{ kind := .condition, data := Condition.normalize limits entry }]
    | .step kind =>
      [{ kind, data := .ok (Entry.modernStep kind place (Entry.apart kind place es)).1 }]
  | _ => []

/-- The drafts of the entries of a list, which stand at a place from a number on. -/
def itemDrafts (limits : Limits) (inner : InnerDrafts) (place : Place) : Nat → List Value → List Draft
  | _, [] => []
  | i, entry :: rest =>
    entryDrafts limits inner entry (place.item i) ++ itemDrafts limits inner place (i + 1) rest

/-- The drafts of a list of entries in which lists stand inside one another in so many levels. -/
def listDrafts (limits : Limits) : Nat → InnerDrafts
  | 0, _, _ => []
  | levels + 1, entries, place =>
    itemDrafts limits (listDrafts limits levels) place 0 (entriesOf entries)

/-- The drafts of a document: a node for each trigger, a condition for each that every run has to
pass, and the entries. -/
def drafts (limits : Limits) (triggers : List Entries) (conditions : List Value)
    (actions : List Entries) : List Draft :=
  triggers.map (fun data => { kind := .trigger, data := .ok data })
    ++ conditions.map (fun v => { kind := .condition, data := Condition.normalize limits v })
    ++ listDrafts limits (limits.maxNesting.toNat + 1) (.ofItems (actions.map .ofEntries))
      { root := "actions" }

/-! ## Nodes for drafts -/

/-- Nodes that are created in a row for drafts, behind nodes of the given kinds. Each says what its
draft does, and has the number that comes next for its kind. -/
inductive Made : List NodeKind → List Draft → List Node → Prop
  | nil {created : List NodeKind} : Made created [] []
  | cons {created : List NodeKind} {d : Draft} {data : Entries} {ds : List Draft} {ns : List Node}
    (hdata : d.data = .ok data) (hrest : Made (d.kind :: created) ds ns) :
    Made created (d :: ds) (fresh created d.kind data d.label d.flags :: ns)

namespace Made

variable {created : List NodeKind} {ds more : List Draft} {ns others : List Node}

/-- Drafts behind others are made behind the nodes of these. -/
theorem append (h : Made created ds ns) (hmore : Made (kindsAfter created ns) more others) :
    Made created (ds ++ more) (ns ++ others) := by
  induction h with
  | nil => exact hmore
  | cons hdata _ ih =>
    rw [kindsAfter_cons] at hmore
    exact .cons hdata (ih hmore)

/-- Nodes of one kind that are created in a row have nothing but payloads. -/
theorem freshNodes {α : Type} {kind : NodeKind} {f : α → Outcome Entries} {xs : List α}
    {datas : List Entries} (h : xs.mapM f = .ok datas) :
    Made created (xs.map fun x => { kind, data := f x }) (Program.freshNodes kind created datas) := by
  replace h := Outcome.mapM_eq_ok_iff.1 h
  induction h generalizing created with
  | nil => exact .nil
  | cons hdata _ ih => exact .cons hdata ih

end Made

variable {limits : Limits}

mutual
/-- An entry that is read has a node for each of its drafts. -/
theorem EntryRead.made {levels : Nat} {place : Place} {entry : Value}
    {created after : List NodeKind} {b : Block} :
    EntryRead limits levels place entry created b after →
    Made created (entryDrafts limits (listDrafts limits levels) entry place) b.nodes
  | .step hentry hkind _ => by
    rw [entryDrafts, hentry]
    dsimp only
    rw [hkind]
    exact .cons rfl .nil
  | .gate hentry hkind hdata => by
    rw [entryDrafts, hentry]
    dsimp only
    rw [hkind]
    exact .cons hdata .nil
  | .ifBlock hentry hkind hdata hthen helse => by
    -- what is created otherwise is counted on from what the branch created
    have hbetween := (ListRead.numbered hthen).2
    have hwhenFalse := ListRead.made helse
    rw [hbetween] at hwhenFalse
    rw [entryDrafts, hentry]
    dsimp only
    rw [hkind, Block.nodes, Block.optionNodes, Block.optionNodes, List.append_nil]
    exact .cons hdata ((ListRead.made hthen).append hwhenFalse)
  | .chooseBlock hentry hkind hoptions hdefault => by
    have hbetween := (OptionsRead.numbered hoptions).2
    have hotherwise := ListRead.made hdefault
    rw [hbetween] at hotherwise
    rw [entryDrafts, hentry]
    dsimp only
    rw [hkind, Block.nodes]
    exact (OptionsRead.made hoptions).append hotherwise

theorem ListRead.made {levels : Nat} {place : Place} {i : Nat} {entries : List Value}
    {created after : List NodeKind} {bs : List Block} :
    ListRead limits levels place i entries created bs after →
    Made created (itemDrafts limits (listDrafts limits levels) place i entries)
      (Block.listNodes bs)
  | .nil => .nil
  | .cons hentry hrest => by
    have hbetween := (EntryRead.numbered hentry).2
    have hothers := ListRead.made hrest
    rw [hbetween] at hothers
    rw [Block.listNodes]
    exact (EntryRead.made hentry).append hothers

theorem OptionsRead.made {levels : Nat} {place : Place} {i : Nat} {flags : Entries}
    {options : List Value} {created after : List NodeKind} {read : List (Node × List Block)} :
    OptionsRead limits levels place i flags options created read after →
    Made created (optionsDrafts limits (listDrafts limits (levels + 1)) place i flags options)
      (Block.optionNodes read)
  | .nil => .nil
  | .cons hoption _ hdata hbody hrest => by
    have hbetween := (ListRead.numbered hbody).2
    have hothers := OptionsRead.made hrest
    rw [hbetween] at hothers
    rw [Block.optionNodes, optionsDrafts, optionDrafts, hoption]
    exact .cons hdata ((ListRead.made hbody).append hothers)
end

section Sections

variable {triggers actions : List Entries} {conditions : List Value} {p : Program}

/-- A program that was read has a node for each draft of its document. -/
theorem SectionsRead.made (h : SectionsRead limits triggers conditions actions p) :
    Made [] (drafts limits triggers conditions actions) p.nodes := by
  obtain ⟨tests, htests, hgates⟩ := h.gates
  obtain ⟨after, hbody⟩ := h.body
  have hdatas : triggers.mapM (fun data => (.ok data : Outcome Entries)) = .ok (triggers.map id) :=
    Outcome.mapM_eq_ok_of_forall fun _ _ => rfl
  rw [List.map_id] at hdatas
  have hfront : Made [] (triggers.map fun data => { kind := .trigger, data := .ok data })
      p.triggers := h.triggers ▸ .freshNodes hdatas
  have hmiddle : Made (kindsAfter [] p.triggers)
      (conditions.map fun v => { kind := .condition, data := Condition.normalize limits v })
      p.gates := by
    rw [hgates, kindsAfter, List.append_nil]
    exact .freshNodes htests
  refine (hfront.append hmiddle).append ?_
  rw [kindsAfter, List.append_nil]
  exact hbody.made

end Sections

end Program

/-! ## Ways through the graph -/

namespace Graph

variable {g : Graph}

/-- At most one edge leads out of a node that is no condition: to the node behind it. -/
theorem WellFormed.targets_eq_successor? (h : g.WellFormed) {id : String}
    (hcondition : g.isConditionAt id = false) :
    (g.outEdges id).map (·.target) = (g.successor? id).toList := by
  have hlength : ∀ e ∈ g.outEdges id, (g.outEdges id).length ≤ 1 := by
    intro e he
    obtain ⟨hmem, rfl⟩ := mem_outEdges.1 he
    have hone := h.countP_le_one hmem
    rw [hcondition] at hone
    rw [length_outEdges, outgoing, ← List.countP_eq_length_filter]
    simpa using hone
  unfold successor?
  rcases hout : g.outEdges id with _ | ⟨e, _ | ⟨f, rest⟩⟩
  · rfl
  · rfl
  · have hshort := hlength e (by rw [hout]; exact List.mem_cons_self)
    rw [hout, List.length_cons, List.length_cons] at hshort
    omega

end Graph

namespace Program

variable {limits : Limits} {p : Program} {g : Graph}

/-- From each trigger edges lead to all nodes of the blocks. -/
theorem Parsed.leads (h : Parsed p g) {t n : Node} (ht : t ∈ p.triggers)
    (hn : n ∈ Block.listNodes p.blocks) : Relation.TransGen g.Leads t.id n.id := by
  refine (h.standing.closed (S := Relation.TransGen g.Leads t.id)
    (fun e he hsource => hsource.tail ⟨e, he, rfl, rfl⟩) fun x hx => ?_).1 n hn
  rw [← h.successor? ht] at hx
  exact .single (Graph.exists_edge_of_successor? hx)

/-- What a reading of triggers, conditions and entries makes, if it does not fail: a node for each
draft and no other, in a graph that breaks no invariant, in which every trigger leads to all nodes
that are no triggers, no node leads back to itself, and all triggers lead to the same place. -/
theorem drawn_of_read {triggers actions : List Entries} {conditions : List Value}
    (hne : triggers ≠ [])
    (h : (Reads.start (read limits triggers conditions actions)).1 = .ok p) :
    Made [] (drafts limits triggers conditions actions) p.graph.nodes
      ∧ p.graph.problems = []
      ∧ (∀ t ∈ p.graph.nodes, t.kind.isTrigger = true →
          ∀ n ∈ p.graph.nodes, n.kind.isTrigger = false →
            Relation.TransGen p.graph.Leads t.id n.id)
      ∧ (∀ id, ¬Relation.TransGen p.graph.Leads id id)
      ∧ ∃ next : Option String, ∀ t ∈ p.graph.nodes, t.kind.isTrigger = true →
          (p.graph.outEdges t.id).map (·.target) = next.toList := by
  rw [Reads.start_eq_proceed] at h
  have hread : SectionsRead limits triggers conditions actions p :=
    sectionsRead_of_read rfl (Prod.ext h rfl)
  have hwf := hread.wellFormed hne
  have hparsed : Parsed p p.graph := hread.parsed rfl rfl hwf
  have htriggers {t : Node} (ht : t ∈ p.graph.nodes) (htrigger : t.kind.isTrigger = true) :
      t ∈ p.triggers := hparsed.triggers ▸ List.mem_filter.2 ⟨ht, htrigger⟩
  refine ⟨hread.made, hwf, fun t ht htrigger n hn hno => ?_, fun id hback => ?_,
    Block.listFirst none p.blocks, fun t ht htrigger => ?_⟩
  · -- a node that is no trigger stands in a block, and blocks are led to
    refine hparsed.leads (htriggers ht htrigger) ?_
    rw [hparsed.nodes, nodes_eq] at hn
    refine (List.mem_append.1 hn).resolve_left fun hn => ?_
    rw [hparsed.isTrigger n hn] at hno
    cases hno
  · exact Nat.lt_irrefl _ (hparsed.ranked.lt_of_transGen hback)
  · have hkind := hwf.isConditionAt_of_mem_triggers (List.mem_filter.2 ⟨ht, htrigger⟩)
    rw [hwf.targets_eq_successor? hkind, hparsed.successor? (htriggers ht htrigger)]

/-- A test of the state of an entity. -/
def stateTest (entity : String) : Value := .ofEntries
  [(.str "condition", .str "state"), (.str "entity_id", .str entity), (.str "state", .str "on")]

/-- An if block with lists behind both outcomes, the first with a gate in it, and a choose block
with two options, the second without a sequence, and a default. -/
def nestedActions : List Entries := [
  [(.str "if", stateTest "sun.up"),
    (.str "then", .ofItems [.ofEntries [(.str "action", .str "light.off")], stateTest "home"]),
    (.str "else", .ofEntries [(.str "delay", .int 5)])],
  [(.str "choose", .ofItems [
      .ofEntries [(.str "conditions", stateTest "door"), (.str "alias", .str "open"),
        (.str "sequence", .ofItems [.ofEntries [(.str "action", .str "lock.lock")]])],
      .ofEntries [(.str "conditions", .ofItems [stateTest "window", stateTest "rain"])]]),
    (.str "default", .ofItems [.ofEntries [(.str "variables", .ofEntries [])]])]]

theorem drawn_of_read_nestedActions : ∃ p,
    (Reads.start (read {} [[(.str "trigger", .str "time")], [(.str "trigger", .str "sun")]]
      [stateTest "guest"] nestedActions)).1 = .ok p
    ∧ p.graph.problems = []
    ∧ p.graph.nodes.map (fun n => (n.id, n.kind.isTrigger))
      = [("trigger_1", true), ("trigger_2", true), ("condition_1", false), ("condition_2", false),
        ("action_1", false), ("condition_3", false), ("delay_1", false), ("condition_4", false),
        ("action_2", false), ("condition_5", false), ("set_variables_1", false)]
    ∧ Relation.TransGen p.graph.Leads "trigger_2" "set_variables_1"
    ∧ ¬Relation.TransGen p.graph.Leads "set_variables_1" "set_variables_1" := by
  have hids : (Reads.start (read {} [[(.str "trigger", .str "time")],
      [(.str "trigger", .str "sun")]] [stateTest "guest"] nestedActions)).1.toOption.map
        (fun p => p.graph.nodes.map fun n => (n.id, n.kind.isTrigger))
      = some [("trigger_1", true), ("trigger_2", true), ("condition_1", false),
        ("condition_2", false), ("action_1", false), ("condition_3", false), ("delay_1", false),
        ("condition_4", false), ("action_2", false), ("condition_5", false),
        ("set_variables_1", false)] := by
    decide +kernel
  rcases hread : (Reads.start (read {} [[(.str "trigger", .str "time")],
      [(.str "trigger", .str "sun")]] [stateTest "guest"] nestedActions)).1 with _ | p
  · rw [hread] at hids
    cases hids
  rw [hread] at hids
  have hids : p.graph.nodes.map (fun n => (n.id, n.kind.isTrigger)) = _ := Option.some.inj hids
  obtain ⟨-, hproblems, hleads, hback, -⟩ := drawn_of_read (List.cons_ne_nil _ _) hread
  -- the first node behind one trigger and the last one of the list, by their ids
  have hnode {x : String × Bool} (hx : x ∈ p.graph.nodes.map fun n => (n.id, n.kind.isTrigger)) :
      ∃ n ∈ p.graph.nodes, n.id = x.1 ∧ n.kind.isTrigger = x.2 := by
    obtain ⟨n, hn, rfl⟩ := List.mem_map.1 hx
    exact ⟨n, hn, rfl, rfl⟩
  obtain ⟨t, ht, htid, htrigger⟩ := hnode (x := ("trigger_2", true)) (by rw [hids]; decide)
  obtain ⟨n, hn, hnid, hno⟩ := hnode (x := ("set_variables_1", false)) (by rw [hids]; decide)
  refine ⟨p, rfl, hproblems, hids, ?_, hback _⟩
  have hleads := hleads t ht htrigger n hn hno
  rwa [htid, hnid] at hleads

end Program

end Automation
