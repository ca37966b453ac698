import Automation.Proofs.Document.Reading
import Automation.Proofs.Program.Restoring

/-!
# Native documents read back

A document that was written with branching blocks is read back as the part of the graph that paths
lead to (`Document.parse_native`). The reading gives a program of the shape of the one that was
written, under names of its own (`Graph.Programmed.alike_of_sectionsRead`), and the ids of the
metadata take the place of these names in the order in which the nodes were written
(`Document.renameNodes_of_related`).
-/

namespace Automation

namespace Block

variable {g : Graph} {limits : Limits}

theorem mem_listNodes_of_step {n : Node} {bs : List Block} (h : .step n ∈ bs) :
    n ∈ listNodes bs := by
  induction bs with
  | nil => cases h
  | cons b bs ih =>
    rcases List.mem_cons.1 h with rfl | h
    · exact List.mem_cons_self
    · exact List.mem_append_right _ (ih h)

/-- What holds of all mappings from texts, and of the payloads of steps, holds of the entry of a
block. -/
theorem forall_toEntries {P : Entries → Prop} (hg : g.Told)
    (hflags : ∀ n ∈ g.nodes, n.kind.isCondition = true → n.flags.Keyed)
    (hkeyed : ∀ es : Entries, es.Keyed → P es) {b : Block} (hstep : ∀ n, b = .step n → P n.data)
    (hshaped : Shaped b) (hnodes : Inside g b.nodes) : P (toEntries b) := by
  cases b with
  | step n =>
    rw [toEntries]
    exact hstep n rfl
  | choice options otherwise =>
    rcases toEntries_choice hg hshaped hnodes with
      ⟨-, n, body, rfl⟩ | ⟨-, o, -, -, ho, hcondition, htext⟩
    · rw [toEntries_choice_singleton]
      exact hkeyed _ (keyed_ifEntry (hflags n (hnodes n List.mem_cons_self).1 hshaped.2.1.1))
    · rw [htext, chooseEntry]
      have hflags := hflags _ ho hcondition
      exact hkeyed _ (keyed_setAny ((Entries.keyed_nil.merge hflags).set ..) ..)

theorem forall_of_listShaped {P : Entries → Prop} (hg : g.Told)
    (hflags : ∀ n ∈ g.nodes, n.kind.isCondition = true → n.flags.Keyed)
    (hkeyed : ∀ es : Entries, es.Keyed → P es) {bs : List Block}
    (hsteps : ∀ n, .step n ∈ bs → P n.data) (hshaped : ListShaped bs)
    (hnodes : Inside g (listNodes bs)) : ∀ es ∈ bs.map toEntries, P es := by
  induction bs with
  | nil => simp
  | cons b bs ih =>
    obtain ⟨hfirst, hrest⟩ := Inside.of_append hnodes
    rw [List.map_cons, List.forall_mem_cons]
    refine ⟨forall_toEntries hg hflags hkeyed (fun n hn => hsteps n ?_) hshaped.1 hfirst,
      ih (fun n hn => hsteps n (List.mem_cons_of_mem _ hn)) hshaped.2 hrest⟩
    rw [hn]
    exact List.mem_cons_self

end Block

namespace Document

open Automation.Graph Reads

/-! ## Names -/

/-- A graph of a program gets the names of another program of its shape, and with them its edges. -/
theorem renameNodes_of_related {R : Node → Node → Prop} (hkind : ∀ m n, R m n → m.kind = n.kind)
    {p q : Program} (h : q.Alike R p) (hnodup : (q.nodes.map (·.id)).Nodup) :
    List.Forall₂ (fun m n => m.id = n.id ∧ ∃ name, R { m with id := name } n)
        (renameNodes q.graph (p.nodes.map (·.id))).nodes p.nodes
      ∧ (renameNodes q.graph (p.nodes.map (·.id))).edges = p.edges := by
  have hnodes (ms ns : List Node) (hms : List.Forall₂ R ms ns) :
      List.Forall₂ (fun m n => m.id = n.id ∧ ∃ name, R { m with id := name } n)
        ((ms.zip (ns.map (·.id))).map fun n => { n.1 with id := n.2 }) ns := by
    induction hms with
    | nil => exact .nil
    | cons hR _ ih => exact .cons ⟨rfl, _, hR⟩ ih
  -- where an id stands in the zip, renaming puts the one beside it
  have hrenamed : q.Alike (Block.Renamed fun id => ((((q.nodes.map (·.id)).zip
      (p.nodes.map (·.id))).find? (·.1 == id)).map (·.2)).getD id) p := by
    refine h.imp_of_mem fun x hx hR => ⟨?_, hkind _ _ hR⟩
    have hmem : (x.1.id, x.2.id) ∈ (q.nodes.map (·.id)).zip (p.nodes.map (·.id)) := by
      rw [List.zip_map]
      exact List.mem_map_of_mem hx
    rw [find?_zip_of_nodup hnodup (by simpa using Nat.le_of_eq h.nodes.length_eq) hmem]
    rfl
  exact ⟨hnodes q.nodes p.nodes h.nodes, hrenamed.map_edges⟩

theorem renameNodes_of_alike {p q : Program} (h : q.Alike Node.Matches p)
    (hnodup : (q.nodes.map (·.id)).Nodup) :
    List.Forall₂ Node.Same (renameNodes q.graph (p.nodes.map (·.id))).nodes p.nodes
      ∧ (renameNodes q.graph (p.nodes.map (·.id))).edges = p.edges := by
  obtain ⟨hnodes, hedges⟩ := renameNodes_of_related (fun _ _ hmatch => hmatch.kind) h hnodup
  refine ⟨hnodes.imp ?_, hedges⟩
  rintro m n ⟨hid, name, hmatch⟩
  exact ⟨hid, hmatch.kind, hmatch.label, hmatch.data, hmatch.flags⟩

/-! ## Reading -/

/-- A native document is read by its structure, and its nodes get the ids of the metadata when these
are ids for the graph. -/
theorem exists_read_of_readGraph {limits : Limits} {m : Metadata} {triggers : List Entries}
    {r : AutomationRecord} {g : Graph} {s : Intake}
    (hstrategy : m.strategy = some Strategy.native.name)
    (h : proceed (readGraph limits (some m) triggers r) {} = (.ok g, s)) :
    ∃ q t, proceed (Program.read limits triggers r.conditions r.actions) {} = (.ok q, t)
      ∧ g = { (restoreIds q.graph m).1 with strategy := m.strategy }
      ∧ s.notices = t.notices ++ (restoreIds q.graph m).2 := by
  unfold readGraph at h
  dsimp only at h
  rw [if_neg (by rw [hstrategy]; decide)] at h
  obtain ⟨g₁, t, hread, h⟩ := proceed_bind_eq_ok h
  cases h
  obtain ⟨q, u, hq, hread⟩ := proceed_bind_eq_ok hread
  obtain ⟨_, v, hnote, hread⟩ := proceed_bind_eq_ok hread
  cases hread
  exact ⟨q, u, hq, rfl, congrArg Intake.notices (of_proceed_note_eq_ok hnote)⟩

theorem of_readGraph_eq_ok {limits : Limits} {m : Metadata} {triggers : List Entries}
    {r : AutomationRecord} {g : Graph} {s : Intake}
    (hstrategy : m.strategy = some Strategy.native.name)
    (h : proceed (readGraph limits (some m) triggers r) {} = (.ok g, s)) :
    ∃ q, Program.SectionsRead limits triggers r.conditions r.actions q
      ∧ g.nodes = (restoreIds q.graph m).1.nodes ∧ g.edges = (restoreIds q.graph m).1.edges := by
  obtain ⟨q, t, hq, rfl, -⟩ := exists_read_of_readGraph hstrategy h
  exact ⟨q, Program.sectionsRead_of_read rfl hq, rfl, rfl⟩

section Renamed

variable {R : Node → Node → Prop} (hkind : ∀ m n, R m n → m.kind = n.kind) {g : Graph} {p q : Program}
  (hwf : g.WellFormed) (hhandle : ∀ e ∈ g.edges, g.isConditionAt e.source = false → e.handle = none)
  (hp : Programmed g p) (h : q.Alike R p) (hnodup : (q.nodes.map (·.id)).Nodup)

include hkind h hnodup

/-- The nodes of a program that was read have the ids and the kinds of the program that was written,
once they are renamed. -/
theorem map_renameNodes_of_related :
    (renameNodes q.graph (p.nodes.map (·.id))).nodes.map (fun n => (n.id, n.kind))
      = p.nodes.map fun n => (n.id, n.kind) := by
  refine List.forall₂_eq_eq_eq ▸ List.forall₂_map_left_iff.2 (List.forall₂_map_right_iff.2 ?_)
  refine (renameNodes_of_related hkind h hnodup).1.imp ?_
  rintro x y ⟨hid, name, hR⟩
  exact Prod.ext hid (hkind { x with id := name } y hR)

include hwf hhandle hp

/-- The renamed graph is the part of the graph that paths lead to, and so it is well formed. -/
theorem wellFormed_renameNodes_of_related :
    (renameNodes q.graph (p.nodes.map (·.id))).WellFormed := by
  -- the ids and kinds are those of the program, which are some of the graph's
  have hall := map_renameNodes_of_related hkind h hnodup
  have hnames : (renameNodes q.graph (p.nodes.map (·.id))).nodes.map (·.id) = p.nodes.map (·.id) := by
    have hfst := congrArg (List.map Prod.fst) hall
    rwa [List.map_map, List.map_map] at hfst
  have hedges := (renameNodes_of_related hkind h hnodup).2
  have hends := hp.perm_ends hwf hhandle
  refine hwf.of_part (by rw [hnames]; exact hp.nodup) (fun n hn => ?_) ?_ ?_ fun e he => ?_
  · have hmem := List.mem_map_of_mem (f := fun n : Node => (n.id, n.kind)) hn
    rw [hall] at hmem
    obtain ⟨n', hn', heq⟩ := List.mem_map.1 hmem
    exact ⟨n', ((hp.mem_iff n').1 hn').1, congrArg Prod.fst heq, congrArg Prod.snd heq⟩
  -- a trigger is reachable from itself, so the program has it
  · obtain ⟨t, ht, htrigger⟩ := hwf.exists_trigger
    have htp : t ∈ p.nodes := (hp.mem_iff t).2 ⟨ht, .trigger (List.mem_filter.2 ⟨ht, htrigger⟩)⟩
    have hmem := List.mem_map_of_mem (f := fun n : Node => (n.id, n.kind)) htp
    rw [← hall] at hmem
    obtain ⟨n, hn, heq⟩ := List.mem_map.1 hmem
    exact ⟨n, hn, by rw [show n.kind = t.kind from congrArg Prod.snd heq, htrigger]⟩
  · rw [hedges]
    exact ⟨_, hends.symm, List.filter_sublist.map _⟩
  · rw [hedges] at he
    obtain ⟨f, hf, heq⟩ := List.mem_map.1 (hends.subset (List.mem_map_of_mem he))
    have hbetween := (List.mem_filter.1 hf).2
    rw [Bool.and_eq_true, List.contains_iff_mem, List.contains_iff_mem] at hbetween
    rw [hnames, ← show f.source = e.source from congrArg (·.1) heq,
      ← show f.target = e.target from congrArg (·.2.1) heq]
    exact hbetween

/-- Nodes of a program that was read get the ids of the program that was written. -/
theorem restoreIds_of_related {m : Metadata} (hids : m.nodeIds = p.nodes.map (·.id)) :
    restoreIds q.graph m = (renameNodes q.graph m.nodeIds, []) := by
  have hpart := wellFormed_renameNodes_of_related hkind hwf hhandle hp h hnodup
  rw [← hids] at hpart
  have hne : p.nodes ≠ [] := by
    obtain ⟨t, ht, htrigger⟩ := hwf.exists_trigger
    exact List.ne_nil_of_mem
      ((hp.mem_iff t).2 ⟨ht, .trigger (List.mem_filter.2 ⟨ht, htrigger⟩)⟩)
  have hlength : m.nodeIds.length = q.graph.nodes.length := by
    rw [hids, List.length_map]
    exact h.nodes.length_eq.symm
  unfold restoreIds
  rw [if_neg (by rw [hids]; simpa using hne), if_neg (by simp [hlength])]
  dsimp only
  rw [hpart]

end Renamed

theorem restoreIds_of_alike {limits : Limits} {g : Graph} {p q : Program} {m : Metadata}
    (hg : g.Normal limits) (hp : Programmed g p) (h : q.Alike Node.Matches p)
    (hnodup : (q.nodes.map (·.id)).Nodup) (hids : m.nodeIds = p.nodes.map (·.id)) :
    (restoreIds q.graph m).1 = renameNodes q.graph m.nodeIds := by
  rw [restoreIds_of_related (fun _ _ hmatch => hmatch.kind) hg.wellFormed hg.handle hp h hnodup
    hids]

/-- The entries of a program have texts for keys when the document that they stand in is read, unless
they are byte strings. -/
theorem keyed_entries_of_parse {limits : Limits} {g g' : Graph} (hg : g.Told)
    (hflags : ∀ n ∈ g.nodes, n.kind.isCondition = true → n.flags.Keyed)
    (hdistinct : ∀ n ∈ g.nodes, n.data.Distinct) {p : Program} (hp : Programmed g p)
    {freshId : String} {order : List String} {reading : Nat} {triggers : List Entries}
    {conditions : List Value} (hne : triggers ≠ [])
    (hbytes : ∀ es ∈ p.body.map Block.toEntries, ∀ e ∈ es, ∀ bs, e.1 ≠ .bytes bs)
    (h : (parse limits freshId (.ofEntries (assemble g .native order (triggers.map .ofEntries)
      conditions ((p.body.map Block.toEntries).map .ofEntries))) reading).1 = .ok g') :
    ∀ es ∈ p.body.map Block.toEntries, es.Keyed := by
  have hall := Block.forall_of_listShaped hg hflags (fun _ hes => hes.distinct)
    (fun n hn => hdistinct n (hp.inside n (Block.mem_listNodes_of_step hn)).1) hp.shaped hp.inside
  exact fun es hes => ⟨isStr_of_parse hne h es (List.mem_append_right _ hes) (hbytes es hes),
    hall es hes⟩

/-- A native document that was written and can be read is read back as the part of the graph that
paths lead to: exactly these nodes, and exactly the edges between them. This takes triggers and
actions none of which has a byte string among its keys, as a reader makes texts of these. -/
theorem parse_native {limits : Limits} {g : Graph} (hg : g.Normal limits) {w : Written}
    (hw : (native limits g).1 = .ok w)
    (hbytes : ∀ name ∈ ["triggers", "actions"], ∀ v ∈ (w.config.get name).asItems, ∀ es,
      v.entries? = some es → ∀ e ∈ es, ∀ bs, e.1 ≠ .bytes bs)
    {freshId : String} {reading : Nat} {g' : Graph} {notices : List Notice}
    (h : parse limits freshId (.ofEntries w.config) reading = (.ok g', notices)) :
    (∃ nodes, nodes.Perm (g.nodes.filter fun n => g.reachable.contains n.id)
        ∧ List.Forall₂ Node.Same g'.nodes nodes)
      ∧ (g'.edges.map Edge.ends).Perm ((g.edges.filter fun e =>
          g.reachable.contains e.source && g.reachable.contains e.target).map Edge.ends) := by
  obtain ⟨r, p, hanalyze, hnative, hprogram, hconfig⟩ := of_native_eq_ok hw
  have hp := programmed_of_program hg.wellFormed hg.exit hanalyze hnative hprogram
  have hactions := p.actions_eq_map
  rw [hconfig, hactions, Program.payloads_eq_map p.triggers] at hbytes h
  -- the document was read, so its triggers and actions are mappings from texts
  have hwritten {name : String} (hname : name ∈ ["triggers", "actions"]) {listed : List Entries}
      (hsection : Entries.get? (assemble g .native (p.nodes.map (·.id))
        ((p.triggers.map (·.data)).map .ofEntries) (Program.payloads p.gates)
        ((p.body.map Block.toEntries).map .ofEntries)) name
          = some (.ofItems (listed.map .ofEntries))) :
      ∀ es ∈ listed, ∀ e ∈ es, ∀ bs, e.1 ≠ .bytes bs := by
    intro es hes
    refine hbytes name hname (.ofEntries es) ?_ es rfl
    rw [Entries.get, hsection]
    exact List.mem_map_of_mem hes
  have hdistinct (n : Node) (hn : n ∈ g.nodes) : n.data.Distinct :=
    Value.distinct_of_keysOnce (hg.once n hn)
  have hne : p.triggers.map (·.data) ≠ [] := hp.triggers ▸ hg.wellFormed.payloads_ne_nil
  have hstr := isStr_of_parse hne (congrArg Prod.fst h)
  have hkeyed := keyed_entries_of_parse hg.legible.told hg.legible.keyed hdistinct hp hne
    (hwritten (by decide) (get?_assemble_actions ..)) (congrArg Prod.fst h)
  obtain ⟨hpayloads, hplatforms⟩ := payloads_triggers (fun n hn htrigger => by
    have hmem : n.data ∈ p.triggers.map (·.data) := by
      rw [hp.triggers]
      exact List.mem_map_of_mem (List.mem_filter.2 ⟨hn, htrigger⟩)
    exact ⟨hstr _ (List.mem_append_left _ hmem)
      (hwritten (by decide) (get?_assemble_triggers ..) _ hmem), hdistinct n hn⟩) hg.platform
  rw [← hp.triggers] at hpayloads hplatforms
  obtain ⟨record, m, hconditions, hrecord, -, hids, hstrategy, hparse⟩ :=
    parse_assemble hg.headed .native (p.nodes.map (·.id)) hpayloads hplatforms hne
      (Program.payloads p.gates) hkeyed
  rw [hparse, start_eq_proceed] at h
  obtain ⟨hread, -⟩ := Prod.mk.inj h
  obtain ⟨s', hread⟩ : ∃ s', proceed (readGraph limits (some m) (p.triggers.map (·.data)) record
      >>= settle limits freshId (some m) record) {} = (.ok g', s') := ⟨_, Prod.ext hread rfl⟩
  obtain ⟨g₁, s, hgraph, hsettle⟩ := proceed_bind_eq_ok hread
  obtain ⟨q, hq, hnodes, hedges⟩ := of_readGraph_eq_ok hstrategy hgraph
  rw [hconditions, hrecord] at hq
  have halike := hp.alike_of_sectionsRead hg hactions hq
  obtain ⟨hsame, hrenamed⟩ := renameNodes_of_alike halike hq.nodup
  rw [restoreIds_of_alike hg hp halike hq.nodup hids, hids] at hnodes hedges
  obtain ⟨hplaced, hkept, -⟩ := of_settle_eq_ok hsettle
  have hreached (id : String) : (p.nodes.map (·.id)).contains id = g.reachable.contains id := by
    rw [Bool.eq_iff_iff, List.contains_iff_mem, List.contains_iff_mem, mem_reachable_iff]
    constructor
    · intro hid
      obtain ⟨n, hn, rfl⟩ := List.mem_map.1 hid
      exact ((hp.mem_iff n).1 hn).2
    · intro hreaches
      obtain ⟨n, hn, rfl⟩ := hg.wellFormed.exists_of_reaches hreaches
      exact List.mem_map_of_mem ((hp.mem_iff n).2 ⟨hn, hreaches⟩)
  refine ⟨⟨p.nodes, ?_, ?_⟩, ?_⟩
  · refine (List.perm_ext_iff_of_nodup hp.nodup.of_map (hg.wellFormed.nodup.of_map.filter _)).2
      fun n => ?_
    rw [hp.mem_iff, List.mem_filter, List.contains_iff_mem, mem_reachable_iff]
  · rw [hplaced, hnodes]
    exact List.forall₂_map_left_iff.2 (hsame.imp fun _ _ hn => hn.place m)
  · rw [hkept, hedges, hrenamed]
    simpa only [hreached] using hp.perm_ends hg.wellFormed hg.handle

/-- A condition in its normal form. -/
def duskTest : Entries := [(.str "condition", .str "state"), (.str "entity_id", .str "sun.sun"),
  (.str "state", .str "below_horizon")]

/-- A graph with a named choice whose branches meet again. -/
def duskLights : Graph where
  nodes := [
    { id := "t1", kind := .trigger,
      data := [(.str "trigger", .str "state"), (.str "entity_id", .str "sun.sun")] },
    { id := "c1", kind := .condition, data := duskTest, label := .str "Dusk",
      flags := [(.str "continue_on_error", .bool true)] },
    { id := "on", kind := .action, data := [(.str "action", .str "light.turn_on")] },
    { id := "off", kind := .action, data := [(.str "action", .str "light.turn_off")] },
    { id := "rest", kind := .delay, data := [(.str "delay", .int 5)] }]
  edges := [.between "t1" "c1", .between "c1" "on" (some handleTrue),
    .between "c1" "off" (some handleFalse), .between "on" "rest", .between "off" "rest"]

theorem normal_duskLights : duskLights.Normal {} := by
  have hall {P : Node → Prop} : (∀ n ∈ duskLights.nodes, P n)
      ↔ P duskLights.nodes[0] ∧ P duskLights.nodes[1] ∧ P duskLights.nodes[2]
        ∧ P duskLights.nodes[3] ∧ P duskLights.nodes[4] := by
    simp [duskLights]
  refine {
    wellFormed := List.isEmpty_iff.1 (by decide +kernel)
    headed := ⟨⟨1, rfl⟩, hall.2 ?positions, nofun, nofun, nofun, Entries.keyed_nil⟩
    once := by decide +kernel
    distinct := hall.2 ?distinct
    platform := by decide +kernel
    normal := hall.2 ?normal
    step := hall.2 ?step
    label := hall.2 ?label
    flags := hall.2 ?flags
    bare := hall.2 ?bare
    handle := by decide +kernel
    exit := by unfold NoExit; decide +kernel
    unblocked := by decide +kernel
    modern := hall.2 ?modern }
  case positions => exact ⟨nofun, nofun, nofun, nofun, nofun⟩
  case distinct => exact ⟨.nil, List.pairwise_singleton _ _, .nil, .nil, .nil⟩
  case normal => exact ⟨nofun, fun _ => ⟨_, rfl, by decide +kernel⟩, nofun, nofun, nofun⟩
  case step => exact ⟨nofun, nofun, fun _ _ => rfl, fun _ _ => rfl, fun _ _ => rfl⟩
  case label => exact ⟨nofun, fun _ => .inr ⟨_, by decide, rfl⟩, nofun, nofun, nofun⟩
  case flags =>
    refine ⟨nofun, fun _ e he => ?_, nofun, nofun, nofun⟩
    rw [List.mem_singleton.1 he]
    exact ⟨"continue_on_error", by decide, rfl⟩
  case bare =>
    exact ⟨fun _ => ⟨rfl, rfl⟩, nofun, fun _ => ⟨rfl, rfl⟩, fun _ => ⟨rfl, rfl⟩,
      fun _ => ⟨rfl, rfl⟩⟩
  case modern =>
    exact ⟨nofun, nofun, fun _ _ _ => ⟨_, _, rfl, rfl⟩, fun _ _ _ => ⟨_, _, rfl, rfl⟩,
      fun _ _ _ => ⟨_, _, rfl, rfl⟩⟩

/-- That graph is written with an if block and read back whole. -/
theorem parse_native_duskLights :
    ∃ w g' notices, (native {} duskLights).1 = .ok w
      ∧ parse {} "new" (.ofEntries w.config) 0 = (.ok g', notices)
      ∧ (∃ nodes, nodes.Perm duskLights.nodes ∧ List.Forall₂ Node.Same g'.nodes nodes)
      ∧ (g'.edges.map Edge.ends).Perm (duskLights.edges.map Edge.ends) := by
  -- both directions are run once, with the keys that were written looked through
  have hruns : ((native {} duskLights).1.toOption.bind fun w =>
      (parse {} "new" (.ofEntries w.config) 0).1.toOption.map fun _ =>
        ["triggers", "actions"].all fun name => (w.config.get name).asItems.all fun v =>
          (v.entries?.getD []).all fun e => e.1.isStr) = some true := by
    decide +kernel
  obtain ⟨w, hw, hruns⟩ := Option.bind_eq_some_iff.1 hruns
  obtain ⟨g', hread, hstr⟩ := Option.map_eq_some_iff.1 hruns
  obtain ⟨notices, hparse⟩ : ∃ notices,
      parse {} "new" (.ofEntries w.config) 0 = (.ok g', notices) :=
    ⟨_, Prod.ext (Outcome.toOption_eq_some.1 hread) rfl⟩
  have hw := Outcome.toOption_eq_some.1 hw
  obtain ⟨hnodes, hedges⟩ := parse_native normal_duskLights hw
    (fun name hname v hv es hes e he bs heq => by
      have hkeys := List.all_eq_true.1 (List.all_eq_true.1 hstr name hname) v hv
      rw [hes, Option.getD_some, List.all_eq_true] at hkeys
      have hkey := hkeys e he
      rw [heq] at hkey
      cases hkey) hparse
  have hreachable : duskLights.reachable = ["t1", "c1", "on", "off", "rest"] := by decide +kernel
  rw [hreachable] at hnodes hedges
  exact ⟨w, g', notices, hw, hparse, hnodes, hedges⟩

/-- The graph of an automation whose if block holds an action with a byte string among its keys. -/
def taggedRest : Graph where
  nodes := [
    { id := "trigger_1", kind := .trigger, data := [(.str "trigger", .str "state")] },
    { id := "condition_1", kind := .condition, data := duskTest },
    { id := "delay_1", kind := .delay, data := [(.str "delay", .int 5), (.bytes [120], .int 1)] }]
  edges := [.between "trigger_1" "condition_1",
    .between "condition_1" "delay_1" (some handleTrue)]

theorem normal_taggedRest : taggedRest.Normal {} := by
  have hall {P : Node → Prop} : (∀ n ∈ taggedRest.nodes, P n)
      ↔ P taggedRest.nodes[0] ∧ P taggedRest.nodes[1] ∧ P taggedRest.nodes[2] := by
    simp [taggedRest]
  refine {
    wellFormed := List.isEmpty_iff.1 (by decide +kernel)
    headed := ⟨⟨1, rfl⟩, hall.2 ⟨nofun, nofun, nofun⟩, nofun, nofun, nofun, Entries.keyed_nil⟩
    once := by decide +kernel
    distinct := hall.2 ⟨.nil, .nil, .nil⟩
    platform := by decide +kernel
    normal := hall.2 ⟨nofun, fun _ => ⟨_, rfl, by decide +kernel⟩, nofun⟩
    step := hall.2 ⟨nofun, nofun, fun _ _ => rfl⟩
    label := hall.2 ⟨nofun, fun _ => .inl rfl, nofun⟩
    flags := hall.2 ⟨nofun, fun _ => nofun, nofun⟩
    bare := hall.2 ⟨fun _ => ⟨rfl, rfl⟩, nofun, fun _ => ⟨rfl, rfl⟩⟩
    handle := by decide +kernel
    exit := by unfold NoExit; decide +kernel
    unblocked := by decide +kernel
    modern := hall.2 ⟨nofun, nofun, fun _ _ _ => ⟨_, _, rfl, rfl⟩⟩ }

/-- A byte string among the keys of an action does not come back: the block is written as a gate,
behind which the action stands by itself, and of such an action the keys are read as texts. -/
theorem exists_native_not_same : ∃ w g' notices, taggedRest.Normal {}
    ∧ (native {} taggedRest).1 = .ok w
    ∧ parse {} "new" (.ofEntries w.config) 0 = (.ok g', notices)
    ∧ ¬∃ nodes, nodes.Perm (taggedRest.nodes.filter fun n => taggedRest.reachable.contains n.id)
      ∧ List.Forall₂ Node.Same g'.nodes nodes := by
  have hruns : ((native {} taggedRest).1.toOption.bind fun w =>
      (parse {} "new" (.ofEntries w.config) 0).1.toOption.map fun g' =>
        g'.nodes.all fun m => !(Value.ofEntries m.data).same (.ofEntries taggedRest.nodes[2].data))
      = some true := by
    decide +kernel
  obtain ⟨w, hw, hruns⟩ := Option.bind_eq_some_iff.1 hruns
  obtain ⟨g', hread, hdiffer⟩ := Option.map_eq_some_iff.1 hruns
  obtain ⟨notices, hparse⟩ : ∃ notices,
      parse {} "new" (.ofEntries w.config) 0 = (.ok g', notices) :=
    ⟨_, Prod.ext (Outcome.toOption_eq_some.1 hread) rfl⟩
  refine ⟨w, g', notices, normal_taggedRest, Outcome.toOption_eq_some.1 hw, hparse, ?_⟩
  rintro ⟨nodes, hperm, hsame⟩
  -- the delay can be reached, and no node that is read is the same
  have hmem : taggedRest.nodes[2] ∈ nodes := by
    rw [hperm.mem_iff, show taggedRest.reachable = ["trigger_1", "condition_1", "delay_1"] by
      decide +kernel]
    exact List.mem_filter.2 ⟨List.getElem_mem _, rfl⟩
  obtain ⟨m, hm, hmsame⟩ := exists_match_of_mem hsame.flip hmem
  have hnot := List.all_eq_true.1 hdiffer m hm
  rw [hmsame.data] at hnot
  cases hnot

end Document

end Automation
