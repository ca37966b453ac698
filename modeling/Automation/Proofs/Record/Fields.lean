import Automation.Proofs.Record.Reading
import Automation.Record.Automation

/-!
# Records by their fields

A record is read when each of its fields is, and it holds what they give: a node
(`Record.node_eq_value_iff`), an edge, settings, a graph (`Record.graph_eq_value_iff`), and the
record of an automation (`Record.automation_eq_value_iff`). What is shown of a record that was read
is shown of these fields, whichever reader put them together.
-/

namespace Automation

open Reader Reading

namespace Reader

variable {α : Type} {es : Entries}

/-- A record is a mapping whose entries are read. -/
theorem record_eq_value_iff {record : String} {v : Value} {a : α} {read : Entries → Reading α} :
    Reader.record record read v = .value a ↔ ∃ o es, v.expose = .map o es ∧ read es = .value a := by
  refine ⟨of_record_eq_value, ?_⟩
  rintro ⟨o, es, hexpose, hread⟩
  unfold Reader.record
  rw [hexpose]
  exact hread

/-- Entries are read when their keys are. -/
theorem exists_entries_iff {v : Value} {o : Origin} {source : Entries}
    (h : v.expose = .map o source) :
    (∃ es, entries v = .value es) ↔ ∀ e ∈ source, ∃ s, text e.1 = .value s := by
  unfold entries
  rw [h]
  dsimp only
  constructor
  · rintro ⟨es, hes⟩ e he
    obtain ⟨keys, hkeys, -⟩ := map_eq_value.1 hes
    obtain ⟨s, hs⟩ := exists_of_collect_eq_value hkeys (List.mem_map_of_mem he)
    exact ⟨s, under_eq_value.1 hs⟩
  · intro hkeys
    -- all keys are read before the entries are, so each of them has to be text
    have hread : ∀ r ∈ source.map fun e => (text e.1).under [keyStep e.1, "[key]"],
        ∃ s, r = .value s := by
      intro r hr
      obtain ⟨e, he, rfl⟩ := List.mem_map.1 hr
      obtain ⟨s, hs⟩ := hkeys e he
      exact ⟨s, by rw [hs, under_value]⟩
    obtain ⟨keys, hcollect⟩ := exists_collect_eq_value hread
    rw [hcollect]
    exact ⟨_, rfl⟩

/-- Entries are read closely when their keys are, and then as they are read anyhow. -/
theorem closely_eq_value_iff {r : Reading α} {a : α} :
    closely es r = .value a ↔ closely es (pure ()) = .value () ∧ r = .value a := by
  unfold closely
  split
  · exact ⟨nofun, fun h => nomatch h.1⟩
  · exact ⟨fun h => ⟨rfl, h⟩, fun h => h.2⟩

end Reader

namespace Record

variable {es : Entries} {v : Value}

/-! ## Nodes and edges -/

/-- The fields of a node say what the node is. -/
structure NodeFields (es : Entries) (n : Node) : Prop where
  id : field es "id" text = .value n.id
  kind : ∃ name, field es "type" (oneOf kindNames) = .value name ∧ n.kind = .ofValue (.str name)
  data : fieldOr es "data" [] entries = .value n.data
  position : optionalField es "position" position = .value n.position
  label : ∃ name : Option String,
    optionalField es "label" text = .value name ∧ n.label = (name.map .str).getD .null
  flags : fieldOr es "flags" [] entries = .value n.flags

/-- A node is read from a mapping just if its fields are, and they say what it is. -/
theorem node_eq_value_iff {n : Node} :
    node v = .value n ↔ ∃ o es, v.expose = .map o es ∧ NodeFields es n := by
  refine record_eq_value_iff.trans (exists_congr fun o => exists_congr fun es =>
    and_congr_right fun _ => ⟨fun h => ?_, fun h => ?_⟩)
  · obtain ⟨_, flags, h₁, hflags, rfl⟩ := seq_eq_value.1 h
    obtain ⟨_, label, h₂, hlabel, rfl⟩ := seq_eq_value.1 h₁
    obtain ⟨_, position, h₃, hposition, rfl⟩ := seq_eq_value.1 h₂
    obtain ⟨_, data, h₄, hdata, rfl⟩ := seq_eq_value.1 h₃
    obtain ⟨_, kind, h₅, hkind, rfl⟩ := seq_eq_value.1 h₄
    obtain ⟨id, hid, rfl⟩ := map_eq_value.1 h₅
    exact ⟨hid, ⟨kind, hkind, rfl⟩, hdata, hposition, ⟨label, hlabel, rfl⟩, hflags⟩
  · obtain ⟨name, hname, hkind⟩ := h.kind
    obtain ⟨label, hlabel, hlabelled⟩ := h.label
    rw [h.id, hname, h.data, h.position, hlabel, h.flags]
    show Reading.value
      { n with kind := NodeKind.ofValue (.str name), label := (label.map Value.str).getD .null } = _
    rw [← hkind, ← hlabelled]

/-- The fields of an edge say what the edge is, but for the id that an edge without one gets. -/
structure EdgeFields (es : Entries) (e : Edge) : Prop where
  source : field es "source" text = .value e.source
  target : field es "target" text = .value e.target
  handle : Record.handle es = .value e.handle
  label : ∃ name : Option String,
    optionalField es "label" text = .value name ∧ e.label = (name.map .str).getD .null
  id : optionalField es "id" text = .value (some e.id) ∧ e.id ≠ ""
    ∨ (∃ id, optionalField es "id" text = .value id ∧ id.getD "" = "")
      ∧ e = .between e.source e.target e.handle e.label

/-- An edge is read from a mapping just if its fields are. Without an id, or with an empty one, it
gets the id of an edge between its ends. -/
theorem edge_eq_value_iff {e : Edge} :
    edge v = .value e ↔ ∃ o es, v.expose = .map o es ∧ EdgeFields es e := by
  refine record_eq_value_iff.trans (exists_congr fun o => exists_congr fun es =>
    and_congr_right fun _ => ⟨fun h => ?_, fun h => ?_⟩)
  -- the fields are taken apart from the last one on
  · obtain ⟨_, label, h₁, hlabel, rfl⟩ := seq_eq_value.1 h
    obtain ⟨_, handle, h₂, hhandle, rfl⟩ := seq_eq_value.1 h₁
    obtain ⟨_, target, h₃, htarget, rfl⟩ := seq_eq_value.1 h₂
    obtain ⟨_, source, h₄, hsource, rfl⟩ := seq_eq_value.1 h₃
    obtain ⟨id, hid, rfl⟩ := map_eq_value.1 h₄
    dsimp only
    split
    · split
      · rename_i hempty
        exact ⟨hsource, htarget, hhandle, ⟨label, hlabel, rfl⟩, .inr ⟨⟨_, hid, hempty⟩, rfl⟩⟩
      · rename_i hne
        exact ⟨hsource, htarget, hhandle, ⟨label, hlabel, rfl⟩, .inl ⟨hid, hne⟩⟩
    · exact ⟨hsource, htarget, hhandle, ⟨label, hlabel, rfl⟩, .inr ⟨⟨_, hid, rfl⟩, rfl⟩⟩
  · obtain ⟨label, hlabel, hlabelled⟩ := h.label
    -- an id that is missing or empty is made of the ends
    rcases h.id with ⟨hid, hne⟩ | ⟨⟨id, hid, hempty⟩, hbetween⟩
    · rw [hid, h.source, h.target, h.handle, hlabel]
      show Reading.value (if e.id = "" then _ else
        ({ e with label := (label.map Value.str).getD .null } : Edge)) = _
      rw [if_neg hne, ← hlabelled]
    · rw [hid, h.source, h.target, h.handle, hlabel, hbetween, hlabelled]
      cases id with
      | none => rfl
      | some id =>
        cases (show id = "" from hempty)
        rfl

/-! ## Settings -/

/-- The fields that settings of documents and graphs have in common say what the settings are. -/
structure RunFields (es : Entries) (s : Settings) : Prop where
  mode : optionalField es "mode" (oneOf modes) = .value s.mode
  max : optionalField es "max" integer = .value s.max
  maxExceeded : optionalField es "max_exceeded" (oneOf severities) = .value s.maxExceeded
  initialState : optionalField es "initial_state" boolean = .value s.initialState
  hideEntity : optionalField es "hide_entity" boolean = .value s.hideEntity
  trace : optionalField es "trace" entries = .value s.trace
  rest : s.automationId = none ∧ s.vars = []

/-- Settings of a run are read just if their fields are. -/
theorem runSettings_eq_value_iff {s : Settings} :
    runSettings es = .value s ↔ RunFields es s := by
  constructor
  · intro h
    obtain ⟨_, trace, h₁, htrace, rfl⟩ := seq_eq_value.1 h
    obtain ⟨_, hide, h₂, hhide, rfl⟩ := seq_eq_value.1 h₁
    obtain ⟨_, initial, h₃, hinitial, rfl⟩ := seq_eq_value.1 h₂
    obtain ⟨_, exceeded, h₄, hexceeded, rfl⟩ := seq_eq_value.1 h₃
    obtain ⟨_, max, h₅, hmax, rfl⟩ := seq_eq_value.1 h₄
    obtain ⟨mode, hmode, rfl⟩ := map_eq_value.1 h₅
    exact ⟨hmode, hmax, hexceeded, hinitial, hhide, htrace, rfl, rfl⟩
  · intro h
    obtain ⟨hid, hvars⟩ := h.rest
    unfold runSettings
    rw [h.mode, h.max, h.maxExceeded, h.initialState, h.hideEntity, h.trace]
    show Reading.value { s with automationId := none, vars := [] } = _
    rw [← hid, ← hvars]

/-- The fields of the settings of a graph say what the settings are. -/
structure SettingsFields (es : Entries) (s : Settings) : Prop where
  keys : closely es (pure ()) = .value ()
  automationId : optionalField es "automation_id" text = .value s.automationId
  run : ∃ run vars, runSettings es = .value run ∧ fieldOr es "variables" [] entries = .value vars
    ∧ s = { run with
      automationId := s.automationId
      trace := run.trace.map Value.detachEntries
      vars := Value.detachEntries vars }
  rest : ∃ others, extras es ["automation_id", "mode", "max", "max_exceeded", "initial_state",
    "hide_entity", "trace", "variables"] false = .value others

/-- The settings of a graph are read just if their fields are. The trace and the variables are
copied. -/
theorem settings_eq_value_iff {s : Settings} :
    settings v = .value s ↔ ∃ o es, v.expose = .map o es ∧ SettingsFields es s := by
  refine record_eq_value_iff.trans (exists_congr fun o => exists_congr fun es =>
    and_congr_right fun _ => closely_eq_value_iff.trans ⟨fun ⟨hkeys, h⟩ => ?_, fun h => ?_⟩)
  · obtain ⟨_, others, h₁, hothers, rfl⟩ := seq_eq_value.1 h
    obtain ⟨_, vars, h₂, hvars, rfl⟩ := seq_eq_value.1 h₁
    obtain ⟨_, run, h₃, hrun, rfl⟩ := seq_eq_value.1 h₂
    obtain ⟨id, hid, rfl⟩ := map_eq_value.1 h₃
    exact ⟨hkeys, hid, ⟨run, vars, hrun, hvars, rfl⟩, others, hothers⟩
  · obtain ⟨run, vars, hrun, hvars, hs⟩ := h.run
    obtain ⟨others, hothers⟩ := h.rest
    refine ⟨h.keys, ?_⟩
    rw [h.automationId, hrun, hvars, hothers]
    exact congrArg Reading.value hs.symm

/-! ## Graphs -/

/-- The fields of a graph say what the graph is. -/
structure GraphFields (es : Entries) (g : Graph) : Prop where
  keys : closely es (pure ()) = .value ()
  id : ∃ id, optionalField es "id" text = .value id ∧ g.id = id.getD ""
  name : ∃ name, optionalField es "name" text = .value name ∧ g.name = name.getD ""
  description : ∃ description,
    optionalField es "description" text = .value description ∧ g.description = description.getD ""
  version : ∃ n, fieldOr es "version" 1 integer = .value n ∧ g.version = .int n
  strategy : optionalField es "strategy" text = .value g.strategy
  nodes : fieldOr es "nodes" [] (list node) = .value g.nodes
  edges : fieldOr es "edges" [] (list edge) = .value g.edges
  settings : ∃ settings,
    optionalField es "settings" Record.settings = .value settings ∧ g.settings = settings.getD {}
  rest : ∃ others, extras es ["id", "name", "description", "version", "strategy", "nodes", "edges",
    "settings"] false = .value others

/-- A graph is read from entries just if its fields are. -/
theorem graph_eq_value_iff {g : Graph} : graph es = .value g ↔ GraphFields es g := by
  refine closely_eq_value_iff.trans ⟨fun ⟨hkeys, h⟩ => ?_, fun h => ⟨h.keys, ?_⟩⟩
  -- the fields are taken apart from the last one on
  · obtain ⟨_, others, h₁, hothers, rfl⟩ := seq_eq_value.1 h
    obtain ⟨_, settings, h₂, hsettings, rfl⟩ := seq_eq_value.1 h₁
    obtain ⟨_, edges, h₃, hedges, rfl⟩ := seq_eq_value.1 h₂
    obtain ⟨_, nodes, h₄, hnodes, rfl⟩ := seq_eq_value.1 h₃
    obtain ⟨_, strategy, h₅, hstrategy, rfl⟩ := seq_eq_value.1 h₄
    obtain ⟨_, version, h₆, hversion, rfl⟩ := seq_eq_value.1 h₅
    obtain ⟨_, description, h₇, hdescription, rfl⟩ := seq_eq_value.1 h₆
    obtain ⟨_, name, h₈, hname, rfl⟩ := seq_eq_value.1 h₇
    obtain ⟨id, hid, rfl⟩ := map_eq_value.1 h₈
    exact ⟨hkeys, ⟨id, hid, rfl⟩, ⟨name, hname, rfl⟩, ⟨description, hdescription, rfl⟩,
      ⟨version, hversion, rfl⟩, hstrategy, hnodes, hedges, ⟨settings, hsettings, rfl⟩,
      others, hothers⟩
  · obtain ⟨id, hid, hgid⟩ := h.id
    obtain ⟨name, hname, hgname⟩ := h.name
    obtain ⟨description, hdescription, hgdescription⟩ := h.description
    obtain ⟨n, hversion, hgversion⟩ := h.version
    obtain ⟨settings, hsettings, hgsettings⟩ := h.settings
    obtain ⟨others, hothers⟩ := h.rest
    rw [hid, hname, hdescription, hversion, h.strategy, h.nodes, h.edges, hsettings, hothers]
    show Reading.value { g with
      id := id.getD "", name := name.getD "", description := description.getD ""
      version := .int n, settings := settings.getD {} } = _
    rw [← hgid, ← hgname, ← hgdescription, ← hgversion, ← hgsettings]

/-! ## Automations -/

/-- The fields of the record of an automation say what the record is. -/
structure AutomationFields (es : Entries) (r : AutomationRecord) : Prop where
  keys : closely es (pure ()) = .value ()
  id : optionalField es "id" automationId = .value r.id
  name : ∃ title, optionalField es "alias" text = .value title ∧ r.name = title.getD ""
  description : ∃ description,
    optionalField es "description" text = .value description ∧ r.description = description.getD ""
  settings : ∃ run vars, runSettings es = .value run
    ∧ optionalField es "variables" entries = .value vars
    ∧ r.settings = { run with vars := vars.getD [] }
  triggers : field es "triggers" (list entries) = .value r.triggers
  conditions : fieldOr es "conditions" [] (list any) = .value r.conditions
  actions : field es "actions" (list entries) = .value r.actions
  others : extras es automationFields true = .value r.others

/-- The record of an automation is read from entries just if its fields are. -/
theorem automation_eq_value_iff {r : AutomationRecord} :
    automation es = .value r ↔ AutomationFields es r := by
  refine closely_eq_value_iff.trans ⟨fun ⟨hkeys, h⟩ => ?_, fun h => ⟨h.keys, ?_⟩⟩
  -- the fields are taken apart from the last one on
  · obtain ⟨_, others, h₁, hothers, rfl⟩ := seq_eq_value.1 h
    obtain ⟨_, actions, h₂, hactions, rfl⟩ := seq_eq_value.1 h₁
    obtain ⟨_, conditions, h₃, hconditions, rfl⟩ := seq_eq_value.1 h₂
    obtain ⟨_, triggers, h₄, htriggers, rfl⟩ := seq_eq_value.1 h₃
    obtain ⟨_, vars, h₅, hvars, rfl⟩ := seq_eq_value.1 h₄
    obtain ⟨_, run, h₆, hrun, rfl⟩ := seq_eq_value.1 h₅
    obtain ⟨_, description, h₇, hdescription, rfl⟩ := seq_eq_value.1 h₆
    obtain ⟨_, title, h₈, htitle, rfl⟩ := seq_eq_value.1 h₇
    obtain ⟨id, hid, rfl⟩ := map_eq_value.1 h₈
    exact ⟨hkeys, hid, ⟨title, htitle, rfl⟩, ⟨description, hdescription, rfl⟩,
      ⟨run, vars, hrun, hvars, rfl⟩, htriggers, hconditions, hactions, hothers⟩
  · obtain ⟨title, htitle, hname⟩ := h.name
    obtain ⟨description, hdescription, hrdescription⟩ := h.description
    obtain ⟨run, vars, hrun, hvars, hsettings⟩ := h.settings
    rw [h.id, htitle, hdescription, hrun, hvars, h.triggers, h.conditions, h.actions, h.others]
    show Reading.value { r with
      name := title.getD "", description := description.getD ""
      settings := { run with vars := vars.getD [] } } = _
    rw [← hname, ← hrdescription, ← hsettings]

end Record

theorem AutomationRecord.ofEntries_eq_ok_iff {es : Entries} {r : AutomationRecord} :
    AutomationRecord.ofEntries es = .ok r ↔ Record.AutomationFields es r := by
  rw [← Record.automation_eq_value_iff]
  unfold AutomationRecord.ofEntries
  split
  · rename_i r' hread
    rw [hread, Except.ok.injEq, Reading.value.injEq]
  · rename_i issues hread
    rw [hread]
    exact ⟨nofun, nofun⟩

theorem Graph.ofEntries_eq_ok_iff {es : Entries} {g : Graph} :
    Graph.ofEntries es = .ok g ↔ Record.GraphFields es g := by
  rw [← Record.graph_eq_value_iff]
  unfold Graph.ofEntries
  split
  · rename_i g' hread
    rw [hread, Except.ok.injEq, Reading.value.injEq]
  · rename_i issues hread
    rw [hread]
    exact ⟨nofun, nofun⟩

end Automation
