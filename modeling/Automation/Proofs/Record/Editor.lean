import Automation.Proofs.Document.Sections
import Automation.Proofs.Record.Fields
import Automation.Proofs.Value.Copies
import Automation.Record.Graph

/-!
# What an editor keeps of a graph

A graph whose fields are of the kinds that the editor's shape asks for (`Graph.Editable`) is read
back from its shape (`Graph.ofValue_toValue`). What comes back is not quite the graph
(`Graph.edited`): names that count as false are gone, so are an empty strategy and an empty trace,
and settings are copies.

Every graph that is read from the editor's shape is editable (`Graph.editable_of_ofValue`).
-/

namespace Automation

open Entries Reader

/-- A name as records have one: a text or null. -/
def Value.IsName (v : Value) : Prop := ∃ name : Option String, v = (name.map .str).getD .null

/-- A name without those that count as false. -/
def Value.named (v : Value) : Value := v.ifTruthy.getD .null

/-- A node whose fields are of the kinds that the editor's shape asks for. -/
structure Node.Editable (n : Node) : Prop where
  kind : n.kind.isKnown = true
  data : n.data.Keyed
  position : ∀ p ∈ n.position, ∃ x y, p = { x := .float x, y := .float y }
  label : n.label.IsName
  flags : n.flags.Keyed

/-- An edge whose fields are of the kinds that the editor's shape asks for. -/
structure Edge.Editable (e : Edge) : Prop where
  id : e.id ≠ ""
  label : e.label.IsName

/-- A graph whose fields are of the kinds that the editor's shape asks for. -/
structure Graph.Editable (g : Graph) : Prop where
  version : ∃ n, g.version = .int n
  nodes : ∀ n ∈ g.nodes, n.Editable
  edges : ∀ e ∈ g.edges, e.Editable
  settings : g.settings.Valid

/-- What an editor keeps of a node. -/
def Node.edited (n : Node) : Node := { n with label := n.label.named }

/-- What an editor keeps of an edge. -/
def Edge.edited (e : Edge) : Edge := { e with label := e.label.named }

/-- What an editor keeps of settings. -/
def Settings.edited (s : Settings) : Settings :=
  { s with
    trace := (s.trace.filter (!·.isEmpty)).map Value.detachEntries
    vars := Value.detachEntries s.vars }

/-- What an editor keeps of a graph. -/
def Graph.edited (g : Graph) : Graph :=
  { g with
    strategy := g.strategy.filter (· != "")
    nodes := g.nodes.map Node.edited
    edges := g.edges.map Edge.edited
    settings := g.settings.edited }

namespace Record

/-! ## Fields -/

/-- A name is written when it counts as true. -/
theorem optionalField_label {es : Entries} {label : Value} (hlabel : label.IsName)
    (h : es.get? "label" = label.ifTruthy) :
    ∃ name : Option String, optionalField es "label" text = .value name
      ∧ (name.map Value.str).getD .null = label.named := by
  obtain ⟨name, rfl⟩ := hlabel
  refine ⟨name.filter (· != ""), ?_, ?_⟩
  · refine optionalField_of_get? .str ?_ (fun _ _ => rfl) fun _ _ => rfl
    rw [h]
    cases name with
    | none => rfl
    | some s => by_cases hs : s = "" <;> simp [Value.ifTruthy, Value.truthy, Option.filter, hs]
  · cases name with
    | none => rfl
    | some s => by_cases hs : s = "" <;> simp [Value.named, Value.ifTruthy, Value.truthy, Option.filter, hs]

/-- Entries are written when there are any. -/
theorem fieldOr_ifAny {es fields : Entries} {name : String} (hkeyed : fields.Keyed)
    (h : es.get? name = Value.ifAny fields) : fieldOr es name [] entries = .value fields := by
  cases fields with
  | nil =>
    rw [fieldOr, h]
    rfl
  | cons e fields => exact fieldOr_of_get? h (entries_ofEntries hkeyed)

/-! ## Nodes and edges -/

/-- The name of a known kind is one that records have. -/
theorem oneOf_kindNames {kind : NodeKind} (h : kind.isKnown = true) :
    ∃ name, oneOf kindNames kind.toValue = .value name ∧ NodeKind.ofValue (.str name) = kind := by
  have hread : ∀ name ∈ kindNames, oneOf kindNames (.str name) = .value name :=
    fun name hname => oneOf_of_mem (by decide +kernel) hname
  cases kind <;> first
    | exact ⟨_, hread _ (by decide), rfl⟩
    | cases h

/-- The fields that a node is written with. -/
theorem exists_fields_node (n : Node) : ∃ es, n.toValue = .ofEntries es
    ∧ es.get? "id" = some (.str n.id) ∧ es.get? "type" = some n.kind.toValue
    ∧ es.get? "data" = some (.ofEntries n.data)
    ∧ es.get? "position" = n.position.map Position.toValue
    ∧ es.get? "label" = n.label.ifTruthy ∧ es.get? "flags" = Value.ifAny n.flags := by
  refine ⟨_, rfl, ?_⟩
  simp [get?_append, get?_field]

/-- The fields that an edge is written with. -/
theorem exists_fields_edge (e : Edge) : ∃ es, e.toValue = .ofEntries es
    ∧ es.get? "id" = some (.str e.id) ∧ es.get? "source" = some (.str e.source)
    ∧ es.get? "target" = some (.str e.target) ∧ es.get? "sourceHandle" = e.handle.map .str
    ∧ es.get? "source_handle" = none ∧ es.get? "label" = e.label.ifTruthy := by
  refine ⟨_, rfl, ?_⟩
  simp [get?_append, get?_field]

/-- A node is read back from the editor's shape. -/
theorem node_toValue {n : Node} (h : n.Editable) : node n.toValue = .value n.edited := by
  obtain ⟨es, hes, hid, htype, hdata, hposition, hlabel, hflags⟩ := exists_fields_node n
  obtain ⟨kind, hkind, hofValue⟩ := oneOf_kindNames h.kind
  obtain ⟨name, hname, hnamed⟩ := optionalField_label h.label hlabel
  rw [hes]
  show (fun id kind data position label flags =>
      ({ id, kind := .ofValue (.str kind), data, position,
         label := (label.map .str).getD .null, flags } : Node))
    <$> field es "id" text <*> field es "type" (oneOf kindNames)
    <*> fieldOr es "data" [] entries <*> optionalField es "position" position
    <*> optionalField es "label" text <*> fieldOr es "flags" [] entries = _
  rw [field_of_get? (a := n.id) hid rfl, field_of_get? htype hkind,
    fieldOr_of_get? hdata (entries_ofEntries h.data),
    optionalField_of_get? Position.toValue hposition (fun p hp => by
      obtain ⟨x, y, rfl⟩ := h.position p hp
      rfl) fun _ _ => rfl,
    hname, fieldOr_ifAny h.flags hflags]
  show Reading.value
    { n with kind := NodeKind.ofValue (.str kind), label := (name.map Value.str).getD .null } = _
  rw [hofValue, hnamed]
  rfl

/-- An edge is read back from the editor's shape. -/
theorem edge_toValue {e : Edge} (h : e.Editable) : edge e.toValue = .value e.edited := by
  obtain ⟨es, hes, hid, hsource, htarget, hhandle, hother, hlabel⟩ := exists_fields_edge e
  obtain ⟨name, hname, hnamed⟩ := optionalField_label h.label hlabel
  -- the handle has two names, of which the one that is written is read first
  have hhandle : handle es = .value e.handle := by
    unfold handle
    split
    · exact optionalField_of_get? .str hhandle (fun _ _ => rfl) fun _ _ => rfl
    · rename_i hno
      rw [has_eq_isSome_get?, hhandle, Option.isSome_map, Bool.not_eq_true,
        Option.isSome_eq_false_iff, Option.isNone_iff_eq_none] at hno
      rw [hno, optionalField, fieldOr, hother]
      rfl
  rw [hes]
  show (fun id source target handle label => _) <$> optionalField es "id" text
    <*> field es "source" text <*> field es "target" text <*> handle es
    <*> optionalField es "label" text = _
  rw [optionalField_of_get? (o := some e.id) .str hid (fun _ _ => rfl) fun _ _ => rfl,
    field_of_get? (a := e.source) hsource rfl, field_of_get? (a := e.target) htarget rfl, hhandle,
    hname]
  show Reading.value (if e.id = "" then _ else
    ({ e with label := (name.map Value.str).getD .null } : Edge)) = _
  rw [if_neg h.id, hnamed]
  rfl

/-! ## Settings -/

/-- The names of the settings. -/
def settingNames : List String := ["automation_id", "mode", "max", "max_exceeded", "initial_state",
  "hide_entity", "trace", "variables"]

theorem exists_of_mem_field {names : List String} {name : String} (hname : name ∈ names)
    {v : Option Value} {e : Value × Value} (he : e ∈ Entries.field name v) :
    ∃ name ∈ names, e.1 = .str name := by
  cases v with
  | none => cases he
  | some v => exact ⟨name, hname, by rw [List.mem_singleton.1 he]⟩

theorem exists_of_mem_toEntries {s : Settings} {e : Value × Value} (he : e ∈ s.toEntries) :
    ∃ name ∈ settingNames, e.1 = .str name := by
  unfold Settings.toEntries at he
  simp only [List.mem_append] at he
  rcases he with ((((((he | he) | he) | he) | he) | he) | he) | he <;>
    exact exists_of_mem_field (by decide) he

/-- Settings are read back as copies, without an empty trace. -/
theorem settings_toEntries {s : Settings} (h : s.Valid) :
    settings (.ofEntries s.toEntries) = .value s.edited := by
  -- an empty trace is left out, and then it is read as none
  have htrace : (s.trace.bind Value.ifAny) = (s.trace.filter (!·.isEmpty)).map .ofEntries := by
    cases s.trace with
    | none => rfl
    | some es => cases es <;> rfl
  have hfields : ∀ e ∈ s.toEntries, ∃ name ∈ settingNames, e.1 = .str name :=
    fun e he => exists_of_mem_toEntries he
  have hvalid : Settings.Valid { s with trace := s.trace.filter (!·.isEmpty) } :=
    ⟨h.mode, h.maxExceeded, fun es hes => h.trace es (Option.mem_filter_iff.1 hes).1, h.vars⟩
  have hid : get? s.toEntries "automation_id" = s.automationId.map .str := by
    simp [Settings.toEntries, get?_append, get?_field]
  have hrun : runSettings s.toEntries = .value
      { s with trace := s.trace.filter (!·.isEmpty), automationId := none, vars := [] } := by
    refine Document.runSettings_of_get? hvalid ?_ ?_ ?_ ?_ ?_ ?_ <;>
      simp [Settings.toEntries, get?_append, get?_field, htrace]
  have hvars : get? s.toEntries "variables" = Value.ifAny s.vars := by
    simp [Settings.toEntries, get?_append, get?_field]
  show closely s.toEntries ((fun automationId run vars (_ : List String) => _)
    <$> optionalField s.toEntries "automation_id" text <*> runSettings s.toEntries
    <*> fieldOr s.toEntries "variables" [] entries
    <*> extras s.toEntries settingNames false) = _
  rw [closely_of_forall hfields (by decide +kernel), hrun, fieldOr_ifAny h.vars hvars,
    optionalField_of_get? .str hid (fun _ _ => rfl) fun _ _ => rfl, extras_of_forall hfields]
  rfl

end Record

/-! ## Graphs -/

namespace Graph

variable {g : Graph}

/-- The names of the fields of a graph. -/
def fieldNames : List String :=
  ["id", "name", "description", "version", "strategy", "nodes", "edges", "settings"]

/-- The fields that a graph is written with. -/
theorem exists_fields (g : Graph) : ∃ es, g.toValue = .ofEntries es
    ∧ es.get? "id" = some (.str g.id) ∧ es.get? "name" = some (.str g.name)
    ∧ es.get? "description" = some (.str g.description) ∧ es.get? "version" = some g.version.toValue
    ∧ es.get? "strategy" = (g.strategy.map Value.str).bind Value.ifTruthy
    ∧ es.get? "nodes" = some (.ofItems (g.nodes.map (·.toValue)))
    ∧ es.get? "edges" = some (.ofItems (g.edges.map (·.toValue)))
    ∧ es.get? "settings" = Value.ifAny g.settings.toEntries
    ∧ ∀ e ∈ es, ∃ name ∈ fieldNames, e.1 = .str name := by
  refine ⟨_, rfl, ?_, ?_, ?_, ?_, ?_, ?_, ?_, ?_, fun e he => ?_⟩
  case refine_9 =>
    simp only [List.mem_append] at he
    rcases he with (he | he) | he
    · have hall : ∀ key ∈ ["id", "name", "description", "version", "nodes", "edges"],
          key ∈ fieldNames := by decide
      simp only [List.mem_cons, List.not_mem_nil, or_false] at he
      rcases he with rfl | rfl | rfl | rfl | rfl | rfl <;> exact ⟨_, hall _ (by decide), rfl⟩
    · exact Record.exists_of_mem_field (by decide) he
    · exact Record.exists_of_mem_field (by decide) he
  all_goals simp [get?_append, get?_field]

theorem eq_none_of_field_eq_nil {name : String} {v : Option Value}
    (h : Entries.field name v = []) : v = none := by
  cases v with
  | none => rfl
  | some v => cases h

/-- Settings that write nothing come back as none at all. -/
theorem edited_of_toEntries_eq_nil {s : Settings} (h : s.toEntries = []) : s.edited = {} := by
  unfold Settings.toEntries at h
  simp only [List.append_eq_nil_iff] at h
  -- each field is left out, and so each setting is what it is by default
  obtain ⟨⟨⟨⟨⟨⟨⟨hid, hmode⟩, hmax⟩, hexceeded⟩, hinitial⟩, hhide⟩, htrace⟩, hvars⟩ := h
  have hid := Option.map_eq_none_iff.1 (eq_none_of_field_eq_nil hid)
  have hmode := Option.map_eq_none_iff.1 (eq_none_of_field_eq_nil hmode)
  have hmax := Option.map_eq_none_iff.1 (eq_none_of_field_eq_nil hmax)
  have hexceeded := Option.map_eq_none_iff.1 (eq_none_of_field_eq_nil hexceeded)
  have hinitial := Option.map_eq_none_iff.1 (eq_none_of_field_eq_nil hinitial)
  have hhide := Option.map_eq_none_iff.1 (eq_none_of_field_eq_nil hhide)
  have htrace : s.trace.filter (!·.isEmpty) = none := by
    have hnone := eq_none_of_field_eq_nil htrace
    cases htrace : s.trace with
    | none => rfl
    | some es =>
      rw [htrace] at hnone
      cases es with
      | nil => rfl
      | cons => cases hnone
  have hvars : s.vars = [] := by
    have hnone := eq_none_of_field_eq_nil hvars
    cases hvars : s.vars with
    | nil => rfl
    | cons =>
      rw [hvars] at hnone
      cases hnone
  unfold Settings.edited
  rw [htrace, hid, hmode, hmax, hexceeded, hinitial, hhide, hvars]
  rfl

/-- A strategy is read back, and an empty one as none. -/
theorem optionalField_strategy {es : Entries} {strategy : Option String}
    (h : es.get? "strategy" = (strategy.map Value.str).bind Value.ifTruthy) :
    optionalField es "strategy" text = .value (strategy.filter (· != "")) := by
  refine optionalField_of_get? .str ?_ (fun _ _ => rfl) fun _ _ => rfl
  rw [h]
  cases strategy with
  | none => rfl
  | some s =>
    by_cases hs : s = "" <;> simp [Value.ifTruthy, Value.truthy, Option.filter, hs]

/-- Settings are read back, and without any field as the default ones. -/
theorem exists_optionalField_settings {es : Entries} {s : Settings} (hs : s.Valid)
    (h : es.get? "settings" = Value.ifAny s.toEntries) :
    ∃ o, optionalField es "settings" Record.settings = .value o ∧ o.getD {} = s.edited := by
  unfold Value.ifAny at h
  split at h
  · rename_i hempty
    refine ⟨none, ?_, (edited_of_toEntries_eq_nil (List.isEmpty_iff.1 hempty)).symm⟩
    rw [optionalField, fieldOr, h]
    rfl
  · refine ⟨some s.edited, ?_, rfl⟩
    refine fieldOr_of_get? h ?_
    show some <$> Record.settings (.ofEntries s.toEntries) = _
    rw [Record.settings_toEntries hs]
    rfl

/-- A graph is read back from its editor's shape, up to what an editor does not keep. -/
theorem ofValue_toValue (h : g.Editable) : ofValue g.toValue = .ok g.edited := by
  obtain ⟨es, hes, hid, hname, hdescription, hversion, hstrategy, hnodes, hedges, hsettings,
    hfields⟩ := exists_fields g
  obtain ⟨n, hn⟩ := h.version
  obtain ⟨o, hsettings, hedited⟩ := exists_optionalField_settings h.settings hsettings
  -- each field is found where it was written, and read as what it was
  have hread : Record.graph es = .value g.edited := by
    show closely es ((fun id name description version strategy nodes edges settings
        (_ : List String) => _) <$> optionalField es "id" text <*> optionalField es "name" text
      <*> optionalField es "description" text <*> fieldOr es "version" 1 integer
      <*> optionalField es "strategy" text <*> fieldOr es "nodes" [] (list Record.node)
      <*> fieldOr es "edges" [] (list Record.edge) <*> optionalField es "settings" Record.settings
      <*> extras es fieldNames false) = _
    rw [closely_of_forall hfields (by decide +kernel), extras_of_forall hfields,
      optionalField_of_get? (o := some g.id) .str hid (fun _ _ => rfl) fun _ _ => rfl,
      optionalField_of_get? (o := some g.name) .str hname (fun _ _ => rfl) fun _ _ => rfl,
      optionalField_of_get? (o := some g.description) .str hdescription (fun _ _ => rfl)
        fun _ _ => rfl,
      fieldOr_of_get? (a := n) hversion (by rw [hn]; rfl), optionalField_strategy hstrategy,
      fieldOr_of_get? hnodes (list_map fun n hn => Record.node_toValue (h.nodes n hn)),
      fieldOr_of_get? hedges (list_map fun e he => Record.edge_toValue (h.edges e he)), hsettings]
    unfold Graph.edited
    rw [← hedited, hn]
    rfl
  rw [hes]
  show ofEntries es = _
  unfold ofEntries
  rw [hread]

end Graph

/-! ## Graphs that were read -/

/-- A copy has the keys of the mapping. -/
theorem Entries.Keyed.detach {es : Entries} (h : es.Keyed) : Keyed (Value.detachEntries es) := by
  have hkey {e : Value × Value} (he : e ∈ es) : e.1.detach = e.1 := by
    obtain ⟨s, hs⟩ := Value.isStr_iff.1 (h.isStr e he)
    rw [hs]
    rfl
  rw [Value.detachEntries_eq_map]
  refine ⟨fun e he => ?_, List.pairwise_map.2 (h.distinct.imp_of_mem fun {a b} ha hb hab => ?_)⟩
  · obtain ⟨e', he', rfl⟩ := List.mem_map.1 he
    rw [hkey he']
    exact h.isStr e' he'
  · rw [hkey ha, hkey hb]
    exact hab

namespace Record

open Reading

theorem isName_map (name : Option String) : ((name.map Value.str).getD .null).IsName := ⟨name, rfl⟩

theorem isKnown_of_mem_kindNames {name : String} (h : name ∈ kindNames) :
    (NodeKind.ofValue (.str name)).isKnown = true := by
  have hall : ∀ name ∈ kindNames, (NodeKind.ofValue (.str name)).isKnown = true := by decide
  exact hall name h

theorem exists_floats_of_position {v : Value} {p : Position} (h : position v = .value p) :
    ∃ x y, p = { x := .float x, y := .float y } := by
  obtain ⟨_, es, -, h⟩ := of_record_eq_value h
  obtain ⟨f, y, h₁, -, rfl⟩ := seq_eq_value.1 h
  obtain ⟨x, -, rfl⟩ := map_eq_value.1 h₁
  exact ⟨x, y, rfl⟩

/-- A node that is read is of a known kind, and its data and flags have texts as keys. -/
theorem editable_of_node {v : Value} {n : Node} (h : node v = .value n) : n.Editable := by
  obtain ⟨_, es, -, hn⟩ := node_eq_value_iff.1 h
  have hkeyed {name : String} {fields : Entries}
      (hread : fieldOr es name [] entries = .value fields) : fields.Keyed := by
    rcases of_fieldOr_eq_value hread with rfl | ⟨v, -, hv⟩
    · exact keyed_nil
    · exact keyed_of_entries hv
  obtain ⟨kind, hkind, hnkind⟩ := hn.kind
  obtain ⟨label, -, hlabel⟩ := hn.label
  obtain ⟨v, -, hv⟩ := of_field_eq_value hkind
  refine ⟨hnkind ▸ isKnown_of_mem_kindNames (mem_of_oneOf hv), hkeyed hn.data, fun p hp => ?_,
    hlabel ▸ isName_map label, hkeyed hn.flags⟩
  obtain ⟨v, -, hv⟩ := of_optionalField_eq_value hn.position p hp
  exact exists_floats_of_position hv

theorem between_id_ne (source target : String) (handle : Option String) (label : Value) :
    (Edge.between source target handle label).id ≠ "" := by
  have hbase (rest : String) : "e-" ++ rest ≠ "" := by
    intro h
    have hlist := congrArg String.toList h
    rw [String.toList_append] at hlist
    cases hlist
  have hshape : ∃ rest, (Edge.between source target handle label).id = "e-" ++ rest := by
    unfold Edge.between
    cases handle with
    | none => exact ⟨source ++ "-" ++ target, by simp [toString, String.append_assoc]⟩
    | some handle =>
      by_cases h : handle = ""
      · exact ⟨source ++ "-" ++ target, by simp [h, toString, String.append_assoc]⟩
      · exact ⟨source ++ "-" ++ target ++ "-" ++ handle, by
          simp [h, toString, String.append_assoc]⟩
  obtain ⟨rest, hrest⟩ := hshape
  rw [hrest]
  exact hbase rest

/-- An edge that is read has an id, its own or one made of its ends. -/
theorem editable_of_edge {v : Value} {e : Edge} (h : edge v = .value e) : e.Editable := by
  obtain ⟨_, es, -, he⟩ := edge_eq_value_iff.1 h
  obtain ⟨label, -, hlabel⟩ := he.label
  refine ⟨?_, hlabel ▸ isName_map label⟩
  rcases he.id with ⟨-, hne⟩ | ⟨-, hbetween⟩
  · exact hne
  · rw [hbetween]
    exact between_id_ne _ _ _ _

/-- Settings that are read are as their fields ask. -/
theorem valid_of_runSettings {es : Entries} {s : Settings} (h : runSettings es = .value s) :
    s.Valid := by
  have hs := runSettings_eq_value_iff.1 h
  refine ⟨fun m hm => ?_, fun m hm => ?_, fun t ht => ?_, ?_⟩
  · obtain ⟨v, -, hv⟩ := of_optionalField_eq_value hs.mode m hm
    exact mem_of_oneOf hv
  · obtain ⟨v, -, hv⟩ := of_optionalField_eq_value hs.maxExceeded m hm
    exact mem_of_oneOf hv
  · obtain ⟨v, -, hv⟩ := of_optionalField_eq_value hs.trace t ht
    exact keyed_of_entries hv
  · rw [hs.rest.2]
    exact keyed_nil

theorem valid_of_settings {v : Value} {s : Settings} (h : settings v = .value s) : s.Valid := by
  obtain ⟨_, es, -, hs⟩ := settings_eq_value_iff.1 h
  obtain ⟨run, vars, hrun, hvars, hsame⟩ := hs.run
  have hrun := valid_of_runSettings hrun
  rw [hsame]
  -- the trace and the variables are copies, which keep their keys
  refine ⟨hrun.mode, hrun.maxExceeded, fun t ht => ?_, ?_⟩
  · obtain ⟨t', ht', rfl⟩ := Option.map_eq_some_iff.1 ht
    exact (hrun.trace t' ht').detach
  · rcases of_fieldOr_eq_value hvars with rfl | ⟨v, -, hv⟩
    · exact keyed_nil
    · exact (keyed_of_entries hv).detach

end Record

/-- A graph that is read from an editor's shape can be read again. -/
theorem Graph.editable_of_ofValue {v : Value} {g : Graph} (h : ofValue v = .ok g) : g.Editable := by
  unfold ofValue at h
  split at h
  · rename_i es
    have hg := Graph.ofEntries_eq_ok_iff.1 h
    obtain ⟨version, -, hversion⟩ := hg.version
    obtain ⟨settings, hsettings, hgsettings⟩ := hg.settings
    refine ⟨⟨version, hversion⟩, fun n hn => ?_, fun e he => ?_, ?_⟩
    · rcases of_fieldOr_eq_value hg.nodes with hnil | ⟨v, -, hv⟩
      · rw [hnil] at hn
        cases hn
      · obtain ⟨items, -, hall⟩ := of_list_eq_value hv
        obtain ⟨item, -, hitem⟩ := hall n hn
        exact Record.editable_of_node hitem
    · rcases of_fieldOr_eq_value hg.edges with hnil | ⟨v, -, hv⟩
      · rw [hnil] at he
        cases he
      · obtain ⟨items, -, hall⟩ := of_list_eq_value hv
        obtain ⟨item, -, hitem⟩ := hall e he
        exact Record.editable_of_edge hitem
    · rw [hgsettings]
      cases settings with
      | none => exact ⟨by simp, by simp, by simp, keyed_nil⟩
      | some s =>
        obtain ⟨v, -, hv⟩ := of_optionalField_eq_value hsettings s rfl
        exact Record.valid_of_settings hv
  · cases h

end Automation
