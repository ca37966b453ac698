import Automation.Document.Reading
import Automation.Proofs.Document.Assembly
import Automation.Proofs.Program.Reads
import Automation.Proofs.Record.Reading

/-!
# Written documents read back

The sections of a document that was written are its own: none has an old name, and each is found as
the list that was written (`exists_sections_assemble`). The record in them has the entries of each
list, and the metadata is that of the graph (`Metadata.exists_ofEntries_encode`). Both are found
again in what was written (`exists_recovers`).
-/

namespace Automation

open Entries Reader

/-! ## What a graph promises to a writer -/

/-- Settings as their schema has them. -/
structure Settings.Valid (s : Settings) : Prop where
  mode : ∀ m ∈ s.mode, m ∈ Record.modes
  maxExceeded : ∀ m ∈ s.maxExceeded, m ∈ Record.severities
  trace : ∀ es ∈ s.trace, es.Keyed
  vars : s.vars.Keyed

/-- A graph in which what a document says of the automation as a whole, and of where its nodes are,
has the types of its schema. Numbers may be written as a reader takes them: a whole number for a
coordinate, a version without a fraction. -/
structure Graph.Headed (g : Graph) : Prop where
  version : ∃ n, Reader.integer g.version.toValue = .value n
  positions : ∀ n ∈ g.nodes, ∀ p ∈ n.position, ∃ q, Record.position p.toValue = .value q
  settings : g.settings.Valid

namespace Metadata

/-- The positions of a graph are written under ids. -/
theorem of_mem_positionEntries {nodes : List Node} {e : Value × Value}
    (h : e ∈ positionEntries nodes) :
    ∃ n ∈ nodes, ∃ p ∈ n.position, ∃ id, e = (.str id, p.toValue) := by
  have hall : ∀ e ∈ positionEntries nodes,
      ∃ n ∈ nodes, ∃ p ∈ n.position, ∃ id, e = (.str id, p.toValue) := by
    unfold positionEntries
    -- a node with a position takes the place of an entry under its id, or comes last
    refine List.foldlRecOn (motive := fun acc : Entries => ∀ e ∈ acc,
      ∃ n ∈ nodes, ∃ p ∈ n.position, ∃ id, e = (.str id, p.toValue)) nodes _ (by simp)
      fun acc hacc n hn => ?_
    split
    · rename_i p hp
      intro e he
      unfold Entries.set at he
      split at he
      · obtain ⟨e', he', rfl⟩ := List.mem_map.1 he
        obtain ⟨m, hm, q, hq, id, rfl⟩ := hacc e' he'
        split
        · exact ⟨n, hn, p, hp, id, rfl⟩
        · exact ⟨m, hm, q, hq, id, rfl⟩
      · rcases List.mem_append.1 he with he | he
        · exact hacc e he
        · rw [List.mem_singleton.1 he]
          exact ⟨n, hn, p, hp, _, rfl⟩
    · exact hacc
  exact hall e h

theorem list_ofTexts (texts : List String) : list text (.ofTexts texts) = .value texts := by
  have hread : list text (.ofTexts texts)
      = .value ((texts.map Value.str).map fun v => v.text?.getD "") :=
    list_ofItems fun v hv => by
      obtain ⟨s, -, rfl⟩ := List.mem_map.1 hv
      rfl
  rw [List.map_map] at hread
  exact hread.trans (congrArg _ (List.map_id' texts))

/-- The block of a graph is read as what was written, when its version and its positions are. -/
theorem read_encode {g : Graph} {version : Int} {positions : List (String × Position)}
    (hversion : integer g.version.toValue = .value version)
    (hpositions : mapping Record.position (.ofEntries (positionEntries g.nodes)) = .value positions)
    (strategy : Strategy) (order : List String) :
    read (encode g strategy.name order) = .value ⟨currentVersion, order, positions,
      if g.id = "" then none else some g.id, some version, some strategy.name⟩ := by
  have h₁ : field (encode g strategy.name order) "schema_version" integer
      = .value currentVersion := field_of_get? rfl rfl
  have h₂ : fieldOr (encode g strategy.name order) "node_ids" [] (list text) = .value order :=
    fieldOr_of_get? rfl (list_ofTexts order)
  have h₃ : fieldOr (encode g strategy.name order) "node_positions" [] (mapping Record.position)
      = .value positions := fieldOr_of_get? rfl hpositions
  have h₄ : optionalField (encode g strategy.name order) "graph_id" text
      = .value (if g.id = "" then none else some g.id) := by
    refine fieldOr_of_get? rfl ?_
    split <;> rfl
  -- the version is a number of the graph, read as the integer it stands for
  have h₅ : optionalField (encode g strategy.name order) "graph_version" integer
      = .value (some version) := by
    refine fieldOr_of_get? rfl ?_
    have hsome : optional integer g.version.toValue = some <$> integer g.version.toValue := by
      cases g.version <;> rfl
    rw [hsome, hversion]
    rfl
  have h₆ : optionalField (encode g strategy.name order) "strategy" text
      = .value (some strategy.name) := fieldOr_of_get? rfl rfl
  unfold read
  rw [h₁, h₂, h₃, h₄, h₅, h₆]
  rfl

/-- The block of a graph can be used, and what it says is what was written. -/
theorem exists_ofEntries_encode {g : Graph} (hg : g.Headed) (strategy : Strategy)
    (order : List String) : ∃ version positions, integer g.version.toValue = .value version
      ∧ mapping Record.position (.ofEntries (positionEntries g.nodes)) = .value positions
      ∧ ofEntries (encode g strategy.name order) = .ok ⟨currentVersion, order, positions,
        if g.id = "" then none else some g.id, some version, some strategy.name⟩ := by
  obtain ⟨version, hversion⟩ := hg.version
  have hpositions : ∃ ps, mapping Record.position (.ofEntries (positionEntries g.nodes))
      = .value ps := by
    refine exists_mapping_ofEntries fun e he => ?_
    obtain ⟨n, hn, p, hp, id, rfl⟩ := of_mem_positionEntries he
    exact ⟨rfl, hg.positions n hn p hp⟩
  obtain ⟨positions, hpositions⟩ := hpositions
  refine ⟨version, positions, hversion, hpositions, ?_⟩
  have hcurrent : ((encode g strategy.name order).get "schema_version").same (.int currentVersion)
      = true := by
    show Value.same (.int currentVersion) (.int currentVersion) = true
    decide
  unfold ofEntries
  simp only [hcurrent, Bool.not_true, Bool.false_eq_true, if_false,
    read_encode hversion hpositions strategy order, Strategy.ofName?_name, Option.isSome_some, if_true]

end Metadata

namespace Document

/-! ## Sections -/

/-- Entries under present names are left alone. -/
theorem renameSections_of_forall {document es : Entries} (notices : List Notice)
    (h : ∀ e ∈ es, presentName? e.1 = none) :
    renameSections document es notices = (.ok es, notices) := by
  induction es with
  | nil => rfl
  | cons e es ih =>
    obtain ⟨k, v⟩ := e
    have hk : presentName? k = none := h (k, v) List.mem_cons_self
    unfold renameSections
    rw [hk, ih fun e he => h e (List.mem_cons_of_mem _ he)]
    rfl

/-- An entry of a document as it is found: with its value, under its key or, when that is the old
name of a section, under the present one. -/
structure IsRenamed (e e' : Value × Value) : Prop where
  value : e'.2 = e.2
  key : presentName? e.1 = none ∧ e'.1 = e.1
    ∨ ∃ new, presentName? e.1 = some new ∧ e'.1 = .str new

/-- Renaming sections goes entry by entry. -/
theorem forall₂_of_renameSections {document es renamed : Entries} {notices notices' : List Notice}
    (h : renameSections document es notices = (.ok renamed, notices')) :
    List.Forall₂ IsRenamed es renamed := by
  induction es generalizing renamed notices notices' with
  | nil =>
    cases h
    exact .nil
  | cons e rest ih =>
    obtain ⟨k, v⟩ := e
    -- what is renamed behind the entry is there as well, or nothing would be
    have hrest {notices : List Notice} {k' : Value}
        (h : (renameSections document rest notices).1.map (fun es => (k', v) :: es) = .ok renamed) :
        ∃ es, List.Forall₂ IsRenamed rest es ∧ renamed = (k', v) :: es := by
      rcases hrec : renameSections document rest notices with ⟨_ | es, more⟩
      · rw [hrec] at h
        cases h
      · rw [hrec] at h
        cases h
        exact ⟨es, ih hrec, rfl⟩
    rw [renameSections] at h
    cases hname : presentName? k with
    | none =>
      rw [hname] at h
      obtain ⟨es, hes, rfl⟩ := hrest (congrArg Prod.fst h)
      exact .cons ⟨rfl, .inl ⟨hname, rfl⟩⟩ hes
    | some new =>
      rw [hname] at h
      dsimp only at h
      split at h
      · cases h
      · obtain ⟨es, hes, rfl⟩ := hrest (congrArg Prod.fst h)
        exact .cons ⟨rfl, .inr ⟨new, hname, rfl⟩⟩ hes

/-- The sections that are found are those of the document, renamed and made lists. -/
theorem of_sections_eq_ok {raw found : Entries} (h : (sections raw).1 = .ok found) :
    ∃ renamed, List.Forall₂ IsRenamed raw renamed
      ∧ found = listSection (listSection (listSection renamed "triggers") "conditions") "actions" := by
  unfold sections at h
  rcases hrenamed : renameSections raw raw [] with ⟨_ | renamed, notices⟩
  · rw [hrenamed] at h
    cases h
  · rw [hrenamed] at h
    refine ⟨renamed, forall₂_of_renameSections hrenamed, ?_⟩
    replace h : completeSections renamed = .ok found := h
    unfold completeSections at h
    split at h
    · cases h
    · split at h
      · cases h
      · simp only [List.foldl_cons, List.foldl_nil] at h
        split at h <;> cases h
        rfl

/-- A key that is the name of a field of an automation. -/
def IsField (k : Value) : Prop := ∃ name ∈ Record.automationFields, k = .str name

theorem IsField.presentName?_eq_none {k : Value} (h : IsField k) : presentName? k = none := by
  obtain ⟨name, hname, rfl⟩ := h
  revert name
  decide

theorem isField_of_mem_set {es : Entries} {name : String} (hname : name ∈ Record.automationFields)
    {v : Value} (h : ∀ e ∈ es, IsField e.1) : ∀ e ∈ es.set name v, IsField e.1 := by
  intro e he
  unfold Entries.set at he
  split at he
  · obtain ⟨e', he', rfl⟩ := List.mem_map.1 he
    split <;> exact h e' he'
  · rcases List.mem_append.1 he with he | he
    · exact h e he
    · rw [List.mem_singleton.1 he]
      exact ⟨name, hname, rfl⟩

theorem isField_of_mem_field {name : String} (hname : name ∈ Record.automationFields)
    {v : Option Value} : ∀ e ∈ field name v, IsField e.1 := by
  intro e he
  cases v with
  | none => cases he
  | some v =>
    rw [List.mem_singleton.1 he]
    exact ⟨name, hname, rfl⟩

section Assembly

variable (g : Graph) (strategy : Strategy) (order : List String)
  (triggers conditions actions : List Value)

theorem isField_of_mem_assemble :
    ∀ e ∈ assemble g strategy order triggers conditions actions, IsField e.1 := by
  have happend {a b : Entries} (ha : ∀ e ∈ a, IsField e.1) (hb : ∀ e ∈ b, IsField e.1) :
      ∀ e ∈ a ++ b, IsField e.1 := fun e he => (List.mem_append.1 he).elim (ha e) (hb e)
  have hsingle (name : String) (hname : name ∈ Record.automationFields) (v : Value) :
      ∀ e ∈ [(Value.str name, v)], IsField e.1 := fun e he => by
    rw [List.mem_singleton.1 he]
    exact ⟨name, hname, rfl⟩
  unfold assemble
  refine happend (happend (happend (happend (happend (happend (happend (happend (happend (happend
    (happend ?_ ?_) ?_) ?_) ?_) ?_) ?_) ?_) ?_) ?_) ?_) ?_
  -- nine fields that may be missing, and behind them the variables and the sections
  iterate 9 exact isField_of_mem_field (by decide)
  · intro e he
    rcases List.mem_cons.1 he with rfl | he
    · exact ⟨"variables", by decide, rfl⟩
    · exact hsingle "triggers" (by decide) _ e he
  · split
    · exact fun e he => nomatch he
    · exact hsingle "conditions" (by decide) _
  · exact hsingle "actions" (by decide) _

/-- The sections of a written document: as they were written, and without conditions an empty list
of them. -/
theorem exists_sections_assemble {triggers : List Value} (h : triggers ≠ []) :
    ∃ document, sections (assemble g strategy order triggers conditions actions)
        = (.ok document, [])
      ∧ document.get? "conditions" = some (.ofItems conditions)
      ∧ (∀ name, name ≠ "conditions" → document.get? name
          = (assemble g strategy order triggers conditions actions).get? name)
      ∧ ∀ e ∈ document, IsField e.1 := by
  have htriggers := get?_assemble_triggers g strategy order triggers conditions actions
  have hconditions := get?_assemble_conditions g strategy order triggers conditions actions
  have hactions := get?_assemble_actions g strategy order triggers conditions actions
  have hfields := isField_of_mem_assemble g strategy order triggers conditions actions
  generalize assemble g strategy order triggers conditions actions = es at *
  -- an empty section is not written, and is found as an empty list
  have hsection : asSection (es.get "conditions") = .ofItems conditions := by
    rw [Entries.get, hconditions]
    cases conditions <;> rfl
  refine ⟨((es.set "triggers" (.ofItems triggers)).set "conditions" (.ofItems conditions)).set
    "actions" (.ofItems actions), ?_, ?_, ?_, ?_⟩
  · have hcomplete : ["triggers", "conditions", "actions"].foldl listSection es
        = ((es.set "triggers" (.ofItems triggers)).set "conditions" (.ofItems conditions)).set
          "actions" (.ofItems actions) := by
      simp only [List.foldl_cons, List.foldl_nil, listSection]
      rw [Entries.get, htriggers]
      simp only [Option.getD_some]
      rw [Entries.get, get?_set_of_ne (by decide), ← Entries.get, show asSection (.ofItems triggers)
        = .ofItems triggers from rfl, hsection]
      rw [Entries.get, get?_set_of_ne (by decide), get?_set_of_ne (by decide), hactions]
      rfl
    unfold sections
    rw [renameSections_of_forall [] fun e he => (hfields e he).presentName?_eq_none]
    show (completeSections es, []) = _
    unfold completeSections
    rw [has_of_get?_eq_some htriggers, has_of_get?_eq_some hactions]
    simp only [Bool.not_true, Bool.false_eq_true, if_false]
    rw [hcomplete, Entries.get, get?_set_of_ne (by decide), get?_set_of_ne (by decide),
      get?_set_self]
    cases triggers with
    | nil => exact absurd rfl h
    | cons t ts => rfl
  · rw [get?_set_of_ne (by decide), get?_set_self]
  -- the other fields are found as they were written
  · intro name hname
    by_cases hactions' : name = "actions"
    · rw [hactions', get?_set_self, hactions]
    rw [get?_set_of_ne (Ne.symm hactions'), get?_set_of_ne (Ne.symm hname)]
    by_cases htriggers' : name = "triggers"
    · rw [htriggers', get?_set_self, htriggers]
    · rw [get?_set_of_ne (Ne.symm htriggers')]
  · exact isField_of_mem_set (by decide) (isField_of_mem_set (by decide)
      (isField_of_mem_set (by decide) hfields))

end Assembly

/-! ## The record in the sections -/

/-- A text that is written unless it is empty. -/
theorem optionalField_ifNotEmpty {es : Entries} {name s : String}
    (h : es.get? name = ifNotEmpty s) :
    optionalField es name text = .value (if s = "" then none else some s) := by
  refine optionalField_of_get? .str ?_ (fun _ _ => rfl) fun _ _ => rfl
  rw [h, ifNotEmpty]
  split <;> rfl

/-- The settings of a written document are read back. -/
theorem runSettings_of_get? {es : Entries} {s : Settings} (hs : s.Valid)
    (hmode : es.get? "mode" = s.mode.map .str) (hmax : es.get? "max" = s.max.map .int)
    (hexceeded : es.get? "max_exceeded" = s.maxExceeded.map .str)
    (hinitial : es.get? "initial_state" = s.initialState.map .bool)
    (hhide : es.get? "hide_entity" = s.hideEntity.map .bool)
    (htrace : es.get? "trace" = s.trace.map .ofEntries) :
    Record.runSettings es = .value { s with automationId := none, vars := [] } := by
  -- each setting is written as what it is read from, and not at all when it is missing
  have h₁ : optionalField es "mode" (oneOf Record.modes) = .value s.mode :=
    optionalField_of_get? .str hmode (fun m hm => oneOf_of_mem (by decide +kernel) (hs.mode m hm))
      fun _ _ => rfl
  have h₂ : optionalField es "max" integer = .value s.max :=
    optionalField_of_get? .int hmax (fun _ _ => rfl) fun _ _ => rfl
  have h₃ : optionalField es "max_exceeded" (oneOf Record.severities) = .value s.maxExceeded :=
    optionalField_of_get? .str hexceeded
      (fun m hm => oneOf_of_mem (by decide +kernel) (hs.maxExceeded m hm))
      fun _ _ => rfl
  have h₄ : optionalField es "initial_state" boolean = .value s.initialState :=
    optionalField_of_get? .bool hinitial (fun _ _ => rfl) fun _ _ => rfl
  have h₅ : optionalField es "hide_entity" boolean = .value s.hideEntity :=
    optionalField_of_get? .bool hhide (fun _ _ => rfl) fun _ _ => rfl
  have h₆ : optionalField es "trace" entries = .value s.trace :=
    optionalField_of_get? .ofEntries htrace (fun t ht => entries_ofEntries (hs.trace t ht))
      fun _ _ => rfl
  unfold Record.runSettings
  rw [h₁, h₂, h₃, h₄, h₅, h₆]
  rfl

/-- The keys of fields have no half of a surrogate pair in them. -/
theorem closely_of_isField {α : Type} {document : Entries} (h : ∀ e ∈ document, IsField e.1)
    (r : Reading α) : closely document r = r :=
  closely_of_forall h (by decide +kernel) r

/-- Fields are no further entries. -/
theorem extras_of_isField {document : Entries} (h : ∀ e ∈ document, IsField e.1) :
    extras document Record.automationFields true = .value [] :=
  extras_of_forall h true

/-- The id of an automation that was written is read back. -/
theorem optionalField_automationId {es : Entries} {o : Option String}
    (h : es.get? "id" = o.bind ifNotEmpty) :
    optionalField es "id" Record.automationId = .value (o.bind ifNotEmpty) := by
  have hstr : ∀ v ∈ o.bind ifNotEmpty, ∃ s, v = .str s := by
    intro v hv
    obtain ⟨s, -, hs⟩ := Option.bind_eq_some_iff.1 hv
    unfold ifNotEmpty at hs
    split at hs
    · cases hs
    · exact ⟨s, (Option.some.inj hs).symm⟩
  refine optionalField_of_get? id (by rw [h, Option.map_id]; rfl) ?_ ?_
  · intro v hv
    obtain ⟨s, rfl⟩ := hstr v hv
    rfl
  · intro v hv
    obtain ⟨s, rfl⟩ := hstr v hv
    rfl

/-- What a reader finds in a written document. -/
structure Recovers (g : Graph) (strategy : Strategy) (order : List String) (document : Entries)
    (r : AutomationRecord) (m : Metadata) : Prop where
  record : AutomationRecord.ofEntries document = .ok r
  others : r.others = []
  id : r.id = g.settings.automationId.bind ifNotEmpty
  name : r.name = g.name
  description : r.description = g.description
  settings : r.settings = { g.settings with automationId := none, vars := vars g strategy order }
  metadata : Metadata.find document = (some m, [])
  nodeIds : m.nodeIds = order
  positions : mapping Record.position (.ofEntries (Metadata.positionEntries g.nodes))
    = .value m.positions
  graphId : m.graphId = if g.id = "" then none else some g.id
  graphVersion : ∃ version, integer g.version.toValue = .value version
    ∧ m.graphVersion = some version
  strategy : m.strategy = some strategy.name

/-- The record of a written document, with what is read as its triggers, conditions and actions. -/
def recordOf (g : Graph) (strategy : Strategy) (order : List String) (triggers : List Entries)
    (conditions : List Value) (actions : List Entries) : AutomationRecord where
  id := g.settings.automationId.bind ifNotEmpty
  name := g.name
  description := g.description
  settings := { g.settings with automationId := none, vars := vars g strategy order }
  triggers := triggers
  conditions := conditions
  actions := actions
  others := []

section Recovering

variable {g : Graph} {strategy : Strategy} {order : List String}
  {triggers conditions actions : List Value} {document : Entries}

/-- In a document with the variables of a graph its metadata is found. -/
theorem exists_find_of_get? (hg : g.Headed)
    (hvars : document.get? "variables" = some (.ofEntries (vars g strategy order))) :
    ∃ version positions, integer g.version.toValue = .value version
      ∧ mapping Record.position (.ofEntries (Metadata.positionEntries g.nodes)) = .value positions
      ∧ Metadata.find document = (some ⟨Metadata.currentVersion, order, positions,
        if g.id = "" then none else some g.id, some version, some strategy.name⟩, []) := by
  obtain ⟨version, positions, hversion, hpositions, hm⟩ :=
    Metadata.exists_ofEntries_encode hg strategy order
  have hblock : (vars g strategy order).get? Metadata.key
      = some (.ofEntries (Metadata.encode g strategy.name order)) := get?_set_self ..
  refine ⟨version, positions, hversion, hpositions, ?_⟩
  unfold Metadata.find
  have hexpose (es : Entries) : (Value.ofEntries es).expose = .map {} es := rfl
  rw [Entries.get, hvars, Option.getD_some, hexpose]
  dsimp only
  rw [hblock]
  dsimp only
  rw [hexpose]
  dsimp only
  rw [hm]

/-- What the record of a written document says of the automation as a whole does not hang on what is
read as the triggers, conditions and actions. -/
theorem automation_of_get? (hs : g.settings.Valid) (hfields : ∀ e ∈ document, IsField e.1)
    (hother : ∀ name, name ≠ "conditions" → document.get? name
      = (assemble g strategy order triggers conditions actions).get? name) :
    Record.automation document = recordOf g strategy order
      <$> Reader.field document "triggers" (list entries)
      <*> fieldOr document "conditions" [] (list any)
      <*> Reader.field document "actions" (list entries) := by
  obtain ⟨hid, halias, hdescription⟩ :=
    get?_assemble_names g strategy order triggers conditions actions
  obtain ⟨hmode, hmax, hexceeded, hinitial, hhide, htrace⟩ :=
    get?_assemble_settings g strategy order triggers conditions actions
  have hvars : document.get? "variables" = some (.ofEntries (vars g strategy order)) := by
    rw [hother _ (by decide), get?_assemble_variables]
  rw [← hother _ (by decide)] at hid halias hdescription hmode hmax hexceeded hinitial hhide htrace
  have h₁ := optionalField_automationId hid
  have h₂ := optionalField_ifNotEmpty halias
  have h₃ := optionalField_ifNotEmpty hdescription
  have h₄ := runSettings_of_get? hs hmode hmax hexceeded hinitial hhide htrace
  have h₅ : optionalField document "variables" entries = .value (some (vars g strategy order)) :=
    optionalField_of_get? .ofEntries hvars
      (fun _ h => Option.some.inj h ▸ entries_ofEntries (hs.vars.set ..)) fun _ _ => rfl
  have hname (s : String) : (if s = "" then none else some s).getD "" = s := by
    split
    · exact Eq.symm ‹_›
    · rfl
  unfold Record.automation
  rw [closely_of_isField hfields, h₁, h₂, h₃, h₄, h₅, extras_of_isField hfields]
  simp only [Reading.map_value, Reading.seq_value, hname, Option.getD_some]
  -- what is refused is refused for a section, since the other fields are read
  cases Reader.field document "triggers" (list entries)
    <;> cases fieldOr document "conditions" [] (list any)
    <;> cases Reader.field document "actions" (list entries)
    <;> first | rfl | exact congrArg Reading.refused (List.append_nil _)

end Recovering

/-- The record and the metadata of a written document are those that were written. -/
theorem exists_recovers {g : Graph} (hg : g.Headed) (strategy : Strategy) (order : List String)
    {triggers : List Entries} (htriggers : ∀ es ∈ triggers, es.Keyed) (hne : triggers ≠ [])
    (conditions : List Value) {actions : List Entries} (hactions : ∀ es ∈ actions, es.Keyed) :
    ∃ document r m, sections (assemble g strategy order (triggers.map .ofEntries) conditions
        (actions.map .ofEntries)) = (.ok document, [])
      ∧ Recovers g strategy order document r m
      ∧ r.triggers = triggers ∧ r.conditions = conditions ∧ r.actions = actions := by
  obtain ⟨document, hsections, hconditions, hother, hfields⟩ :=
    exists_sections_assemble g strategy order conditions (actions.map .ofEntries)
      (List.map_eq_nil_iff.not.2 hne)
  obtain ⟨version, positions, hversion, hpositions, hfind⟩ := exists_find_of_get? hg
    ((hother _ (by decide)).trans (get?_assemble_variables ..))
  have h₁ : Reader.field document "triggers" (list entries) = .value triggers :=
    field_of_get? ((hother _ (by decide)).trans (get?_assemble_triggers ..))
      (list_entries_ofItems htriggers)
  have h₂ : fieldOr document "conditions" [] (list any) = .value conditions :=
    fieldOr_of_get? hconditions ((list_ofItems (f := id) fun _ _ => rfl).trans (by simp))
  have h₃ : Reader.field document "actions" (list entries) = .value actions :=
    field_of_get? ((hother _ (by decide)).trans (get?_assemble_actions ..))
      (list_entries_ofItems hactions)
  have hrecord : AutomationRecord.ofEntries document
      = .ok (recordOf g strategy order triggers conditions actions) := by
    unfold AutomationRecord.ofEntries
    rw [automation_of_get? hg.settings hfields hother, h₁, h₂, h₃]
    rfl
  exact ⟨document, _, _, hsections, ⟨hrecord, rfl, rfl, rfl, rfl, rfl, hfind, rfl, hpositions, rfl,
    ⟨version, hversion, rfl⟩, rfl⟩, rfl, rfl, rfl⟩

end Document

end Automation
