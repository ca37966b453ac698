import Automation.Proofs.Document.Tolerance
import Automation.Proofs.Program.Regular

/-!
# Documents that an editor can keep

The graph of a regular document can be read back from its editor's shape
(`Document.editable_of_parse`), with or without metadata, and whichever way the document is read.
-/

namespace Automation

open Entries Reads

namespace Reader

/-- A mapping that is read out of a regular value is the mapping there. -/
theorem regular_of_entries {v : Value} {es : Entries} (h : v.Regular)
    (hread : entries v = .value es) : (Value.ofEntries es).Regular := by
  obtain ⟨o, source, hv⟩ : ∃ o source, v.expose = .map o source := by
    unfold entries at hread
    split at hread
    · exact ⟨_, _, ‹_›⟩
    · cases hread
  -- the keys of the mapping are texts, so reading changes none of them
  have hsame : entries v = entries (.ofEntries source) := by
    unfold entries
    rw [hv]
    rfl
  rw [hsame, entries_ofEntries (h.of_expose_eq_map hv).keyed] at hread
  cases hread
  intro inner hin
  cases hin with
  | here hes =>
    cases hes
    exact h.of_expose_eq_map hv
  | entry hes he hin =>
    cases hes
    exact h.entry hv he _ hin
  | item hes =>
    cases hes

/-- What is read out of a mapping from texts. -/
theorem of_mapping_eq_value {α : Type} {read : Reader α} {v : Value} {as : List (String × α)}
    (h : mapping read v = .value as) : ∀ a ∈ as, ∃ w, read w = .value a.2 := by
  unfold mapping at h
  split at h
  · rename_i es _
    obtain ⟨pairs, hpairs, rfl⟩ := Reading.map_eq_value.1 h
    have hread : ∀ a ∈ pairs, ∃ w, read w = .value a.2 := by
      intro a ha
      obtain ⟨e, -, he⟩ := List.mem_map.1 (Reading.mem_of_collect_eq_value hpairs ha)
      obtain ⟨f, x, hf, hx, rfl⟩ := Reading.seq_eq_value.1 he
      obtain ⟨k, -, rfl⟩ := Reading.map_eq_value.1 hf
      exact ⟨e.2, Reading.under_eq_value.1 hx⟩
    -- a later pair takes the place of an earlier one, and no other pairs come in
    have hfold : ∀ (pairs acc : List (String × α)), (∀ a ∈ acc, ∃ w, read w = .value a.2) →
        (∀ a ∈ pairs, ∃ w, read w = .value a.2) →
        ∀ a ∈ pairs.foldl (fun acc e => acc.filter (·.1 != e.1) ++ [e]) acc,
          ∃ w, read w = .value a.2 := by
      intro pairs
      induction pairs with
      | nil => exact fun _ hacc _ => hacc
      | cons pair pairs ih =>
        intro acc hacc hpairs
        obtain ⟨hpair, hpairs⟩ := List.forall_mem_cons.1 hpairs
        exact ih _ (List.forall_mem_append.2 ⟨fun a ha => hacc a (List.mem_filter.1 ha).1,
          List.forall_mem_singleton.2 hpair⟩) hpairs
    exact hfold pairs [] (List.forall_mem_nil _) hread
  · cases h

end Reader

/-- The positions in a block of metadata are points of the plane. -/
theorem Metadata.exists_floats_of_position? {m : Metadata} {es : Entries}
    (h : Metadata.ofEntries es = .ok m) {id : String} {p : Position}
    (hp : m.position? id = some p) :
    ∃ x y, p = { x := .float x, y := .float y } := by
  -- whatever version the block is of, its fields are read in the same way
  have hread : read es = .value m := by
    unfold Metadata.ofEntries at h
    dsimp only at h
    split at h
    · cases h
    · split at h
      · cases h
      · split at h
        · split at h
          · cases h
            assumption
          · cases h
        · cases h
          assumption
  obtain ⟨_, strategy, h₁, -, rfl⟩ := Reading.seq_eq_value.1 hread
  obtain ⟨_, graphVersion, h₂, -, rfl⟩ := Reading.seq_eq_value.1 h₁
  obtain ⟨_, graphId, h₃, -, rfl⟩ := Reading.seq_eq_value.1 h₂
  obtain ⟨_, positions, h₄, hpositions, rfl⟩ := Reading.seq_eq_value.1 h₃
  obtain ⟨_, nodeIds, h₅, -, rfl⟩ := Reading.seq_eq_value.1 h₄
  obtain ⟨version, -, rfl⟩ := Reading.map_eq_value.1 h₅
  obtain ⟨a, ha, rfl⟩ := Option.map_eq_some_iff.1 hp
  have hmem : a ∈ positions := List.mem_of_find?_eq_some ha
  rcases Reader.of_fieldOr_eq_value hpositions with rfl | ⟨v, -, hv⟩
  · cases hmem
  · obtain ⟨w, hw⟩ := Reader.of_mapping_eq_value hv a hmem
    exact Record.exists_floats_of_position hw

theorem Metadata.exists_ofEntries_of_find {document : Entries} {m : Metadata}
    (h : (find document).1 = some m) : ∃ es, Metadata.ofEntries es = .ok m := by
  unfold find at h
  split at h
  · split at h
    · cases h
    · split at h
      · split at h
        · rename_i hm
          cases h
          exact ⟨_, hm⟩
        · cases h
      · cases h
  · cases h

namespace Document

variable {limits : Limits} {freshId : String} {document : Value} {reading : Nat}
  {raw found : Entries} {r : AutomationRecord} {g g' : Graph}

/-! ## Sections -/

/-- A document in which one section was made a list. -/
theorem forall_listSection {P : Value → Prop}
    (hsection : ∀ es : Entries, (∀ e ∈ es, P e.2) → ∀ name, P (asSection (es.get name)))
    {es : Entries} (hes : ∀ e ∈ es, P e.2) (name : String) : ∀ e ∈ listSection es name, P e.2 := by
  intro e he
  unfold Document.listSection Entries.set at he
  split at he
  · obtain ⟨e', he', rfl⟩ := List.mem_map.1 he
    split
    · exact hsection es hes name
    · exact hes e' he'
  · rcases List.mem_append.1 he with he | he
    · exact hes e he
    · rw [List.mem_singleton.1 he]
      exact hsection es hes name

/-- What holds of the values of a document, and of lists of them, holds of its sections. -/
theorem forall_of_sections {P : Value → Prop} (hempty : P (.ofItems []))
    (hsingle : ∀ v, P v → P (.ofItems [v])) (hraw : ∀ e ∈ raw, P e.2)
    (h : (sections raw).1 = .ok found) : ∀ e ∈ found, P e.2 := by
  have hsection (es : Entries) (hes : ∀ e ∈ es, P e.2) (name : String) :
      P (asSection (es.get name)) := by
    unfold Entries.get
    cases hget : es.get? name with
    | none => exact hempty
    | some v =>
      have hv := hes _ (mem_of_get?_eq_some hget)
      rw [Option.getD_some]
      cases v with
      | null => exact hempty
      | list o items => exact hv
      | _ => exact hsingle _ hv
  obtain ⟨renamed, hrenamed, rfl⟩ := of_sections_eq_ok h
  -- an entry keeps its value, under its old name or a new one
  have hvalues : ∀ e ∈ renamed, P e.2 := by
    intro e he
    obtain ⟨e', he', hsame⟩ := exists_match_of_mem hrenamed.flip he
    rw [hsame.value]
    exact hraw e' he'
  exact forall_listSection hsection
    (forall_listSection hsection (forall_listSection hsection hvalues _) _) _

/-- The values of a mapping are regular. -/
def Sound (es : Entries) : Prop := ∀ e ∈ es, e.2.Regular

theorem Sound.get {es : Entries} (h : Sound es) {name : String} {v : Value}
    (hget : es.get? name = some v) : v.Regular :=
  h _ (mem_of_get?_eq_some hget)

theorem regular_ofItems {items : List Value} (h : ∀ v ∈ items, v.Regular) :
    (Value.ofItems items).Regular := by
  intro es hin
  cases hin with
  | here hv => cases hv
  | entry hv => cases hv
  | item hv hw hin =>
    cases hv
    exact h _ hw es hin

/-- The sections of a regular document hold regular values. -/
theorem sound_of_sections (hraw : Sound raw) (h : (sections raw).1 = .ok found) : Sound found :=
  forall_of_sections (regular_ofItems nofun)
    (fun _ hv => regular_ofItems (List.forall_mem_singleton.2 hv)) hraw h

/-- A record with settings and triggers as their schema has them, and with the conditions and
actions that stand in the sections. -/
structure FoundIn (found : Entries) (r : AutomationRecord) : Prop where
  settings : r.settings.Valid
  triggers : ∀ es ∈ r.triggers, Entries.Keyed es
  conditions : ∀ v ∈ r.conditions, ∃ w items, found.get? "conditions" = some w
    ∧ Reader.sequence? w = some items ∧ v ∈ items
  actions : ∀ es ∈ r.actions, ∃ w items, found.get? "actions" = some w
    ∧ Reader.sequence? w = some items ∧ ∃ item ∈ items, Reader.entries item = .value es
  listed : ∀ w items, found.get? "actions" = some w → Reader.sequence? w = some items →
    ∀ item ∈ items, ∃ es, Reader.entries item = .value es

open Reader in
/-- The record of sections was found in them. -/
theorem foundIn_of_ofEntries (h : AutomationRecord.ofEntries found = .ok r) : FoundIn found r := by
  have hr := AutomationRecord.ofEntries_eq_ok_iff.1 h
  refine ⟨?_, fun es hes => ?_, fun v hv => ?_, fun es hes => ?_,
    fun w items hget hitems item hitem => ?_⟩
  · obtain ⟨run, vars, hrun, hvars, hsettings⟩ := hr.settings
    have hrun := Record.valid_of_runSettings hrun
    rw [hsettings]
    refine ⟨hrun.mode, hrun.maxExceeded, hrun.trace, ?_⟩
    cases vars with
    | none => exact keyed_nil
    | some vars =>
      obtain ⟨v, -, hv⟩ := of_optionalField_eq_value hvars vars rfl
      exact keyed_of_entries hv
  · obtain ⟨v, -, hv⟩ := of_field_eq_value hr.triggers
    obtain ⟨items, -, hall⟩ := of_list_eq_value hv
    obtain ⟨item, -, hitem⟩ := hall es hes
    exact keyed_of_entries hitem
  · rcases of_fieldOr_eq_value hr.conditions with hnil | ⟨w, hget, hw⟩
    · rw [hnil] at hv
      cases hv
    · obtain ⟨items, hitems, hall⟩ := of_list_eq_value hw
      obtain ⟨item, hitem, hread⟩ := hall v hv
      cases hread
      exact ⟨w, items, hget, hitems, hitem⟩
  · obtain ⟨w, hget, hw⟩ := of_field_eq_value hr.actions
    obtain ⟨items, hitems, hall⟩ := of_list_eq_value hw
    exact ⟨w, items, hget, hitems, hall es hes⟩
  · obtain ⟨w', hget', hw⟩ := of_field_eq_value hr.actions
    rw [hget] at hget'
    cases hget'
    exact exists_of_list_eq_value hw hitems hitem

/-- What is kept of a regular document. -/
structure KeepsRegular (r : AutomationRecord) : Prop where
  settings : r.settings.Valid
  triggers : ∀ es ∈ r.triggers, Entries.Keyed es
  conditions : ∀ v ∈ r.conditions, v.Regular
  actions : ∀ es ∈ r.actions, (Value.ofEntries es).Regular

theorem keepsRegular_of_ofEntries (hfound : Sound found)
    (h : AutomationRecord.ofEntries found = .ok r) :
    KeepsRegular r := by
  obtain ⟨hsettings, htriggers, hconditions, hactions, -⟩ := foundIn_of_ofEntries h
  refine ⟨hsettings, htriggers, fun v hv => ?_, fun es hes => ?_⟩
  · obtain ⟨w, items, hget, hitems, hmem⟩ := hconditions v hv
    exact (hfound.get hget).item hitems hmem
  · obtain ⟨w, items, hget, hitems, item, hitem, hread⟩ := hactions es hes
    exact Reader.regular_of_entries ((hfound.get hget).item hitems hitem) hread

/-! ## Graphs -/

/-- A graph whose nodes an editor can keep once they are placed, and whose edges it can keep. -/
def Unplaced (g : Graph) : Prop := (∀ n ∈ g.nodes, n.Regular) ∧ ∀ e ∈ g.edges, e.Editable

theorem Unplaced.restoreIds (h : Unplaced g) (m : Metadata) : Unplaced (restoreIds g m).1 := by
  unfold Document.restoreIds
  split
  · exact h
  · split
    · exact h
    · dsimp only
      split
      · refine ⟨List.forall_mem_map.2 fun n hn => ?_, List.forall_mem_map.2 fun e he => ?_⟩
        · have hn := h.1 n.1 (List.of_mem_zip hn).1
          exact ⟨hn.data, hn.position, hn.label, hn.flags⟩
        · exact ⟨Record.between_id_ne _ _ _ _, (h.2 e he).label⟩
      · exact h

variable {s s' : Intake} {triggers : List Entries}

theorem unplaced_of_readStructure (hr : KeepsRegular r) (htriggers : ∀ es ∈ triggers, es.Keyed)
    {m : Option Metadata} (hs : s.created = [])
    (h : proceed (readStructure limits m triggers r) s = (.ok g, s')) : Unplaced g := by
  unfold readStructure at h
  obtain ⟨p, t, hp, h⟩ := proceed_bind_eq_ok h
  have hread := Program.sectionsRead_of_read hs hp
  have hgraph : Unplaced p.graph :=
    ⟨hread.regular htriggers hr.conditions hr.actions, fun e he => (p.drawn_edges e he).editable⟩
  cases m with
  | none =>
    cases h
    exact hgraph
  | some m =>
    dsimp only at h
    obtain ⟨_, t', -, h⟩ := proceed_bind_eq_ok h
    cases h
    exact hgraph.restoreIds m

theorem unplaced_of_decodeLoop (hr : KeepsRegular r) (htriggers : ∀ es ∈ triggers, es.Keyed)
    {m : Metadata} (h : decodeLoop limits m triggers r = .ok g) : Unplaced g := by
  obtain ⟨-, hdecoded, -⟩ := decodeLoop_eq_ok.1 h
  exact Dispatch.regular_of_decode htriggers hr.actions hdecoded

theorem unplaced_of_readGraph (hr : KeepsRegular r) (htriggers : ∀ es ∈ triggers, es.Keyed)
    {m : Option Metadata} (hs : s.created = [])
    (h : proceed (readGraph limits m triggers r) s = (.ok g, s')) : Unplaced g := by
  unfold readGraph at h
  -- whichever way a graph is made, its nodes get no positions before it is settled
  cases m with
  | none => exact unplaced_of_readStructure hr htriggers hs h
  | some block =>
    dsimp only at h
    split at h
    · split at h
      · rename_i loop hloop
        cases h
        obtain ⟨hnodes, hedges⟩ := unplaced_of_decodeLoop hr htriggers hloop
        exact ⟨hnodes, hedges⟩
      · obtain ⟨_, t, hnote, h⟩ := proceed_bind_eq_ok h
        refine unplaced_of_readStructure hr htriggers ?_ h
        rw [of_proceed_note_eq_ok hnote]
        exact hs
      · cases h
    · obtain ⟨g₁, t, hstructure, h⟩ := proceed_bind_eq_ok h
      cases h
      obtain ⟨hnodes, hedges⟩ := unplaced_of_readStructure hr htriggers hs hstructure
      exact ⟨hnodes, hedges⟩

/-- A graph that is settled has whole numbers for a version, and the settings of its document. -/
theorem exists_settings_of_settle {m : Option Metadata}
    (h : proceed (settle limits freshId m r g) s = (.ok g', s')) :
    ∃ version automationId, g'.version = .int version
      ∧ g'.settings
        = { r.settings with automationId, vars := r.settings.vars.erase Metadata.key } := by
  obtain ⟨automationId, notices, -, rfl, -⟩ := eq_of_settle_eq_ok h
  exact ⟨_, automationId, rfl, rfl⟩

/-- The graph of a regular document can be kept by an editor. -/
theorem editable_of_parse (hload : load document reading = .ok raw)
    (hraw : (Value.ofEntries raw).Regular)
    (h : (parse limits freshId document reading).1 = .ok g) : g.Editable := by
  obtain ⟨found, notices, r, g₀, s, hsections, hr, -, hgraph, hsettle⟩ := exists_settle_of_parse hload h
  have hfound : Sound found :=
    sound_of_sections (fun e he => hraw.entry rfl he) (congrArg Prod.fst hsections)
  have hkeeps := keepsRegular_of_ofEntries hfound hr
  have htriggers : ∀ es ∈ (modernTriggers r.triggers).1, Entries.Keyed es := by
    intro es hes
    obtain ⟨modern, hmodern, rfl⟩ := List.mem_map.1 hes
    obtain ⟨t, ht, rfl⟩ := List.mem_map.1 hmodern
    exact Entry.keyed_modernKey (hkeeps.triggers t.1 (List.fst_mem_of_mem_zipIdx ht))
  obtain ⟨hnodes, hedges⟩ := unplaced_of_readGraph hkeeps htriggers rfl hgraph
  obtain ⟨hplaced, hsame, hwf⟩ := of_settle_eq_ok hsettle
  obtain ⟨version, automationId, hversion, hsettings⟩ := exists_settings_of_settle hsettle
  refine ⟨⟨version, hversion⟩, fun n hn => ?_, fun e he => hedges e (hsame ▸ he), ?_⟩
  · have hkind := hwf.isKnown hn
    rw [hplaced] at hn
    obtain ⟨n₀, hn₀, rfl⟩ := List.mem_map.1 hn
    have hn := hnodes n₀ hn₀
    -- only the metadata places nodes, and what it has are numbers
    cases hfind : (Metadata.find found).1 with
    | none =>
      rw [hfind] at hkind
      exact ⟨hkind, hn.data, by simp [hn.position], hn.label, hn.flags⟩
    | some m =>
      rw [hfind] at hkind
      obtain ⟨es, hm⟩ := Metadata.exists_ofEntries_of_find hfind
      refine ⟨hkind, m.place_data n₀ ▸ hn.data, fun p hp => ?_, m.place_label n₀ ▸ hn.label,
        m.place_flags n₀ ▸ hn.flags⟩
      rw [Option.elim_some, Metadata.place] at hp
      split at hp
      · rename_i q hq
        cases hp
        exact Metadata.exists_floats_of_position? hm hq
      · rw [hn.position] at hp
        cases hp
  · rw [hsettings]
    exact ⟨hkeeps.settings.mode, hkeeps.settings.maxExceeded, hkeeps.settings.trace,
      hkeeps.settings.vars.erase _⟩

end Document

end Automation
