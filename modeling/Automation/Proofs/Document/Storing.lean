import Automation.Proofs.Document.Text
import Automation.Proofs.Entry
import Automation.Proofs.Record.Fields

/-!
# Documents with metadata stored in them

A value stored where metadata is kept is one more variable of the automation
(`Document.storeMetadata`). Nothing else in the document changes: the sections are found as before
(`Document.exists_sections_set`), and so are the fields of the record but for the variables
(`AutomationRecord.ofEntries_of_erase_eq`).
-/

namespace Automation

open Entries

/-! ## Erased variables -/

namespace Document

/-- The variables are no section, under an old name or a new one. -/
theorem of_presentName?_eq_some {k : Value} {new : String} (h : presentName? k = some new) :
    k.isText "variables" = false ∧ new ≠ "variables" := by
  unfold presentName? at h
  split at h <;> cases h <;> exact ⟨rfl, by decide⟩

/-- Sections are renamed alike with and without the variables. -/
theorem renameSections_erase (document es : Entries) (notices : List Notice) :
    renameSections (document.erase "variables") (es.erase "variables") notices
      = ((renameSections document es notices).1.map (erase · "variables"),
        (renameSections document es notices).2) := by
  induction es generalizing notices with
  | nil => rfl
  | cons e rest ih =>
    obtain ⟨k, v⟩ := e
    -- an entry that is kept, in front of what is renamed behind it
    have hmap (o : Outcome Entries) {k : Value} (hk : k.isText "variables" = false) :
        (o.map (erase · "variables")).map (fun es : Entries => (k, v) :: es)
          = (o.map fun es : Entries => (k, v) :: es).map (erase · "variables") := by
      cases o with
      | error failure => rfl
      | ok es => exact congrArg Except.ok (erase_cons_of_not_isText hk v).symm
    cases hk : k.isText "variables" with
    | true =>
      have hsection : presentName? k = none := by
        rw [Value.isText_iff.1 hk]
        rfl
      rw [erase_cons_of_isText hk, ih, renameSections, hsection]
      refine Prod.ext ?_ rfl
      dsimp only
      cases (renameSections document rest notices).1 with
      | error failure => rfl
      | ok es => exact congrArg Except.ok (erase_cons_of_isText hk v).symm
    | false =>
      rw [erase_cons_of_not_isText hk, renameSections, renameSections]
      cases hsection : presentName? k with
      | none =>
        dsimp only
        rw [ih, hmap _ hk]
      | some new =>
        have hnew := (of_presentName?_eq_some hsection).2
        have hhas : (document.erase "variables").has new = document.has new := by
          rw [has_eq_isSome_get?, has_eq_isSome_get?, get?_erase_of_ne (Ne.symm hnew)]
        dsimp only
        rw [hhas]
        split
        · rfl
        · rw [ih, hmap _ (by simpa [Value.isText] using hnew)]

/-- Renaming the sections leaves the variables alone. -/
theorem get?_variables_of_isRenamed {es renamed : Entries}
    (h : List.Forall₂ IsRenamed es renamed) : renamed.get? "variables" = es.get? "variables" := by
  induction h with
  | nil => rfl
  | @cons e e' es renamed he _ ih =>
    rw [get?_cons, get?_cons, he.value, ih]
    rcases he.key with ⟨-, hkey⟩ | ⟨new, hname, hkey⟩
    · rw [hkey]
    · obtain ⟨hold, hnew⟩ := of_presentName?_eq_some hname
      have hother : e'.1.isText "variables" = false := by
        rw [hkey]
        simpa [Value.isText] using hnew
      rw [hold, hother]

/-- Sections are completed alike with and without the variables. -/
theorem completeSections_erase (document : Entries) :
    completeSections (document.erase "variables")
      = (completeSections document).map (erase · "variables") := by
  have hlist (es : Entries) {name : String} (hname : name ≠ "variables") :
      listSection (es.erase "variables") name = (listSection es name).erase "variables" := by
    unfold listSection
    rw [Entries.get, get?_erase_of_ne (Ne.symm hname), ← Entries.get, erase_set_of_ne hname]
  have hhas {name : String} (hname : name ≠ "variables") :
      (document.erase "variables").has name = document.has name := by
    rw [has_eq_isSome_get?, has_eq_isSome_get?, get?_erase_of_ne (Ne.symm hname)]
  unfold completeSections
  rw [hhas (by decide), hhas (by decide)]
  split
  · rfl
  · split
    · rfl
    · simp only [List.foldl_cons, List.foldl_nil]
      rw [hlist _ (by decide), hlist _ (by decide), hlist _ (by decide)]
      generalize listSection (listSection (listSection document "triggers") "conditions") "actions"
        = complete
      -- whether there are triggers does not depend on the variables
      have htriggers : (complete.erase "variables").get "triggers" = complete.get "triggers" := by
        rw [Entries.get, get?_erase_of_ne (by decide), ← Entries.get]
      rw [htriggers]
      split <;> rfl

/-- The variables of a document are found as they are. -/
theorem get?_variables_of_sections {raw found : Entries} {notices : List Notice}
    (h : sections raw = (.ok found, notices)) : found.get? "variables" = raw.get? "variables" := by
  obtain ⟨renamed, hrenamed, rfl⟩ := of_sections_eq_ok (congrArg Prod.fst h)
  have hlist (es : Entries) {name : String} (hname : name ≠ "variables") :
      (listSection es name).get? "variables" = es.get? "variables" := get?_set_of_ne hname _
  rw [hlist _ (by decide), hlist _ (by decide), hlist _ (by decide),
    get?_variables_of_isRenamed hrenamed]

theorem sections_erase (raw : Entries) : sections (raw.erase "variables")
    = ((sections raw).1.map (erase · "variables"), (sections raw).2) := by
  unfold sections
  rw [renameSections_erase]
  rcases renameSections raw raw [] with ⟨_ | renamed, notices⟩
  · rfl
  · exact Prod.ext (completeSections_erase renamed) rfl

/-- The sections of a document are found as before when its variables are set. -/
theorem exists_sections_set {raw found : Entries} {notices : List Notice}
    (h : sections raw = (.ok found, notices)) (v : Value) :
    ∃ found', sections (raw.set "variables" v) = (.ok found', notices)
      ∧ found'.erase "variables" = found.erase "variables"
      ∧ found'.get? "variables" = some v := by
  have herase := sections_erase (raw.set "variables" v)
  rw [erase_set_self, sections_erase, h] at herase
  obtain ⟨hfirst, hnotices⟩ := Prod.mk.inj herase
  rcases hset : sections (raw.set "variables" v) with ⟨_ | found', notices'⟩
  · rw [hset] at hfirst
    cases hfirst
  · rw [hset] at hfirst hnotices
    refine ⟨found', by rw [show notices' = notices from hnotices.symm],
      (Except.ok.inj hfirst).symm, ?_⟩
    rw [get?_variables_of_sections hset, get?_set_self]

end Document

/-! ## The record -/

namespace Reader

variable {α : Type} {es es' : Entries} {name : String}

theorem fieldOr_congr (h : es'.get? name = es.get? name) (default : α) (read : Reader α) :
    fieldOr es' name default read = fieldOr es name default read := by
  unfold fieldOr
  rw [h]

theorem field_congr (h : es'.get? name = es.get? name) (read : Reader α) :
    Reader.field es' name read = Reader.field es name read := by
  unfold Reader.field
  rw [h]

/-- A field of a record is no further entry of it. -/
theorem extras_erase (name : String) {fields : List String} (h : name ∈ fields) (es : Entries)
    (allowed : Bool) : extras (es.erase name) fields allowed = extras es fields allowed := by
  unfold extras Entries.erase
  rw [List.filterMap_filter]
  congr 1
  refine List.filterMap_congr fun e _ => ?_
  cases hkey : e.1.isText name with
  | false => rfl
  | true =>
    rw [Value.isText_iff.1 hkey]
    simp [h]

theorem closely_erase (name : String) (h : Text.hasHalf name = false) (es : Entries)
    (r : Reading α) : closely (es.erase name) r = closely es r := by
  have hany : ((es.erase name).any fun e => e.1.text?.any Text.hasHalf)
      = es.any fun e => e.1.text?.any Text.hasHalf := by
    unfold Entries.erase
    rw [List.any_filter]
    congr 1
    funext e
    cases hkey : e.1.isText name with
    | false => rfl
    | true =>
      rw [Value.isText_iff.1 hkey, Value.text?, Option.any_some, h]
      rfl
  unfold closely
  rw [hany]

end Reader

/-- The record of a document is read as before when only the variables differ, as long as these can
be read. -/
theorem AutomationRecord.ofEntries_of_erase_eq {es es' vars : Entries} {r : AutomationRecord}
    (h : ofEntries es = .ok r) (herase : es'.erase "variables" = es.erase "variables")
    (hvars : Reader.optionalField es' "variables" Reader.entries = .value (some vars)) :
    ofEntries es' = .ok { r with settings := { r.settings with vars } } := by
  have hget {name : String} (hname : "variables" ≠ name) : es'.get? name = es.get? name := by
    rw [← get?_erase_of_ne hname, herase, get?_erase_of_ne hname]
  have hfield {α : Type} {name : String} (hname : "variables" ≠ name) (read : Reader α) :
      Reader.field es' name read = Reader.field es name read := Reader.field_congr (hget hname) read
  have hor {α : Type} {name : String} (hname : "variables" ≠ name) (default : α) (read : Reader α) :
      Reader.fieldOr es' name default read = Reader.fieldOr es name default read :=
    Reader.fieldOr_congr (hget hname) default read
  -- neither the other fields nor the search for unknown keys looks at the variables
  have hextras : Reader.extras es' Record.automationFields true
      = Reader.extras es Record.automationFields true := by
    rw [← Reader.extras_erase "variables" (by decide) es', herase,
      Reader.extras_erase "variables" (by decide)]
  have hrun : Record.runSettings es' = Record.runSettings es := by
    unfold Record.runSettings Reader.optionalField
    rw [hor (by decide), hor (by decide), hor (by decide), hor (by decide), hor (by decide),
      hor (by decide)]
  have hclosely (x : Reading Unit) : Reader.closely es' x = Reader.closely es x := by
    have hplain : Text.hasHalf "variables" = false := by decide +kernel
    rw [← Reader.closely_erase "variables" hplain es', herase,
      Reader.closely_erase "variables" hplain]
  have hr := ofEntries_eq_ok_iff.1 h
  obtain ⟨run, _, hrunSettings, -, hsettings⟩ := hr.settings
  refine ofEntries_eq_ok_iff.2
    { keys := (hclosely _).trans hr.keys
      id := (hor (by decide) _ _).trans hr.id
      name := ?_
      description := ?_
      settings := ⟨run, some vars, hrun.trans hrunSettings, hvars, by rw [hsettings]; rfl⟩
      triggers := (hfield (by decide) _).trans hr.triggers
      conditions := (hor (by decide) _ _).trans hr.conditions
      actions := (hfield (by decide) _).trans hr.actions
      others := hextras.trans hr.others }
  · obtain ⟨title, htitle, hname⟩ := hr.name
    exact ⟨title, (hor (by decide) _ _).trans htitle, hname⟩
  · obtain ⟨description, hdescription, hrdescription⟩ := hr.description
    exact ⟨description, (hor (by decide) _ _).trans hdescription, hrdescription⟩

/-- The variables of a document that is read are a mapping, or there are none. -/
theorem AutomationRecord.exists_vars {es : Entries} {r : AutomationRecord} (h : ofEntries es = .ok r) :
    ∃ vars, Reader.optionalField es "variables" Reader.entries = .value vars := by
  obtain ⟨_, vars, -, hvars, -⟩ := (ofEntries_eq_ok_iff.1 h).settings
  exact ⟨vars, hvars⟩

/-! ## Stored metadata -/

namespace Document

/-- The variables of a document, none when it has no mapping of them. -/
def varsOf (raw : Entries) : Entries := ((raw.get "variables").expose.entries?).getD []

/-- A document with a value stored where metadata is kept, among the variables of the automation. -/
def storeMetadata (m : Value) (raw : Entries) : Entries :=
  raw.set "variables" (.ofEntries ((varsOf raw).set Metadata.key m))

variable {raw found : Entries} {notices : List Notice} {r : AutomationRecord} {m : Value}

/-- The keys of the variables of a document that is read are texts, or stand for texts. -/
theorem exists_text_of_mem_varsOf (raw : Entries)
    (h : ∃ vars, Reader.optionalField raw "variables" Reader.entries = .value vars) :
    ∀ e ∈ varsOf raw, ∃ s, Reader.text e.1 = .value s := by
  obtain ⟨read, hread⟩ := h
  unfold varsOf
  cases hexpose : (raw.get "variables").expose with
  | map o source =>
    refine (Reader.exists_entries_iff hexpose).1 ?_
    unfold Reader.optionalField Reader.fieldOr at hread
    unfold Entries.get at hexpose ⊢
    -- without variables there are none to have keys
    cases hget : raw.get? "variables" with
    | none =>
      rw [hget] at hexpose
      cases hexpose
    | some v =>
      rw [hget] at hread hexpose
      dsimp only [Option.getD_some] at hread hexpose ⊢
      have hoptional := Reading.under_eq_value.1 hread
      unfold Reader.optional at hoptional
      split at hoptional
      · cases hexpose
      · obtain ⟨es, hes, -⟩ := Reading.map_eq_value.1 hoptional
        exact ⟨es, hes⟩
  | _ => exact fun e he => by cases he

/-- A document with metadata stored in it has the sections of the document, and its record but for
the variables. -/
theorem exists_sections_storeMetadata (hsections : sections raw = (.ok found, notices))
    (hrecord : AutomationRecord.ofEntries found = .ok r) (m : Value) :
    ∃ found' vars, sections (storeMetadata m raw) = (.ok found', notices)
      ∧ AutomationRecord.ofEntries found' = .ok { r with settings := { r.settings with vars } }
      ∧ Metadata.find found' = Metadata.find (storeMetadata m raw) := by
  have hfound : raw.get? "variables" = found.get? "variables" :=
    (get?_variables_of_sections hsections).symm
  -- the one new key is a text, so the variables can still be read
  have hkeys : ∀ e ∈ (varsOf raw).set Metadata.key m, ∃ s, Reader.text e.1 = .value s := by
    have hold := exists_text_of_mem_varsOf found (AutomationRecord.exists_vars hrecord)
    unfold varsOf Entries.get at hold ⊢
    rw [hfound]
    intro e he
    rcases key_mem_set he with ⟨e', he', hkey⟩ | hkey
    · rw [hkey]
      exact hold e' he'
    · rw [hkey]
      exact ⟨Metadata.key, rfl⟩
  obtain ⟨vars, hvars⟩ := (Reader.exists_entries_iff
    (v := Value.ofEntries ((varsOf raw).set Metadata.key m)) rfl).2 hkeys
  obtain ⟨found', hfound', herase, hget⟩ := exists_sections_set hsections
    (.ofEntries ((varsOf raw).set Metadata.key m))
  have hoptional : Reader.optionalField found' "variables" Reader.entries = .value (some vars) := by
    refine Reader.fieldOr_of_get? hget ?_
    show some <$> Reader.entries _ = _
    rw [hvars, Reading.map_value]
  refine ⟨found', vars, hfound', AutomationRecord.ofEntries_of_erase_eq hrecord herase hoptional, ?_⟩
  unfold Metadata.find storeMetadata
  rw [Entries.get, hget, Entries.get, get?_set_self]

theorem hasText_storeMetadata (hraw : raw.HasText) (hm : m.hasText = true) :
    (storeMetadata m raw).HasText := by
  refine hraw.set _ (Value.hasText_ofEntries.2 (HasText.set ?_ _ hm))
  have hexpose := Value.hasText_expose (hraw.get "variables")
  unfold varsOf
  cases h : (raw.get "variables").expose with
  | map o vars =>
    rw [h] at hexpose
    exact Value.hasText_map.1 hexpose
  | _ => exact hasText_nil

end Document

/-- A notice about metadata can be written when the document can. -/
theorem Metadata.check_find {document : Entries} (h : document.HasText) :
    Notice.check (find document).2 = .ok () := by
  unfold find
  split
  · rename_i o vars hvars
    have hvars : Entries.HasText vars := Value.hasText_of_expose_eq_map (h.get "variables") hvars
    split
    · rfl
    · rename_i block hblock
      split
      · rename_i o' es hes
        have hes : Entries.HasText es := Value.hasText_of_expose_eq_map (hvars.get? hblock) hes
        split
        · rfl
        · rename_i notice hnotice
          -- a notice about metadata cites its version at most, which stands in the document
          refine Notice.check_of_forall fun notice' hmem v hv => ?_
          rw [List.mem_singleton.1 hmem] at hv
          unfold ofEntries at hnotice
          dsimp only at hnotice
          split at hnotice
          · cases hnotice
            rw [List.mem_singleton.1 hv]
            exact hes.get _
          · split at hnotice
            · cases hnotice
              cases hv
            · split at hnotice
              · split at hnotice <;> cases hnotice
                cases hv
              · cases hnotice
      · rfl
  · rfl

end Automation
