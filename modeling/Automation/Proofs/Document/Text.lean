import Automation.Document.Writing
import Automation.Proofs.Document.Reading
import Automation.Proofs.Program.Text
import Automation.Proofs.Record.Text

/-!
# Documents that can be written

Reading and writing a document makes up no integers. So the graph of a document without metadata can
be written when the document can (`Document.hasText_of_parse`), and so can what is assembled for
such a graph (`Document.hasText_assemble`), whether its payloads are apart or not.
-/

namespace Automation

open Entries

/-- What a graph holds can be written. -/
structure Graph.HasText (g : Graph) : Prop where
  nodes : ∀ n ∈ g.nodes, n.HasText
  settings : g.settings.HasText
  version : g.version.toValue.hasText = true

namespace Document

/-! ## Reading -/

/-- Sections under new names can be written when the document can. -/
theorem hasText_of_isRenamed {es renamed : Entries} (h : List.Forall₂ IsRenamed es renamed)
    (hes : es.HasText) : renamed.HasText := by
  induction h with
  | nil => exact hasText_nil
  | @cons e e' es renamed he _ ih =>
    obtain ⟨⟨hk, hv⟩, hes⟩ := hasText_cons.1 hes
    refine hasText_cons.2 ⟨⟨?_, by rw [he.value]; exact hv⟩, ih hes⟩
    rcases he.key with ⟨-, hkey⟩ | ⟨new, -, hkey⟩
    · rw [hkey]
      exact hk
    · rw [hkey]
      rfl

theorem hasText_asSection {v : Value} (h : v.hasText = true) : (asSection v).hasText = true := by
  cases v with
  | null => rfl
  | list o items => exact h
  | _ => exact Value.hasText_ofItems.2 (by simpa using h)

/-- What is read as a list of entries can be written when the section can. -/
theorem hasText_listSection {document : Entries} (h : document.HasText) (name : String) :
    (listSection document name).HasText :=
  h.set name (hasText_asSection (h.get name))

/-- The sections of a document hold its integers. -/
theorem hasText_of_sections {raw found : Entries} (hraw : raw.HasText)
    (h : (sections raw).1 = .ok found) : found.HasText := by
  obtain ⟨renamed, hrenamed, rfl⟩ := of_sections_eq_ok h
  have hsections := hasText_of_isRenamed hrenamed hraw
  exact hasText_listSection (hasText_listSection (hasText_listSection hsections _) _) _

/-- Triggers with present names can be written when the triggers can. -/
theorem hasText_modernTriggers {triggers : List Entries} (h : ∀ es ∈ triggers, Entries.HasText es) :
    ∀ es ∈ (modernTriggers triggers).1, Entries.HasText es := by
  intro es hes
  obtain ⟨modern, hmodern, rfl⟩ := List.mem_map.1 hes
  obtain ⟨t, ht, rfl⟩ := List.mem_map.1 hmodern
  exact Entry.hasText_modernKey (h t.1 (List.fst_mem_of_mem_zipIdx ht))

variable {limits : Limits} {freshId : String} {document : Value} {reading : Nat}
  {r : AutomationRecord} {g : Graph}

theorem hasText_one : (Number.int 1).toValue.hasText = true := by decide +kernel

/-- The graph of a document without metadata holds the integers of the document. -/
theorem hasText_of_parse {raw : Entries} (hload : load document reading = .ok raw)
    (hraw : raw.HasText) (hrecord : outline document reading = .ok (r, none))
    (h : (parse limits freshId document reading).1 = .ok g) : g.HasText := by
  obtain ⟨p, automationId, hp, -, rfl, -⟩ := exists_program hrecord h
  obtain ⟨raw', hload', hrecord⟩ := Outcome.bind_eq_ok.1 hrecord
  rw [hload] at hload'
  cases hload'
  obtain ⟨found, hsections, hrecord⟩ := Outcome.bind_eq_ok.1 hrecord
  obtain ⟨record, hrecorded, hrecord⟩ := Outcome.bind_eq_ok.1 hrecord
  obtain ⟨rfl, -⟩ := Prod.mk.inj (Except.ok.inj hrecord)
  have htext := AutomationRecord.HasText.ofEntries (hasText_of_sections hraw hsections) hrecorded
  exact ⟨hp.hasText (hasText_modernTriggers htext.triggers) htext.conditions htext.actions,
    ⟨htext.settings.max, htext.settings.trace, htext.settings.vars.erase _⟩, hasText_one⟩

end Document

/-! ## Payloads apart -/

/-- A node apart can be written when the node can. -/
theorem Node.HasText.apart {n : Node} (h : n.HasText) (index : Nat) : (n.apart index).HasText :=
  ⟨h.data.inside _, h.position, by
    show (n.label.inside _).hasText = true
    rw [Value.hasText_inside]
    exact h.label, h.flags.inside _⟩

theorem Settings.HasText.apart {s : Settings} (h : s.HasText) : s.apart.HasText := by
  refine ⟨h.max, fun es hes => ?_, h.vars.inside _⟩
  obtain ⟨es', hes', rfl⟩ := Option.map_eq_some_iff.1 hes
  exact (h.trace es' hes').inside _

/-- A graph whose payloads are apart holds the same integers. -/
theorem Graph.HasText.apart {g : Graph} (h : g.HasText) : g.apart.HasText := by
  refine ⟨fun n hn => ?_, h.settings.apart, h.version⟩
  obtain ⟨⟨m, i⟩, hm, rfl⟩ := List.mem_map.1 hn
  exact (h.nodes m (List.fst_mem_of_mem_zipIdx hm)).apart i

/-! ## Writing -/

namespace Document

variable {g : Graph} (hg : g.HasText)

include hg

/-- Positions are written as numbers, which have text. -/
theorem hasText_positionEntries : (Metadata.positionEntries g.nodes).HasText := by
  unfold Metadata.positionEntries
  refine List.foldlRecOn g.nodes _ hasText_nil fun acc hacc n hn => ?_
  split
  · rename_i p hp
    exact hacc.set _ ((hg.nodes n hn).position p hp)
  · exact hacc

/-- The variables of a graph can be written, and so can the metadata beside them. -/
theorem hasText_vars (strategy : Strategy) (order : List String) :
    (vars g strategy order).HasText := by
  refine hg.settings.vars.set _ (Value.hasText_ofEntries.2 ?_)
  have horder : (Value.ofTexts order).hasText = true := by
    refine Value.hasText_list.2 fun v hv => ?_
    obtain ⟨s, -, rfl⟩ := List.mem_map.1 hv
    rfl
  have hid : (if g.id = "" then Value.null else .str g.id).hasText = true := by split <;> rfl
  exact hasText_cons.2 ⟨⟨rfl, hasText_one⟩, hasText_cons.2 ⟨⟨rfl, horder⟩,
    hasText_cons.2 ⟨⟨rfl, Value.hasText_ofEntries.2 (hasText_positionEntries hg)⟩,
      hasText_cons.2 ⟨⟨rfl, hid⟩, hasText_cons.2 ⟨⟨rfl, hg.version⟩, hasText_single rfl⟩⟩⟩⟩⟩

omit hg in
/-- A field of the settings that is a text or a truth value. -/
theorem hasText_field_map {α : Type} {name : String} {o : Option α} {f : α → Value}
    (h : ∀ a ∈ o, (f a).hasText = true) : (field name (o.map f)).HasText := by
  refine hasText_field fun v hv => ?_
  obtain ⟨a, ha, rfl⟩ := Option.map_eq_some_iff.1 hv
  exact h a ha

omit hg in
theorem hasText_ifNotEmpty (s : String) : ∀ v ∈ ifNotEmpty s, v.hasText = true := by
  unfold ifNotEmpty
  split
  · exact nofun
  · intro v hv
    cases hv
    rfl

/-- A document for a graph can be written when its sections can. -/
theorem hasText_assemble (strategy : Strategy) (order : List String)
    {triggers conditions actions : List Value} (htriggers : ∀ v ∈ triggers, v.hasText = true)
    (hconditions : ∀ v ∈ conditions, v.hasText = true)
    (hactions : ∀ v ∈ actions, v.hasText = true) :
    (assemble g strategy order triggers conditions actions).HasText := by
  have hid : ∀ v ∈ g.settings.automationId.bind ifNotEmpty, v.hasText = true := by
    intro v hv
    obtain ⟨s, -, hs⟩ := Option.bind_eq_some_iff.1 hv
    exact hasText_ifNotEmpty s v hs
  have hmaybe : (if conditions.isEmpty then []
      else [(.str "conditions", .ofItems conditions)] : Entries).HasText := by
    split
    · exact hasText_nil
    · exact hasText_single (Value.hasText_ofItems.2 hconditions)
  refine HasText.append (HasText.append (HasText.append ?_ (hasText_cons.2 ⟨⟨rfl, ?_⟩,
    hasText_single (Value.hasText_ofItems.2 htriggers)⟩)) hmaybe)
    (hasText_single (Value.hasText_ofItems.2 hactions))
  · -- who the automation is and how it runs
    refine HasText.append (HasText.append (HasText.append (HasText.append (HasText.append
      (HasText.append (HasText.append (HasText.append (hasText_field hid) ?_) ?_) ?_) ?_) ?_) ?_)
      ?_) ?_
    · exact hasText_field (hasText_ifNotEmpty _)
    · exact hasText_field (hasText_ifNotEmpty _)
    · exact hasText_field_map fun _ _ => rfl
    · exact hasText_field_map fun n hn => hg.settings.max n hn
    · exact hasText_field_map fun _ _ => rfl
    · exact hasText_field_map fun _ _ => rfl
    · exact hasText_field_map fun _ _ => rfl
    · exact hasText_field_map fun es hes => Value.hasText_ofEntries.2 (hg.settings.trace es hes)
  · exact Value.hasText_ofEntries.2 (hasText_vars hg strategy order)

omit hg in
/-- The payloads of nodes can be written when the nodes can. -/
theorem hasText_payloads {nodes : List Node} (h : ∀ n ∈ nodes, n.HasText) :
    ∀ v ∈ Program.payloads nodes, v.hasText = true := by
  intro v hv
  obtain ⟨n, hn, rfl⟩ := List.mem_map.1 hv
  exact Value.hasText_ofEntries.2 (h n hn).data

end Document

namespace Dispatch

theorem hasText_assign (target : Option String) : (assign target).hasText = true := rfl

/-- The option for a node holds the integers of the node. -/
theorem hasText_option {g : Graph} {joins : List (String × Option String)} {n : Node}
    (h : n.HasText) : (option g joins n).hasText = true := by
  have hsteps : ∀ v ∈ steps g joins n, v.hasText = true := by
    unfold steps
    split
    · refine List.forall_mem_append.2 ⟨?_, ?_⟩
      · split
        · exact List.forall_mem_singleton.2 (hasText_assign _)
        · simp
      · have hblock := Block.hasText_ifEntry h
          (List.forall_mem_singleton.2 (hasText_assign (g.whenTrue? n.id)))
          (List.forall_mem_singleton.2 (hasText_assign (g.whenFalse? n.id)))
        exact List.forall_mem_singleton.2 (Value.hasText_ofEntries.2 hblock)
    · exact List.forall_mem_cons.2 ⟨Value.hasText_ofEntries.2 h.data,
        List.forall_mem_singleton.2 (hasText_assign (g.successor? n.id))⟩
  exact Value.hasText_ofEntries.2 (hasText_cons.2 ⟨⟨rfl, rfl⟩,
    hasText_single (Value.hasText_ofItems.2 hsteps)⟩)

/-- A dispatch loop holds the integers of its nodes. -/
theorem hasText_actions {limits : Limits} {g : Graph} {joins : List (String × Option String)}
    {body : List Node} (h : ∀ n ∈ body, n.HasText) :
    ∀ v ∈ actions limits g joins body, v.hasText = true := by
  have hchoice : (choice g joins body).hasText = true := by
    refine Value.hasText_ofEntries.2 (hasText_cons.2 ⟨⟨rfl, Value.hasText_ofItems.2 fun v hv => ?_⟩,
      hasText_single rfl⟩)
    obtain ⟨n, hn, rfl⟩ := List.mem_map.1 hv
    exact hasText_option (h n hn)
  have hloop : (Value.ofEntries [(.str "repeat", .ofEntries [
      (.str "sequence", .ofItems [choice g joins body]),
      (.str "until", .ofItems [untilCondition limits])])]).hasText = true :=
    Value.hasText_ofEntries.2 (hasText_single (Value.hasText_ofEntries.2 (hasText_cons.2
      ⟨⟨rfl, Value.hasText_ofItems.2 (List.forall_mem_singleton.2 hchoice)⟩, hasText_single rfl⟩)))
  unfold actions
  split
  · simp
  · exact List.forall_mem_cons.2 ⟨rfl, List.forall_mem_cons.2 ⟨hloop,
      List.forall_mem_singleton.2 rfl⟩⟩

end Dispatch

end Automation
