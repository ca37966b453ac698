import Automation.Proofs.Document.Assembly
import Automation.Proofs.Document.Text
import Automation.Proofs.Graph.Apart
import Automation.Proofs.Graph.Renaming
import Automation.Proofs.Program.Counterpart
import Automation.Proofs.Program.Writing

/-!
# Names of nodes do not matter

A graph and the graph with its nodes renamed are classified alike, and both can be written with
branching blocks or neither can (`Document.native_renamed`). The two documents differ in their
metadata only, where the ids and the positions are renamed along (`Document.renameIds`).

One name matters: a join table holds the end of every run under the name `exitName`, and a node that
has this name passes for the end (`Document.exists_renamed_classify_ne`).
-/

namespace Automation

open Entries

/-! ## Changed fields -/

namespace Value

/-- A text renamed; any other value as it is. -/
def renameText (f : String → String) : Value → Value
  | .str s => .str (f s)
  | v => v

/-- A list with the texts in it renamed. -/
def renameItems (f : String → String) : Value → Value
  | .list o items => .list o (items.map (renameText f))
  | v => v

/-- A mapping with its entries changed. -/
def onEntries (change : Entries → Entries) : Value → Value
  | .map o es => .map o (change es)
  | v => v

end Value

namespace Entries

/-- The entries with the value of a field changed. -/
def modify (es : Entries) (name : String) (change : Value → Value) : Entries :=
  es.map fun e => if e.1.isText name then (e.1, change e.2) else e

/-- The entries with the texts among their keys renamed. -/
def renameKeys (f : String → String) (es : Entries) : Entries :=
  es.map fun e => (e.1.renameText f, e.2)

variable {es : Entries} {name : String} {change : Value → Value}

/-- A field that is modified is modified in both parts. -/
theorem modify_append (es more : Entries) (name : String) (change : Value → Value) :
    (es ++ more).modify name change = es.modify name change ++ more.modify name change :=
  List.map_append

/-- A field that is not there is not changed. -/
theorem modify_of_not_has (h : es.has name = false) : es.modify name change = es := by
  unfold modify
  refine (List.map_congr_left fun e he => ?_).trans (List.map_id es)
  have : e.1.isText name = false := by
    simpa using List.any_eq_false.1 h e he
  rw [this]
  rfl

theorem modify_field_of_ne {other : String} (hne : other ≠ name) (v : Option Value) :
    (field other v).modify name change = field other v := by
  refine modify_of_not_has ?_
  cases v <;> simp [field, has, Value.isText, hne]

/-- A field can be set before or after the keys are renamed, when no other key gets its name. -/
theorem renameKeys_set {f : String → String} {id : String} (v : Value)
    (h : ∀ e ∈ es, (e.1.renameText f).isText (f id) = e.1.isText id) :
    (es.set id v).renameKeys f = (es.renameKeys f).set (f id) v := by
  -- the new id is there just if the old one is
  have hhas : (es.renameKeys f).has (f id) = es.has id := by
    unfold renameKeys has
    rw [List.any_map]
    rw [Bool.eq_iff_iff, List.any_eq_true, List.any_eq_true]
    refine exists_congr fun e => and_congr_right fun he => ?_
    rw [Function.comp_apply, h e he]
  unfold set
  rw [hhas]
  split
  · unfold renameKeys
    rw [List.map_map, List.map_map]
    refine List.map_congr_left fun e he => ?_
    rw [Function.comp_apply, Function.comp_apply, h e he]
    split <;> rfl
  · unfold renameKeys
    rw [List.map_append]
    rfl

/-- A field that was set is changed from what it was set to. -/
theorem modify_set (es : Entries) (name : String) (v : Value) (change : Value → Value) :
    (es.set name v).modify name change = es.set name (change v) := by
  unfold set
  split
  · unfold modify
    rw [List.map_map]
    refine List.map_congr_left fun e _ => ?_
    by_cases he : e.1.isText name = true <;> simp [he]
  · rename_i h
    rw [modify_append, modify_of_not_has (by simpa using h)]
    simp [modify, Value.isText]

/-- A change of one field that keeps what can be written keeps it for the mapping. -/
theorem hasText_modify (h : ∀ v, (change v).hasText = v.hasText) :
    (es.modify name change).HasText ↔ es.HasText := by
  unfold modify HasText
  rw [List.forall_mem_map]
  refine forall₂_congr fun e _ => ?_
  split
  · rw [h]
  · rfl

end Entries

namespace Value

variable {f : String → String}

/-- A new name can be written just as the old one. -/
theorem hasText_renameText (v : Value) : (v.renameText f).hasText = v.hasText := by
  cases v <;> rfl

theorem hasText_renameItems (v : Value) : (v.renameItems f).hasText = v.hasText := by
  cases v with
  | list o items =>
    rw [Bool.eq_iff_iff, renameItems, hasText_list, hasText_list, List.forall_mem_map]
    simp only [hasText_renameText]
  | _ => rfl

theorem hasText_onEntries {change : Entries → Entries}
    (h : ∀ es : Entries, (change es).HasText ↔ es.HasText) (v : Value) :
    (v.onEntries change).hasText = v.hasText := by
  cases v with
  | map o es => rw [Bool.eq_iff_iff, onEntries, hasText_map, hasText_map, h]
  | _ => rfl

end Value

theorem Entries.hasText_renameKeys {f : String → String} {es : Entries} :
    (es.renameKeys f).HasText ↔ es.HasText := by
  unfold renameKeys HasText
  rw [List.forall_mem_map]
  simp only [Value.hasText_renameText]

/-! ## Renamed metadata -/

namespace Metadata

/-- A block with the ids of nodes in it renamed: those that are listed, and those that have
positions. -/
def rename (f : String → String) (block : Entries) : Entries :=
  (block.modify "node_ids" (.renameItems f)).modify "node_positions" (.onEntries (renameKeys f))

/-- The positions of renamed nodes are under the ids that the nodes get. -/
theorem positionEntries_renamed {g : Graph} {f : String → String}
    (h : (g.renamed f).WellFormed) :
    positionEntries (g.renamed f).nodes = (positionEntries g.nodes).renameKeys f := by
  -- the renaming tells the ids of nodes apart
  have hkey {m n : Node} (hm : m ∈ g.nodes) (hn : n ∈ g.nodes) :
      ((Value.str m.id).renameText f).isText (f n.id) = (Value.str m.id).isText n.id := by
    have hinj : f m.id = f n.id ↔ m.id = n.id :=
      ⟨fun heq => congrArg Node.id (h.renamed_inj hm hn heq), fun heq => congrArg f heq⟩
    rw [Bool.eq_iff_iff, Value.renameText, Value.isText_str, Value.isText_str, beq_iff_eq,
      beq_iff_eq, hinj]
  unfold positionEntries
  rw [Graph.renamed, List.foldl_map]
  refine (List.foldl_rel (l := g.nodes) (r := fun acc acc' : Entries =>
    (∀ e ∈ acc, ∃ m ∈ g.nodes, e.1 = .str m.id) ∧ acc' = acc.renameKeys f) (a := []) (b := []) ⟨List.forall_mem_nil _, rfl⟩ ?_).2
  rintro n hn acc _ ⟨hacc, rfl⟩
  have hposition : (n.renamed f).position = n.position := rfl
  rw [hposition]
  cases n.position with
  | none => exact ⟨hacc, rfl⟩
  | some p =>
    refine ⟨fun e he => ?_, (renameKeys_set _ fun e he => ?_).symm⟩
    · rcases key_mem_set he with ⟨e', he', heq⟩ | heq
      · rw [heq]
        exact hacc e' he'
      · exact ⟨n, hn, heq⟩
    · obtain ⟨m, hm, heq⟩ := hacc e he
      rw [heq]
      exact hkey hm hn

/-- The metadata of a renamed graph is the metadata of the graph with the ids renamed. -/
theorem encode_renamed {g : Graph} {f : String → String} (h : (g.renamed f).WellFormed)
    (strategy : String) (order : List String) :
    encode (g.renamed f) strategy (order.map f) = rename f (encode g strategy order) := by
  unfold encode
  rw [positionEntries_renamed h]
  simp [rename, Entries.modify, Value.isText, Value.renameItems, Value.onEntries, Value.ofTexts,
    Value.ofEntries, Value.renameText, Graph.renamed]
  rfl

end Metadata

namespace Document

/-- A document with the ids of nodes renamed in its metadata. -/
def renameIds (f : String → String) (document : Entries) : Entries :=
  document.modify "variables" <| .onEntries fun vars =>
    vars.modify Metadata.key (.onEntries (Metadata.rename f))

variable {g : Graph} {f : String → String}

/-- A document can be written with other ids just if it can be written. -/
theorem hasText_renameIds {document : Entries} :
    (renameIds f document).HasText ↔ document.HasText := by
  have hblock (es : Entries) : (Metadata.rename f es).HasText ↔ es.HasText :=
    (hasText_modify (Value.hasText_onEntries fun _ => hasText_renameKeys)).trans
      (hasText_modify Value.hasText_renameItems)
  exact hasText_modify (Value.hasText_onEntries fun _ =>
    hasText_modify (Value.hasText_onEntries hblock))

/-- Of a document only the metadata depends on the names of the nodes. -/
theorem assemble_renamed (h : (g.renamed f).WellFormed) (strategy : Strategy) (order : List String)
    (triggers conditions actions : List Value) :
    assemble (g.renamed f) strategy (order.map f) triggers conditions actions
      = renameIds f (assemble g strategy order triggers conditions actions) := by
  have hvars : vars (g.renamed f) strategy (order.map f)
      = (vars g strategy order).modify Metadata.key (.onEntries (Metadata.rename f)) := by
    unfold vars
    rw [modify_set, Metadata.encode_renamed h]
    rfl
  unfold renameIds assemble
  rw [hvars]
  simp only [modify_append]
  -- of all the fields of a document only the variables have ids in them
  rw [modify_field_of_ne (by decide), modify_field_of_ne (by decide),
    modify_field_of_ne (by decide), modify_field_of_ne (by decide),
    modify_field_of_ne (by decide), modify_field_of_ne (by decide),
    modify_field_of_ne (by decide), modify_field_of_ne (by decide),
    modify_field_of_ne (by decide)]
  have hconditions : Entries.modify
      (if conditions.isEmpty then [] else [(.str "conditions", .ofItems conditions)]) "variables"
        (.onEntries fun vars => vars.modify Metadata.key (.onEntries (Metadata.rename f)))
      = if conditions.isEmpty then [] else [(.str "conditions", .ofItems conditions)] := by
    split <;> rfl
  rw [hconditions]
  rfl

/-! ## Writing a renamed graph -/

section Writing

open Automation.Graph Outcome

variable {σ : Equiv.Perm String} {r r' : TopologyReport} {limits : Limits}

/-- The entries of the documents of a graph and of the renamed graph. -/
theorem matches_nativeEntries
    (h : Counterpart σ (fun m n => m ∈ g.nodes ∧ n = m.renamed f) g (g.renamed f))
    (hr : r.Counterpart σ r') :
    Matches (fun c c' => c' = renameIds f c) (nativeEntries limits r g)
      (nativeEntries limits r' (g.renamed f)) := by
  have halike (m n : Node) (hR : m ∈ g.nodes ∧ n = m.renamed f) : m.WrittenAlike n := by
    rw [hR.2]
    exact ⟨rfl, rfl, rfl⟩
  refine (h.matches_program hr).bind fun p q hpq => .ok ?_
  have horder : q.nodes.map (·.id) = (p.nodes.map (·.id)).map f := by
    rw [List.map_map, ← List.forall₂_eq_eq_eq, List.forall₂_map_left_iff,
      List.forall₂_map_right_iff]
    exact hpq.nodes.flip.imp fun n m hR => by rw [hR.2]; rfl
  rw [horder, Program.payloads_eq halike hpq.triggers, Program.payloads_eq halike hpq.gates,
    hpq.actions_eq halike, assemble_renamed h.right]

/-- A document is written for the renamed graph when one is for the graph. -/
theorem matches_written (limits : Limits) (hwf : g.WellFormed) (hwf' : (g.renamed f).WellFormed)
    (hσ : ∀ n ∈ g.nodes, σ n.id = f n.id) (hr : r.Counterpart σ r') :
    Matches (fun w w' => w'.config = renameIds f w.config)
      (written .native g (nativeEntries limits r))
      (written .native (g.renamed f) (nativeEntries limits r')) := by
  have hcounterpart := hwf.counterpart_renamed hwf' hσ
  -- the payloads are set apart before or after the nodes are renamed
  have hwf'_apart : (g.apart.renamed f).WellFormed := renamed_apart f g ▸ hwf'.apart
  have hσ_apart (n : Node) (hn : n ∈ g.apart.nodes) : σ n.id = f n.id := by
    have hid : n.id ∈ g.nodes.map (·.id) := g.apart_ids ▸ List.mem_map_of_mem hn
    obtain ⟨m, hm, heq⟩ := List.mem_map.1 hid
    rw [← heq]
    exact hσ m hm
  have hcounterpart_apart := hwf.apart.counterpart_renamed hwf'_apart hσ_apart
  unfold written
  rw [renamed_apart]
  refine (matches_nativeEntries hcounterpart_apart hr).bind fun sheet sheet' hsheet => ?_
  refine (matches_nativeEntries hcounterpart hr).bind fun config config' hconfig => ?_
  have htext : (Value.ofEntries sheet').hasText = (Value.ofEntries sheet).hasText := by
    rw [hsheet, Bool.eq_iff_iff]
    exact Value.hasText_map.trans (hasText_renameIds.trans Value.hasText_map.symm)
  unfold Yaml.render
  rw [htext]
  split
  · exact .ok hconfig
  · exact .error _

/-- Node names do not matter: a well-formed graph and the graph with its nodes renamed are
classified alike, both are written with branching blocks or neither is, and of the two documents
only the metadata differs, where ids are renamed along. Neither graph may have a node with the name
of the end of every run. -/
theorem native_renamed (hwf : g.WellFormed) (hwf' : (g.renamed f).WellFormed) (hexit : g.NoExit)
    (hexit' : (g.renamed f).NoExit) :
    (g.renamed f).classify limits = g.classify limits
      ∧ ((∃ w, (native limits g).1 = .ok w) ↔ ∃ w', (native limits (g.renamed f)).1 = .ok w')
      ∧ ∀ w w', (native limits g).1 = .ok w → (native limits (g.renamed f)).1 = .ok w' →
        w'.config = renameIds f w.config := by
  obtain ⟨σ, hσ, hfixed⟩ := hwf'.exists_perm hexit hexit'
  have hcounterpart := hwf.counterpart_renamed hwf' hσ
  refine ⟨hcounterpart.classify_eq hfixed hexit, ?_⟩
  -- the reports are counterparts, so both graphs are native or neither is
  have hexamine : Matches (fun x x' => x.1.Counterpart σ x'.1) (examine limits g)
      (examine limits (g.renamed f)) :=
    (hcounterpart.matches_analyze hfixed hexit).bind fun r r' hr => by
      rw [notices_renamed]
      exact (Matches.of_map _ _).bind fun _ _ _ => .ok hr
  unfold native
  generalize examine limits g = examined at hexamine ⊢
  generalize examine limits (g.renamed f) = examined' at hexamine ⊢
  cases hexamine with
  | error failure => exact ⟨Iff.rfl, fun w w' hw => by cases hw⟩
  | @ok x x' hr =>
    obtain ⟨r, notices⟩ := x
    obtain ⟨r', notices'⟩ := x'
    dsimp only at hr ⊢
    rw [hr.isNative]
    cases r.isNative with
    | false => exact ⟨by simp, fun w w' hw => by cases hw⟩
    | true =>
      have hwritten := matches_written limits hwf hwf' hσ hr
      refine ⟨⟨?_, ?_⟩, fun w w' hw hw' => ?_⟩
      · rintro ⟨w, hw⟩
        obtain ⟨w', hw', -⟩ := hwritten.exists_of_left hw
        exact ⟨w', hw'⟩
      · rintro ⟨w', hw'⟩
        obtain ⟨w, hw, -⟩ := hwritten.exists_of_right hw'
        exact ⟨w, hw⟩
      · obtain ⟨w'', hw'', hconfig⟩ := hwritten.exists_of_left hw
        cases hw''.symm.trans hw'
        exact hconfig

/-- A lamp that is turned on or off, and a node behind both. -/
def hallLights : Graph where
  nodes := [
    { id := "t1", kind := .trigger, data := [(.str "trigger", .str "time")] },
    { id := "c1", kind := .condition, data := [(.str "condition", .str "sun")],
      position := some { x := .int 1, y := .int 2 } },
    { id := "on", kind := .action, data := [(.str "action", .str "light.turn_on")] },
    { id := "off", kind := .action, data := [(.str "action", .str "light.turn_off")] },
    { id := "rest", kind := .delay, data := [(.str "delay", .int 5)] }]
  edges := [.between "t1" "c1", .between "c1" "on" (some handleTrue),
    .between "c1" "off" (some handleFalse), .between "on" "rest", .between "off" "rest"]

theorem native_renamed_hallLights : ∃ w w', (native {} hallLights).1 = .ok w
    ∧ (native {} (hallLights.renamed (Equiv.swap "c1" "rest"))).1 = .ok w'
    ∧ w'.config = renameIds (Equiv.swap "c1" "rest") w.config := by
  obtain ⟨w, hw⟩ : ∃ w, (native {} hallLights).1 = .ok w := isSome_toOption.1 (by decide +kernel)
  have hrenamed := @native_renamed hallLights (Equiv.swap "c1" "rest") {}
    (List.isEmpty_iff.1 (by decide +kernel)) (List.isEmpty_iff.1 (by decide +kernel))
    (by unfold NoExit; decide +kernel) (by unfold NoExit; decide +kernel)
  obtain ⟨w', hw'⟩ := hrenamed.2.1.1 ⟨w, hw⟩
  exact ⟨w, w', hw, hw', hrenamed.2.2 w w' hw hw'⟩

/-- A lamp that the first of two conditions turns on, or the second one, or neither. -/
def eitherLamp (lamp : String) : Graph where
  nodes := [
    { id := "t1", kind := .trigger, data := [(.str "trigger", .str "time")] },
    { id := "c1", kind := .condition, data := [(.str "condition", .str "sun")] },
    { id := "c2", kind := .condition, data := [(.str "condition", .str "zone")] },
    { id := lamp, kind := .action, data := [(.str "action", .str "light.turn_on")] },
    { id := "off", kind := .action, data := [(.str "action", .str "light.turn_off")] }]
  edges := [.between "t1" "c1", .between "c1" lamp (some handleTrue),
    .between "c1" "c2" (some handleFalse), .between "c2" lamp (some handleTrue),
    .between "c2" "off" (some handleFalse)]

/-- The name of the end of every run matters: a node that two branches lead to is met twice, and
under this name it is not. -/
theorem exists_renamed_classify_ne : ∃ (g : Graph) (f : String → String), Function.Injective f
    ∧ g.WellFormed ∧ (g.renamed f).WellFormed ∧ g.classify {} = .ok .dispatch
    ∧ (g.renamed f).classify {} = .ok .native ∧ (∀ w, (native {} g).1 ≠ .ok w)
    ∧ ∃ w, (native {} (g.renamed f)).1 = .ok w := by
  refine ⟨eitherLamp "lamp", Equiv.swap "lamp" exitName, Equiv.injective _,
    List.isEmpty_iff.1 (by decide +kernel), List.isEmpty_iff.1 (by decide +kernel),
    toOption_eq_some.1 (by decide +kernel), toOption_eq_some.1 (by decide +kernel), fun w hw => ?_,
    isSome_toOption.1 (by decide +kernel)⟩
  have hnone : (native {} (eitherLamp "lamp")).1.toOption.isSome = false := by decide +kernel
  rw [hw] at hnone
  cases hnone

end Writing

end Document

end Automation
