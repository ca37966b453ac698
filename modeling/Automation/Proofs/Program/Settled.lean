import Automation.Proofs.Program.Regular

/-!
# Nodes that are read once and for all

What a reader makes of an entry is what it would make of it again: the payload of a condition is in
its normal form, a step has no old names left and is still taken for a step of its kind, and the
flags are in the order of a reader (`Node.Settled`). All nodes that are read out of sections in
which each mapping has its keys once are like that (`Program.SectionsRead.settled`).
-/

namespace Automation

open Entries

/-- A node that a reader makes nothing else of when it reads it again. -/
structure Node.Settled (limits : Limits) (n : Node) : Prop where
  position : n.position = none
  distinct : n.data.Distinct
  flags : ∃ es, n.flags = Entry.flagsOf es
  bare : n.kind.isCondition = false → n.label = .null ∧ n.flags = []
  trigger : n.kind.isTrigger = true → n.data.Keyed ∧ n.data.has "platform" = false
  normal : n.kind.isCondition = true → Condition.normalize limits (.ofEntries n.data) = .ok n.data
  step : n.kind.isTrigger = false → n.kind.isCondition = false →
    Entry.kind n.data = .step n.kind ∧ Entry.IsModernStep n.kind n.data

namespace Node.Settled

variable {limits : Limits} {n : Node}

/-- A settled node has the flags of an entry. -/
theorem areFlags (h : n.Settled limits) : Block.AreFlags n.flags := by
  obtain ⟨es, heq⟩ := h.flags
  exact heq ▸ Entry.areFlags_flagsOf es

theorem keyed_flags (h : n.Settled limits) : n.flags.Keyed := by
  obtain ⟨es, heq⟩ := h.flags
  exact heq ▸ Entry.keyed_flagsOf es

end Node.Settled

namespace Condition

/-- The payload of conditions whose mappings have each key once has each key once. -/
theorem distinct_of_normalize {limits : Limits} {v : Value} {data : Entries}
    (hv : v.keysOnce = true) (h : normalize limits v = .ok data) : data.Distinct := by
  refine of_normalize lasting_distinct (fun o es hexpose => ?_) h
  exact Value.distinct_of_keysOnce (hexpose ▸ Value.keysOnce_expose hv)

/-- The payload of a value that has its keys once has its keys once. -/
theorem distinct_of_payload {limits : Limits} {v : Value} {data : Entries} (hv : v.keysOnce = true)
    (h : payload limits v = .ok data) : data.Distinct := by
  have hexposed := Value.keysOnce_expose hv
  refine of_payload lasting_distinct (fun o es hexpose => ?_)
    (fun o single hlist o' es hexpose => ?_) h
  · exact Value.distinct_of_keysOnce (hexpose ▸ Value.keysOnce_expose hexposed)
  · rw [hlist] at hexposed
    have hsingle := Value.keysOnce_of_mem hexposed List.mem_cons_self
    exact Value.distinct_of_keysOnce (hexpose ▸ Value.keysOnce_expose hsingle)

end Condition

namespace Program

variable {limits : Limits} {created : List NodeKind}

theorem keysOnce_of_mem_entriesOf {v w : Value} (h : v.keysOnce = true) (hw : w ∈ entriesOf v) :
    w.keysOnce = true := by
  have hexposed := Value.keysOnce_expose h
  unfold entriesOf at hw
  split at hw
  · cases hw
  · generalize v.expose = u at hw hexposed
    cases u with
    | list o items => exact Value.keysOnce_of_mem hexposed hw
    | _ => exact List.mem_singleton.1 hw ▸ hexposed

/-! ## Nodes -/

/-- A trigger is settled when its data has texts as keys and no old name. -/
theorem settled_trigger {data : Entries} (hdata : data.Keyed)
    (hplatform : data.has "platform" = false) :
    (fresh created .trigger data .null []).Settled limits where
  position := rfl
  distinct := hdata.distinct
  flags := ⟨[], rfl⟩
  bare _ := ⟨rfl, rfl⟩
  trigger _ := ⟨hdata, hplatform⟩
  normal := nofun
  step := nofun

/-- A condition is settled when its data is what normalizing leaves. -/
theorem settled_condition {v : Value} {data : Entries} (hdistinct : data.Distinct)
    (hdata : Condition.normalize limits v = .ok data) (label : Value) (es : Entries) :
    (fresh created .condition data label (Entry.flagsOf es)).Settled limits where
  position := rfl
  distinct := hdistinct
  flags := ⟨es, rfl⟩
  bare := nofun
  trigger := nofun
  normal _ := Condition.normalize_of_normalize hdata
  step _ := nofun

/-- A step is settled when it was read: a second reading leaves it alone. -/
theorem settled_step {kind : NodeKind} {place : Place} {es : Entries}
    (honce : (Value.ofEntries es).keysOnce = true) (hkind : Entry.kind es = .step kind) :
    (fresh created kind (Entry.modernStep kind place (Entry.apart kind place es)).1 .null
      []).Settled
      limits where
  position := rfl
  distinct := Value.distinct_of_keysOnce (Entry.keysOnce_modernStep kind honce)
  flags := ⟨[], rfl⟩
  bare _ := ⟨rfl, rfl⟩
  trigger htrigger := by
    change kind.isTrigger = true at htrigger
    rw [Entry.isTrigger_of_kind hkind] at htrigger
    cases htrigger
  normal hcondition := by
    change kind.isCondition = true at hcondition
    rw [Entry.isCondition_of_kind hkind] at hcondition
    cases hcondition
  step _ _ := ⟨Entry.kind_modernStep hkind place, Entry.isModernStep_of_keysOnce kind honce⟩

/-! ## Entries -/

mutual
/-- The nodes of a block that is read out of an entry whose mappings have each key once. -/
theorem EntryRead.settled {levels : Nat} {place : Place} {entry : Value}
    {created after : List NodeKind} {b : Block} (h : entry.keysOnce = true) :
    EntryRead limits levels place entry created b after → ∀ n ∈ b.nodes, n.Settled limits
  | .step hentry hkind _ => by
    have hes := Value.keysOnce_expose h
    rw [hentry] at hes
    simpa [Block.nodes] using settled_step hes hkind
  | .gate _ _ hdata => by
    have hnode : (fresh created .condition _ .null []).Settled limits :=
      settled_condition (Condition.distinct_of_normalize h hdata) hdata .null []
    simpa [Block.nodes] using hnode
  | .ifBlock hentry _ hdata hthen helse => by
    have hes := Value.keysOnce_expose h
    rw [hentry] at hes
    have hfield := Value.keysOnce_get hes
    obtain ⟨w, hw⟩ := Condition.exists_of_payload_eq_ok hdata
    have hdistinct := Condition.distinct_of_payload (hfield "if") hdata
    rw [Block.nodes, Block.optionNodes, Block.optionNodes, List.append_nil]
    refine List.forall_mem_append.2
      ⟨List.forall_mem_cons.2 ⟨settled_condition hdistinct hw _ _, ?_⟩, ?_⟩
    · exact ListRead.settled (fun v => keysOnce_of_mem_entriesOf (hfield "then")) hthen
    · exact ListRead.settled (fun v => keysOnce_of_mem_entriesOf (hfield "else")) helse
  | .chooseBlock hentry _ hoptions hdefault => by
    have hes := Value.keysOnce_expose h
    rw [hentry] at hes
    have hfield := Value.keysOnce_get hes
    rw [Block.nodes]
    exact List.forall_mem_append.2
      ⟨OptionsRead.settled (fun v => keysOnce_of_mem_entriesOf (hfield "choose")) ⟨_, rfl⟩ hoptions,
        ListRead.settled (fun v => keysOnce_of_mem_entriesOf (hfield "default")) hdefault⟩

/-- The nodes of a list are settled when its entries have their keys once. -/
theorem ListRead.settled {levels : Nat} {place : Place} {i : Nat} {entries : List Value}
    {created after : List NodeKind} {bs : List Block}
    (h : ∀ entry ∈ entries, entry.keysOnce = true) :
    ListRead limits levels place i entries created bs after →
    ∀ n ∈ Block.listNodes bs, n.Settled limits
  | .nil => by simp [Block.listNodes]
  | .cons hentry hrest => by
    obtain ⟨hfirst, hothers⟩ := List.forall_mem_cons.1 h
    rw [Block.listNodes]
    exact List.forall_mem_append.2 ⟨EntryRead.settled hfirst hentry, ListRead.settled hothers hrest⟩

/-- The nodes of options are settled when the options have their keys once. -/
theorem OptionsRead.settled {levels : Nat} {place : Place} {i : Nat} {flags : Entries}
    {entries : List Value} {created after : List NodeKind} {options : List (Node × List Block)}
    (h : ∀ option ∈ entries, option.keysOnce = true) (hflags : ∃ es, flags = Entry.flagsOf es) :
    OptionsRead limits levels place i flags entries created options after →
    ∀ n ∈ Block.optionNodes options, n.Settled limits
  | .nil => by simp [Block.optionNodes]
  | .cons hoption _ hdata hbody hrest => by
    obtain ⟨hfirst, hothers⟩ := List.forall_mem_cons.1 h
    obtain ⟨source, rfl⟩ := hflags
    have hes := Value.keysOnce_expose hfirst
    rw [hoption] at hes
    have hfield := Value.keysOnce_get hes
    obtain ⟨w, hw⟩ := Condition.exists_of_payload_eq_ok hdata
    have hdistinct := Condition.distinct_of_payload (hfield "conditions") hdata
    rw [Block.optionNodes]
    refine List.forall_mem_append.2
      ⟨List.forall_mem_cons.2 ⟨settled_condition hdistinct hw _ _, ?_⟩, ?_⟩
    · exact ListRead.settled (fun v => keysOnce_of_mem_entriesOf (hfield "sequence")) hbody
    · exact OptionsRead.settled hothers ⟨[], rfl⟩ hrest
end

/-- The nodes that are read out of sections in which each mapping has its keys once. -/
theorem SectionsRead.settled {triggers actions : List Entries} {conditions : List Value}
    {p : Program} (h : SectionsRead limits triggers conditions actions p)
    (htriggers : ∀ es ∈ triggers, es.Keyed ∧ es.has "platform" = false)
    (hconditions : ∀ v ∈ conditions, v.keysOnce = true)
    (hactions : ∀ es ∈ actions, (Value.ofEntries es).keysOnce = true) :
    ∀ n ∈ p.nodes, n.Settled limits := by
  -- a node has its name from those created before, which its payload does not need
  have hfresh {kind : NodeKind} {datas : List Entries} (created : List NodeKind)
      (hdatas : ∀ es ∈ datas, ∀ created, (fresh created kind es .null []).Settled limits) :
      ∀ n ∈ freshNodes kind created datas, n.Settled limits := by
    induction datas generalizing created with
    | nil => exact nofun
    | cons es datas ih =>
      obtain ⟨hes, hdatas⟩ := List.forall_mem_cons.1 hdatas
      exact List.forall_mem_cons.2 ⟨hes created, ih _ hdatas⟩
  obtain ⟨tests, htests, hgates⟩ := h.gates
  obtain ⟨after, hbody⟩ := h.body
  unfold nodes
  rw [h.triggers, hgates]
  refine List.forall_mem_append.2 ⟨List.forall_mem_append.2 ⟨?_, ?_⟩, ?_⟩
  · exact hfresh _ fun es hes created => settled_trigger (htriggers es hes).1 (htriggers es hes).2
  · refine hfresh _ fun es hes created => ?_
    obtain ⟨v, hv, hdata⟩ := Outcome.exists_of_mem_mapM htests hes
    exact settled_condition (Condition.distinct_of_normalize (hconditions v hv) hdata) hdata .null
      []
  · exact hbody.settled (List.forall_mem_map.2 hactions)

end Program

end Automation
