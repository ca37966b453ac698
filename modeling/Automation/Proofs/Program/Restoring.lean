import Automation.Proofs.Condition.Fixed
import Automation.Proofs.Program.Lowering
import Automation.Proofs.Program.Numbering
import Automation.Proofs.Program.Shape

/-!
# Written programs read back

What a program is written as is read as a program of the same shape when its payloads tell what they
are: in the place of each node stands what a reader makes of it (`Graph.Programmed.rereads`). The
induction is on the derivation of the reading: the entry of a block tells which rule it was read by.
The nodes of a normal graph are read as themselves, under the names that a reader gives
(`Graph.Programmed.alike_of_sectionsRead`).
-/

namespace Automation

/-- A node that is the same as another except for its name. -/
def Node.Matches (m n : Node) : Prop := Node.Same { m with id := n.id } n

namespace Graph

/-- A graph that branching blocks can hold: conditions cannot be taken for blocks, steps are renewed
as what they are, and no node has the name of the place behind the end. -/
structure Normal (limits : Limits) (g : Graph) : Prop extends g.Restorable limits where
  exit : g.NoExit
  unblocked : ∀ n ∈ g.nodes, n.kind.isCondition = true →
    n.data.has "if" = false ∧ n.data.has "choose" = false
  modern : ∀ n ∈ g.nodes, n.kind.isTrigger = false → n.kind.isCondition = false → ∀ place,
    ∃ data notices, Entry.renewStep n.kind place (Entry.apart n.kind place n.data)
        = .ok (data, notices)
      ∧ (Value.ofEntries data).same (.ofEntries n.data) = true

/-- A graph whose payloads are told for what they are, those of conditions in their normal form. -/
structure Telling (limits : Limits) (g : Graph) : Prop where
  wellFormed : g.WellFormed
  headed : g.Headed
  /-- no mapping in a payload has a key twice -/
  once : ∀ n ∈ g.nodes, (Value.ofEntries n.data).keysOnce = true
  distinct : ∀ n ∈ g.nodes, n.flags.Distinct
  platform : ∀ n ∈ g.nodes, n.kind.isTrigger = true → n.data.has "platform" = false
  normal : ∀ n ∈ g.nodes, n.kind.isCondition = true → Condition.IsNormal limits n.data
  unblocked : ∀ n ∈ g.nodes, n.kind.isCondition = true →
    n.data.has "if" = false ∧ n.data.has "choose" = false
  step : ∀ n ∈ g.nodes, n.kind.isTrigger = false → n.kind.isCondition = false →
    Entry.kind n.data = .step n.kind

/-- A graph whose nodes can be known again in a document: no node has the name of the place behind
the end, there is an end to each step, and flags have texts for keys, none of which is that of a
field of a branching block. -/
structure Legible (limits : Limits) (g : Graph) : Prop extends g.Telling limits where
  exit : g.NoExit
  ends : ∀ n ∈ g.nodes, Entry.isEndlessStep n.kind n.data = false
  keyed : ∀ n ∈ g.nodes, n.kind.isCondition = true → n.flags.Keyed
  flags : ∀ n ∈ g.nodes, n.kind.isCondition = true →
    n.flags.has "if" = false ∧ n.flags.has "else" = false ∧ n.flags.has "default" = false

/-- A graph in which the payload of each node is taken for what it is. -/
structure Told (g : Graph) : Prop where
  named : ∀ n ∈ g.nodes, n.kind.isCondition = true → n.data.has "condition" = true
  unblocked : ∀ n ∈ g.nodes, n.kind.isCondition = true →
    n.data.has "if" = false ∧ n.data.has "choose" = false
  step : ∀ n ∈ g.nodes, n.kind.isTrigger = false → n.kind.isCondition = false →
    Entry.kind n.data = .step n.kind
  distinct : ∀ n ∈ g.nodes, n.kind.isCondition = true →
    n.flags.Distinct ∧ n.flags.has "if" = false

/-- A graph in which besides all that a reader finds of a condition is what it finds again. -/
structure Apparent (g : Graph) : Prop extends g.Told where
  /-- a group that is written as a list stands in full -/
  whole : ∀ n ∈ g.nodes, n.kind.isCondition = true → (n.data.get "condition").isText "and" = true →
    (n.data.get "conditions").expose = n.data.get "conditions"
  flags : ∀ n ∈ g.nodes, n.kind.isCondition = true → Block.AreFlags n.flags

/-- Only an action that is no trigger and no condition is looked into, and such a step is renewed. -/
theorem Normal.ends {limits : Limits} {g : Graph} (h : g.Normal limits) {n : Node}
    (hn : n ∈ g.nodes) : Entry.isEndlessStep n.kind n.data = false := by
  by_cases haction : n.kind = .action
  · obtain ⟨data, notices, hrenewed, -⟩ := h.modern n hn (by rw [haction]; rfl)
      (by rw [haction]; rfl) { root := "actions" }
    rw [← Entry.isEndlessStep_apart]
    exact (Entry.renewStep_eq_ok_iff.1 hrenewed).1
  · exact Entry.isEndlessStep_of_ne haction

theorem Normal.legible {limits : Limits} {g : Graph} (h : g.Normal limits) : g.Legible limits where
  __ := h
  ends := fun n hn => h.ends hn
  keyed := fun n hn hcondition => h.keyed_flags hn hcondition
  flags := fun n hn hcondition =>
    have hflags := h.flags n hn hcondition
    ⟨hflags.has_eq_false (by decide), hflags.has_eq_false (by decide), hflags.has_eq_false (by decide)⟩

end Graph

/-! ## Entries of nodes -/

/-- What a reader makes of a condition has a kind, and so has anything that is the same. -/
theorem Condition.IsNormal.has_condition {limits : Limits} {data : Entries}
    (h : Condition.IsNormal limits data) : data.has "condition" = true := by
  obtain ⟨es, hes, hsame⟩ := h
  obtain ⟨⟨kind, options, parts⟩, -, rfl⟩ := Condition.exists_of_normalize_eq_ok hes
  unfold Value.ofEntries at hsame
  rw [Value.same, Bool.and_eq_true, Condition.toEntries, List.cons_append, Value.entriesIn,
    Bool.and_eq_true, List.any_eq_true] at hsame
  obtain ⟨-, ⟨e, he, hmatch⟩, -⟩ := hsame
  rw [Bool.and_eq_true, ← Value.agrees, Value.str_agrees] at hmatch
  exact List.any_eq_true.2 ⟨e, he, hmatch.1⟩

theorem Graph.Legible.told {limits : Limits} {g : Graph} (h : g.Legible limits) : g.Told where
  named := fun n hn hcondition => (h.normal n hn hcondition).has_condition
  unblocked := h.unblocked
  step := h.step
  distinct := fun n hn hcondition => ⟨h.distinct n hn, (h.flags n hn hcondition).1⟩

theorem Graph.Normal.apparent {limits : Limits} {g : Graph} (h : g.Normal limits) : g.Apparent where
  __ := h.legible.told
  whole := fun n hn hcondition =>
    (h.normal n hn hcondition).isFixed.expose_conditions (h.once n hn)
  flags := h.flags

namespace Block

open Program

variable {limits : Limits} {g : Graph} {n : Node}

/-- A step is written as what it is. -/
theorem kind_data (hg : g.Told) (hn : n ∈ g.nodes) (htrigger : n.kind.isTrigger = false) :
    Entry.kind n.data = if n.kind.isCondition then .gate else .step n.kind := by
  cases hcondition : n.kind.isCondition with
  | true =>
    obtain ⟨hif, hchoose⟩ := hg.unblocked n hn hcondition
    exact Entry.kind_of_has_condition hif hchoose (hg.named n hn hcondition)
  | false => exact hg.step n hn htrigger hcondition

end Block

/-- What a reader makes of a node that was written, under a name of its own. -/
inductive Node.Rereads (limits : Limits) : Node → Node → Prop where
  | trigger {n : Node} {id : String} (htrigger : n.kind.isTrigger = true) :
    Rereads limits { id, kind := .trigger, data := n.data } n
  | condition {n : Node} {id : String} {data flags : Entries} {label : Value}
    (hcondition : n.kind.isCondition = true)
    (hdata : Condition.normalize limits (.ofEntries n.data) = .ok data)
    (hlabel : label = n.label.ifTruthy.getD .null) (hflags : flags = Entry.flagsOf n.flags) :
    Rereads limits { id, kind := .condition, data, label, flags } n
  | step {n : Node} {id : String} {data : Entries} (place : Place)
    (htrigger : n.kind.isTrigger = false) (hcondition : n.kind.isCondition = false)
    (hdata : data = (Entry.modernStep n.kind place (Entry.apart n.kind place n.data)).1) :
    Rereads limits { id, kind := n.kind, data } n

namespace Block

open Program

variable {limits : Limits} {g : Graph} {n : Node}

/-- A condition that nothing is found of but its payload. -/
theorem rereads_bare (hcondition : n.kind.isCondition = true) (hplain : n.label.truthy = false)
    (hflags : n.flags = []) {data : Entries}
    (hdata : Condition.normalize limits (.ofEntries n.data) = .ok data) (created : List NodeKind) :
    (fresh created .condition data .null []).Rereads limits n := by
  refine .condition hcondition hdata ?_ ?_
  · rw [Value.ifTruthy, hplain]
    rfl
  · rw [hflags]
    rfl

/-- A mapping of its own is read as its entries. -/
theorem eq_of_expose {es read : Entries} {o : Origin} (h : (Value.ofEntries es).expose = .map o read) :
    read = es := by
  cases h
  rfl

/-- A step is read by itself. -/
theorem rereads_step (hg : g.Told) (hn : n ∈ g.nodes)
    (htrigger : n.kind.isTrigger = false) (hshaped : Shaped (.step n)) {levels : Nat}
    {place : Place} {created after : List NodeKind} {b : Block}
    (h : EntryRead limits levels place (.ofEntries n.data) created b after) :
    Alike (Node.Rereads limits) b (.step n) := by
  have hkind := kind_data hg hn htrigger
  cases h with
  | step hentry hread =>
    rw [eq_of_expose hentry, hkind] at hread
    cases hcondition : n.kind.isCondition with
    | true =>
      rw [hcondition] at hread
      cases hread
    | false =>
      rw [hcondition] at hread
      cases hread
      rw [eq_of_expose hentry]
      exact .step (.step place htrigger hcondition rfl)
  | gate hentry hread hdata =>
    rw [eq_of_expose hentry, hkind] at hread
    cases hcondition : n.kind.isCondition with
    | false =>
      rw [hcondition] at hread
      cases hread
    | true =>
      obtain ⟨hplain, hflags⟩ := hshaped hcondition
      exact .step (rereads_bare hcondition hplain hflags hdata created)
  | ifBlock hentry hread =>
    rw [eq_of_expose hentry, hkind] at hread
    split at hread <;> cases hread
  | chooseBlock hentry hread =>
    rw [eq_of_expose hentry, hkind] at hread
    split at hread <;> cases hread

/-! ## Entries of blocks -/

theorem toEntries_choice_singleton (n : Node) (body otherwise : List Block) :
    toEntries (.choice [(n, body)] otherwise)
      = ifEntry n (listValues body) (listValues otherwise) := by
  rw [toEntries]
  rfl

theorem toEntries_choice_cons_cons (o o' : Node × List Block) (rest : List (Node × List Block))
    (otherwise : List Block) :
    toEntries (.choice (o :: o' :: rest) otherwise) = chooseEntry o.1.flags
      ((o :: o' :: rest).map fun o => .ofEntries (optionEntry o.1 (listValues o.2)))
      (listValues otherwise) := by
  have hvalues (options : List (Node × List Block)) :
      ((options.zip (bodyValues options)).map fun o => Value.ofEntries (optionEntry o.1.1 o.2))
        = options.map fun o => .ofEntries (optionEntry o.1 (listValues o.2)) := by
    rw [bodyValues_eq_map, List.zip, List.zipWith_map_right, List.zipWith_self, List.map_map]
    rfl
  rw [toEntries, hvalues]
  · rfl
  · exact fun n body h => by cases h

theorem kind_ifEntry (n : Node) (whenTrue whenFalse : List Value) :
    Entry.kind (ifEntry n whenTrue whenFalse) = .ifBlock :=
  Entry.kind_of_has_if (Entries.has_of_get?_eq_some get?_ifEntry_if)

theorem kind_chooseEntry {flags : Entries} (hdistinct : flags.Distinct) (hif : flags.has "if" = false)
    (options otherwise : List Value) :
    Entry.kind (chooseEntry flags options otherwise) = .chooseBlock := by
  refine Entry.kind_of_has_choose ?_ (Entries.has_of_get?_eq_some get?_chooseEntry_choose)
  rw [← Entries.get?_eq_none_iff, get?_chooseEntry_of_ne hdistinct (by decide) (by decide),
    Entries.get?_eq_none_iff, hif]

/-- The conditions of a node are read as the condition that they were. -/
theorem normalize_of_payload (hg : g.Apparent) (hn : n ∈ g.nodes)
    (hcondition : n.kind.isCondition = true) {data : Entries}
    (h : Condition.payload limits (conditionsOf n) = .ok data) :
    Condition.normalize limits (.ofEntries n.data) = .ok data := by
  rwa [Condition.payload_conditionsOf (hg.whole n hn hcondition)] at h

/-- Nodes of a body: those of the graph that are no triggers. -/
def Inside (g : Graph) (ns : List Node) : Prop := ∀ n ∈ ns, n ∈ g.nodes ∧ n.kind.isTrigger = false

theorem Inside.of_append {xs ys : List Node} (h : Inside g (xs ++ ys)) :
    Inside g xs ∧ Inside g ys :=
  ⟨fun n hn => h n (List.mem_append_left _ hn), fun n hn => h n (List.mem_append_right _ hn)⟩

/-- A choice is written as an if block when it has one option, and else as a choose block. -/
theorem toEntries_choice (hg : g.Told) {options : List (Node × List Block)}
    {otherwise : List Block} (hshaped : Shaped (.choice options otherwise))
    (hnodes : Inside g (Block.nodes (.choice options otherwise))) :
    (Entry.kind (toEntries (.choice options otherwise)) = .ifBlock
        ∧ ∃ n body, options = [(n, body)])
      ∨ (Entry.kind (toEntries (.choice options otherwise)) = .chooseBlock
        ∧ ∃ o rest, options = o :: rest ∧ o.1 ∈ g.nodes ∧ o.1.kind.isCondition = true
          ∧ toEntries (.choice options otherwise) = chooseEntry o.1.flags
            (options.map fun o => .ofEntries (optionEntry o.1 (listValues o.2)))
            (listValues otherwise)) := by
  match options, hshaped, hnodes with
  | [], hshaped, _ => exact absurd rfl hshaped.1.2
  | [(n, body)], _, _ =>
    rw [toEntries_choice_singleton]
    exact .inl ⟨kind_ifEntry .., n, body, rfl⟩
  | (n, body) :: o' :: rest, hshaped, hnodes =>
    obtain ⟨hn, -⟩ := hnodes n List.mem_cons_self
    have hcondition : n.kind.isCondition = true := hshaped.2.1.1
    rw [toEntries_choice_cons_cons]
    obtain ⟨hdistinct, hif⟩ := hg.distinct n hn hcondition
    exact .inr ⟨kind_chooseEntry hdistinct hif _ _,
      (n, body), o' :: rest, rfl, hn, hcondition, rfl⟩

mutual
/-- The entry of a block is read as a block of its shape. -/
theorem rereads_of_entryRead (hg : g.Apparent) {levels : Nat} {place : Place} {entry : Value}
    {created after : List NodeKind} {read : Block} :
    EntryRead limits levels place entry created read after → ∀ {b : Block},
    entry = .ofEntries (toEntries b) → Shaped b → Inside g b.nodes →
    Alike (Node.Rereads limits) read b
  | h, .step n, hb, hshaped, hnodes => by
    obtain ⟨hn, htrigger⟩ := hnodes n (List.mem_singleton.2 rfl)
    exact rereads_step hg.toTold hn htrigger hshaped (hb ▸ h)
  -- a choice is written as an if block or a choose block, and read as neither a step nor a gate
  | .step hentry hkind _, .choice options otherwise, hb, hshaped, hnodes => by
    subst hb
    rw [eq_of_expose hentry] at hkind
    rcases toEntries_choice hg.toTold hshaped hnodes with ⟨h, -⟩ | ⟨h, -⟩ <;> rw [hkind] at h <;> cases h
  | .gate hentry hkind hdata, .choice options otherwise, hb, hshaped, hnodes => by
    subst hb
    rw [eq_of_expose hentry] at hkind
    rcases toEntries_choice hg.toTold hshaped hnodes with ⟨h, -⟩ | ⟨h, -⟩ <;> rw [hkind] at h <;> cases h
  | .ifBlock hentry hkind hdata hthen helse, .choice options otherwise, hb, hshaped, hnodes => by
    subst hb
    rw [eq_of_expose hentry] at hkind
    rcases toEntries_choice hg.toTold hshaped hnodes with ⟨-, n, body, rfl⟩ | ⟨h, -⟩
    · obtain ⟨-, ⟨hcondition, hbody, -⟩, hotherwise⟩ := hshaped
      obtain ⟨hfront, hlast⟩ := Inside.of_append hnodes
      obtain ⟨hn, -⟩ := hfront n List.mem_cons_self
      rw [toEntries_choice_singleton] at hentry
      obtain rfl := eq_of_expose hentry
      have hflags := hg.flags n hn hcondition
      rw [Entries.get, get?_ifEntry_if] at hdata
      rw [Entries.get, get?_ifEntry_then] at hthen
      have hnode := normalize_of_payload hg hn hcondition hdata
      refine .choice (.cons (.condition hcondition hnode
            (get_ifEntry_alias (hflags.has_eq_false (by decide)))
            (flagsOf_ifEntry (hg.distinct n hn hcondition).1))
          (rereads_of_listRead hg hthen rfl hbody ?_) .nil)
        (rereads_of_listRead hg helse (entriesOf_get_ifEntry_else
          (hflags.has_eq_false (by decide))) hotherwise hlast)
      exact fun m hm => hfront m (List.mem_cons_of_mem _ (List.mem_append_left _ hm))
    · rw [hkind] at h
      cases h
  | .chooseBlock hentry hkind hoptions hdefault, .choice options otherwise, hb, hshaped, hnodes => by
    subst hb
    rw [eq_of_expose hentry] at hkind
    rcases toEntries_choice hg.toTold hshaped hnodes with ⟨h, -⟩ | ⟨-, o, rest, rfl, ho, hcondition, htext⟩
    · rw [hkind] at h
      cases h
    · rw [htext] at hentry
      obtain rfl := eq_of_expose hentry
      obtain ⟨⟨htail, -⟩, hbranches, hotherwise⟩ := hshaped
      obtain ⟨hfront, hlast⟩ := Inside.of_append hnodes
      have hflags := hg.flags o.1 ho hcondition
      rw [Entries.get, get?_chooseEntry_choose, flagsOf_chooseEntry (hg.distinct o.1 ho hcondition).1]
        at hoptions
      exact .choice (rereads_of_optionsRead hg hoptions rfl hbranches
          (fun o' ho' => by rw [← Option.some.inj ho']) htail hfront)
        (rereads_of_listRead hg hdefault (entriesOf_get_chooseEntry_default
          (hflags.has_eq_false (by decide))) hotherwise hlast)

theorem rereads_of_listRead (hg : g.Apparent) {levels : Nat} {place : Place} {i : Nat}
    {entries : List Value} {created after : List NodeKind} {read : List Block} :
    ListRead limits levels place i entries created read after → ∀ {bs : List Block},
    entries = listValues bs → ListShaped bs → Inside g (listNodes bs) →
    ListAlike (Node.Rereads limits) read bs
  | .nil, bs, hbs, hshaped, hnodes => by
    cases bs with
    | nil => exact .nil
    | cons b bs => cases hbs
  | .cons hentry hrest, bs, hbs, hshaped, hnodes => by
    cases bs with
    | nil => cases hbs
    | cons b bs =>
      obtain ⟨rfl, rfl⟩ := List.cons.inj hbs
      obtain ⟨hfirst, hothers⟩ := Inside.of_append hnodes
      exact .cons (rereads_of_entryRead hg hentry rfl hshaped.1 hfirst)
        (rereads_of_listRead hg hrest rfl hshaped.2 hothers)

theorem rereads_of_optionsRead (hg : g.Apparent) {levels : Nat} {place : Place} {i : Nat}
    {flags : Entries} {options : List Value} {created after : List NodeKind}
    {read : List (Node × List Block)} :
    OptionsRead limits levels place i flags options created read after →
    ∀ {os : List (Node × List Block)},
    options = os.map (fun o => .ofEntries (optionEntry o.1 (listValues o.2))) → OptionsShaped os →
    (∀ o ∈ os.head?, flags = Entry.flagsOf o.1.flags) →
    (∀ o ∈ os.tail, o.1.flags = []) → Inside g (optionNodes os) →
    OptionsAlike (Node.Rereads limits) read os
  | .nil, os, hos, hshaped, hhead, htail, hnodes => by
    cases os with
    | nil => exact .nil
    | cons o os => cases hos
  | .cons hoption hhas hdata hbody hrest, os, hos, hshaped, hhead, htail, hnodes => by
    cases os with
    | nil => cases hos
    | cons o os =>
      obtain ⟨n, body⟩ := o
      obtain ⟨rfl, rfl⟩ := List.cons.inj hos
      obtain ⟨hcondition, hinner, hothers⟩ := hshaped
      obtain ⟨hn, -⟩ := hnodes n List.mem_cons_self
      rw [optionNodes, List.cons_append] at hnodes
      obtain ⟨hfront, hlast⟩ := Inside.of_append fun m hm => hnodes m (List.mem_cons_of_mem _ hm)
      obtain rfl := eq_of_expose hoption
      -- the fields of the entry are those that the option was written with
      rw [Entries.get, get?_optionEntry (by decide)] at hdata hbody
      have hnode := normalize_of_payload hg hn hcondition hdata
      refine .cons (.condition hcondition hnode (get_optionEntry_alias n _) (hhead _ rfl))
        (rereads_of_listRead hg hbody rfl hinner hfront)
        (rereads_of_optionsRead hg hrest rfl hothers (fun o ho => ?_)
          (fun o ho => htail o (List.mem_of_mem_tail ho)) hlast)
      -- the first of the rest has no flags, as none but the head has
      rw [htail o (List.mem_of_mem_head? ho)]
      rfl
end

/-- Conditions of a section are read as gates. -/
theorem rereads_gates {gates : List Node} (hgates : ∀ n ∈ gates, g.isGate n = true)
    {tests : List Entries}
    (h : (payloads gates).mapM (Condition.normalize limits) = .ok tests)
    (created : List NodeKind) :
    List.Forall₂ (Node.Rereads limits) (freshNodes .condition created tests) gates := by
  induction gates generalizing tests created with
  | nil =>
    cases h
    exact .nil
  | cons n gates ih =>
    obtain ⟨hgate, hrest⟩ := List.forall_mem_cons.1 hgates
    rw [payloads, List.map_cons, List.mapM_cons] at h
    obtain ⟨data, hdata, h⟩ := Outcome.bind_eq_ok.1 h
    obtain ⟨datas, hdatas, h⟩ := Outcome.bind_eq_ok.1 h
    cases h
    obtain ⟨hcondition, -, hplain, hflags⟩ := Graph.isGate_iff.1 hgate
    exact .cons (rereads_bare hcondition hplain hflags hdata created) (ih hrest hdatas _)

/-- Triggers are read as themselves. -/
theorem rereads_triggers {triggers : List Node}
    (htriggers : ∀ n ∈ triggers, n.kind.isTrigger = true) (created : List NodeKind) :
    List.Forall₂ (Node.Rereads limits) (freshNodes .trigger created (triggers.map (·.data)))
      triggers := by
  induction triggers generalizing created with
  | nil => exact .nil
  | cons n triggers ih =>
    obtain ⟨htrigger, hrest⟩ := List.forall_mem_cons.1 htriggers
    exact .cons (.trigger htrigger) (ih hrest _)

/-- What a reader makes of a node of a normal graph is the node, under another name. -/
theorem matches_of_rereads (hg : g.Normal limits) (hn : n ∈ g.nodes) {m : Node}
    (h : m.Rereads limits n) : m.Matches n := by
  cases h with
  | trigger htrigger =>
    have hkind := NodeKind.isTrigger_iff.1 htrigger
    obtain ⟨hlabel, hflags⟩ := hg.bare n hn (by rw [hkind]; rfl)
    refine ⟨rfl, hkind.symm, hlabel.symm, Value.same_ofEntries_self _, ?_⟩
    rw [hflags]
    rfl
  | condition hcondition hdata hlabel hflags =>
    subst hlabel hflags
    obtain ⟨es, hes, hsame⟩ := hg.normal n hn hcondition
    rw [hdata] at hes
    cases hes
    exact ⟨rfl, (NodeKind.isCondition_iff.1 hcondition).symm, (hg.label n hn hcondition).getD_ifTruthy, hsame,
      Value.same_ofEntries_of_perm
        (Entry.perm_flagsOf (hg.distinct n hn) (hg.flags n hn hcondition))⟩
  | step place htrigger hcondition hdata =>
    subst hdata
    obtain ⟨hlabel, hflags⟩ := hg.bare n hn hcondition
    -- with present names only, what is read again is the payload
    obtain ⟨data, notices, hrenewed, hsame⟩ := hg.modern n hn htrigger hcondition place
    obtain ⟨-, heq⟩ := Entry.renewStep_eq_ok_iff.1 hrenewed
    refine ⟨rfl, rfl, hlabel.symm, ?_, ?_⟩
    · show (Value.ofEntries (Entry.modernStep n.kind place _).1).same _ = true
      rw [heq]
      exact hsame
    · rw [hflags]
      rfl

end Block

/-- The body of a program has no triggers: these come in front, and no node comes twice. -/
theorem Graph.Programmed.inside {g : Graph} {p : Program} (h : Graph.Programmed g p) :
    Block.Inside g (Block.listNodes p.body) := by
  intro n hn
  have hmem : n ∈ g.nodes := ((h.mem_iff n).1 (List.mem_append_right _ hn)).1
  refine ⟨hmem, ?_⟩
  by_contra htrigger
  have hfront : n ∈ p.triggers ++ p.gates := by
    refine List.mem_append_left _ ?_
    rw [h.triggers]
    exact List.mem_filter.2 ⟨hmem, by simpa using htrigger⟩
  have hnodup := h.nodup
  rw [Program.nodes, List.map_append] at hnodup
  exact (List.nodup_append'.1 hnodup).2.2 (List.mem_map_of_mem hfront) (List.mem_map_of_mem hn)

/-- The sections that a program is written as are read as a program of its shape. -/
theorem Graph.Programmed.rereads {limits : Limits} {g : Graph} {p q : Program}
    (h : Graph.Programmed g p) (hg : g.Apparent) {actions : List Entries}
    (hactions : p.actions = actions.map .ofEntries)
    (hread : Program.SectionsRead limits (p.triggers.map (·.data)) (Program.payloads p.gates) actions
      q) : q.Alike (Node.Rereads limits) p := by
  have htriggers : ∀ n ∈ p.triggers, n.kind.isTrigger = true := by
    rw [h.triggers]
    exact fun n hn => (List.mem_filter.1 hn).2
  obtain ⟨tests, htests, hgates⟩ := hread.gates
  obtain ⟨after, hbody⟩ := hread.body
  refine ⟨?_, ?_, ?_⟩
  · rw [hread.triggers]
    exact Block.rereads_triggers htriggers []
  · rw [hgates]
    exact Block.rereads_gates h.gates htests _
  · exact Block.rereads_of_listRead hg hbody hactions.symm h.shaped h.inside

/-- The sections that a program of a normal graph is written as are read as a program like it. -/
theorem Graph.Programmed.alike_of_sectionsRead {limits : Limits} {g : Graph} {p q : Program}
    (h : Graph.Programmed g p) (hg : g.Normal limits) {actions : List Entries}
    (hactions : p.actions = actions.map .ofEntries)
    (hread : Program.SectionsRead limits (p.triggers.map (·.data)) (Program.payloads p.gates) actions
      q) : q.Alike Node.Matches p :=
  (h.rereads hg.apparent hactions hread).imp_of_mem fun x hx hreads =>
    Block.matches_of_rereads hg ((h.mem_iff x.2).1 (List.of_mem_zip hx).2).1 hreads

end Automation
