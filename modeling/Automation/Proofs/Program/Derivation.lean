import Automation.Program.Reading
import Automation.Proofs.Entry
import Automation.Proofs.Outcome
import Automation.Proofs.Program.Reads

/-!
# What a reading makes of entries

A reading that succeeds, without its notices: a derivation of the blocks from the entries
(`Program.ListRead`), one rule for each kind of entry. Of the intake only the kinds of the nodes
created so far matter, which number the next node. Whatever `Program.readList` gives has a
derivation (`Program.listRead_of_readList`).
-/

namespace Automation

namespace Program

open Reads

/-- The node that a reading creates behind nodes of the given kinds. -/
def fresh (created : List NodeKind) (kind : NodeKind) (data : Entries) (label : Value)
    (flags : Entries) : Node :=
  { id := kind.toValue.plain ++ "_" ++ toString (created.countP kind.sameKnown + 1), kind, data,
    label, flags }

mutual
/-- A block that an entry at a place is read as, with some levels of blocks left. -/
inductive EntryRead (limits : Limits) :
    Nat → Place → Value → List NodeKind → Block → List NodeKind → Prop where
  | step {levels : Nat} {place : Place} {entry : Value} {o : Origin} {es : Entries}
    {kind : NodeKind} {created : List NodeKind}
    (hentry : entry.expose = .map o es) (hkind : Entry.kind es = .step kind)
    (hends : Entry.isEndlessStep kind es = false) :
    EntryRead limits levels place entry created
      (.step (fresh created kind (Entry.modernStep kind place (Entry.apart kind place es)).1 .null
        [])) (kind :: created)
  | gate {levels : Nat} {place : Place} {entry : Value} {o : Origin} {es data : Entries}
    {created : List NodeKind}
    (hentry : entry.expose = .map o es) (hkind : Entry.kind es = .gate)
    (hdata : Condition.normalize limits entry = .ok data) :
    EntryRead limits levels place entry created (.step (fresh created .condition data .null []))
      (.condition :: created)
  | ifBlock {levels : Nat} {place : Place} {entry : Value} {o : Origin} {es data : Entries}
    {created between after : List NodeKind} {whenTrue whenFalse : List Block}
    (hentry : entry.expose = .map o es) (hkind : Entry.kind es = .ifBlock)
    (hdata : Condition.payload limits (es.get "if") = .ok data)
    (hthen : ListRead limits levels (place.field "then") 0 (entriesOf (es.get "then"))
      (.condition :: created) whenTrue between)
    (helse : ListRead limits levels (place.field "else") 0 (entriesOf (es.get "else")) between
      whenFalse after) :
    EntryRead limits (levels + 1) place entry created
      (.choice [(fresh created .condition data (es.get "alias") (Entry.flagsOf es), whenTrue)]
        whenFalse) after
  | chooseBlock {levels : Nat} {place : Place} {entry : Value} {o : Origin} {es : Entries}
    {created between after : List NodeKind} {options : List (Node × List Block)}
    {otherwise : List Block}
    (hentry : entry.expose = .map o es) (hkind : Entry.kind es = .chooseBlock)
    (hoptions : OptionsRead limits levels (place.field "choose") 0 (Entry.flagsOf es)
      (entriesOf (es.get "choose")) created options between)
    (hdefault : ListRead limits levels (place.field "default") 0 (entriesOf (es.get "default"))
      between otherwise after) :
    EntryRead limits (levels + 1) place entry created (.choice options otherwise) after

/-- The blocks that entries are read as, which stand in a list at a place from a number on. -/
inductive ListRead (limits : Limits) :
    Nat → Place → Nat → List Value → List NodeKind → List Block → List NodeKind → Prop where
  | nil {levels : Nat} {place : Place} {i : Nat} {created : List NodeKind} :
    ListRead limits levels place i [] created [] created
  | cons {levels : Nat} {place : Place} {i : Nat} {entry : Value} {rest : List Value}
    {created between after : List NodeKind} {b : Block} {bs : List Block}
    (hentry : EntryRead limits levels (place.item i) entry created b between)
    (hrest : ListRead limits levels place (i + 1) rest between bs after) :
    ListRead limits levels place i (entry :: rest) created (b :: bs) after

/-- The options that those of a choose block are read as. The first has the given flags. -/
inductive OptionsRead (limits : Limits) : Nat → Place → Nat → Entries → List Value →
    List NodeKind → List (Node × List Block) → List NodeKind → Prop where
  | nil {levels : Nat} {place : Place} {i : Nat} {flags : Entries} {created : List NodeKind} :
    OptionsRead limits levels place i flags [] created [] created
  | cons {levels : Nat} {place : Place} {i : Nat} {flags : Entries} {option : Value} {o : Origin}
    {es data : Entries}
    {rest : List Value} {created between after : List NodeKind} {body : List Block}
    {options : List (Node × List Block)}
    (hoption : option.expose = .map o es) (hhas : es.has "conditions" = true)
    (hdata : Condition.payload limits (es.get "conditions") = .ok data)
    (hbody : ListRead limits levels ((place.item i).field "sequence") 0
      (entriesOf (es.get "sequence")) (.condition :: created) body between)
    (hrest : OptionsRead limits levels place (i + 1) [] rest between options after) :
    OptionsRead limits levels place i flags (option :: rest) created
      ((fresh created .condition data (es.get "alias") flags, body) :: options) after
end

/-- Nodes of one kind that are created in a row, with nothing but their payloads. -/
def freshNodes (kind : NodeKind) : List NodeKind → List Entries → List Node
  | _, [] => []
  | created, data :: rest =>
    fresh created kind data .null [] :: freshNodes kind (kind :: created) rest

/-- A program that the sections of a document are read as. -/
structure SectionsRead (limits : Limits) (triggers : List Entries) (conditions : List Value)
    (actions : List Entries) (p : Program) : Prop where
  triggers : p.triggers = freshNodes .trigger [] triggers
  gates : ∃ tests, conditions.mapM (Condition.normalize limits) = .ok tests
    ∧ p.gates = freshNodes .condition (p.triggers.map (·.kind)).reverse tests
  body : ∃ after, ListRead limits limits.maxNesting.toNat { root := "actions" } 0
    (actions.map .ofEntries) ((p.triggers ++ p.gates).map (·.kind)).reverse p.body after

/-! ## Readings that succeed -/

variable {limits : Limits} {s s' : Intake}

/-- A node that is created is the next one. -/
theorem of_create_eq_ok {kind : NodeKind} {data flags : Entries} {label : Value} {n : Node}
    (h : proceed (create limits kind data label flags) s = (.ok n, s')) :
    n = fresh s.created kind data label flags ∧ s'.created = kind :: s.created := by
  obtain ⟨t, _, hget, h⟩ := proceed_bind_eq_ok h
  cases hget
  dsimp only at h
  split at h
  · obtain ⟨_, _, htoo, -⟩ := proceed_bind_eq_ok h
    cases htoo
  · obtain ⟨_, _, hset, h⟩ := proceed_bind_eq_ok h
    cases hset
    cases h
    exact ⟨rfl, rfl⟩

theorem of_checkBudget_eq_ok {began options : Nat} {place : Place} {u : Unit}
    (h : proceed (checkBudget limits began options place) s = (.ok u, s')) : s' = s := by
  obtain ⟨_, _, hget, h⟩ := proceed_bind_eq_ok h
  cases hget
  dsimp only at h
  split at h
  · cases h
  · cases h
    rfl

/-- Nodes of one kind that are created in a row. -/
theorem of_mapM_create_eq_ok {α : Type} {kind : NodeKind} {f : α → Outcome Entries}
    {make : α → Reads Node}
    (hmake : ∀ x s n s', proceed (make x) s = (.ok n, s') → ∃ data, f x = .ok data
      ∧ n = fresh s.created kind data .null [] ∧ s'.created = kind :: s.created)
    {xs : List α} {ns : List Node} (h : proceed (xs.mapM make) s = (.ok ns, s')) :
    ∃ datas, xs.mapM f = .ok datas ∧ ns = freshNodes kind s.created datas
      ∧ s'.created = (ns.map (·.kind)).reverse ++ s.created := by
  induction xs generalizing s ns with
  | nil =>
    cases h
    exact ⟨[], rfl, rfl, rfl⟩
  | cons x xs ih =>
    rw [List.mapM_cons] at h
    obtain ⟨n, t, hn, h⟩ := proceed_bind_eq_ok h
    obtain ⟨rest, _, hrest, h⟩ := proceed_bind_eq_ok h
    cases h
    obtain ⟨data, hdata, rfl, hcreated⟩ := hmake x s n t hn
    obtain ⟨datas, hdatas, rfl, hafter⟩ := ih hrest
    -- what is created comes in front, so the kinds are in reverse
    refine ⟨data :: datas, ?_, ?_, ?_⟩
    · rw [List.mapM_cons, hdata, hdatas]
      rfl
    · rw [freshNodes, hcreated]
    · rw [hafter, hcreated, List.map_cons, List.reverse_cons, List.append_assoc]
      rfl

/-- Entries that are read one after the other. -/
theorem listRead_of_mapM (levels : Nat) {place : Place} {f : Value × Nat → Reads Block}
    (hf : ∀ entry s b s', proceed (f entry) s = (.ok b, s') →
      EntryRead limits levels (place.item entry.2) entry.1 s.created b s'.created)
    {entries : List Value} {i : Nat} {bs : List Block}
    (h : proceed ((entries.zipIdx i).mapM f) s = (.ok bs, s')) :
    ListRead limits levels place i entries s.created bs s'.created := by
  induction entries generalizing i s bs with
  | nil =>
    cases h
    exact .nil
  | cons entry entries ih =>
    rw [List.zipIdx_cons, List.mapM_cons] at h
    obtain ⟨b, t, hb, h⟩ := proceed_bind_eq_ok h
    obtain ⟨rest, _, hrest, h⟩ := proceed_bind_eq_ok h
    cases h
    exact .cons (hf (entry, i) s b t hb) (ih hrest)

/-- Reads an option of a choose block and checks the budget of the block behind it. -/
def readChecked (limits : Limits) (inner : Inner) (es : Entries) (place : Place)
    (began count : Nat) (option : Value × Nat) : Reads (Node × List Block) := do
  let flags := if option.2 = 0 then Entry.flagsOf es else []
  let branch ← readOption limits inner flags option.1 ((place.field "choose").item option.2)
  checkBudget limits began count place
  return branch

theorem readChoose_eq (limits : Limits) (inner : Inner) (es : Entries) (place : Place) :
    readChoose limits inner es place = do
      noteExtraKeys es chooseKeys place
      let options := entriesOf (es.get "choose")
      let began := (← get).created.length
      let read ← options.zipIdx.mapM (readChecked limits inner es place began options.length)
      let otherwise ← inner (es.get "default") (place.field "default")
      checkBudget limits began options.length place
      return .choice read otherwise := rfl

section Inner

variable {levels : Nat} {inner : Inner}
  (hinner : ∀ v place s bs s', proceed (inner v place) s = (.ok bs, s') →
    ListRead limits levels place 0 (entriesOf v) s.created bs s'.created)

include hinner

theorem entryRead_of_readIf {entry : Value} {o : Origin} {es : Entries} {place : Place} {b : Block}
    (hentry : entry.expose = .map o es) (hkind : Entry.kind es = .ifBlock)
    (h : proceed (readIf limits inner es place) s = (.ok b, s')) :
    EntryRead limits (levels + 1) place entry s.created b s'.created := by
  obtain ⟨_, t, hnote, h⟩ := proceed_bind_eq_ok h
  have ht := of_proceed_note_eq_ok hnote
  obtain ⟨data, hdata, h⟩ := proceed_lift_bind_eq_ok h
  obtain ⟨node, u, hnode, h⟩ := proceed_bind_eq_ok h
  obtain ⟨rfl, hu⟩ := of_create_eq_ok hnode
  obtain ⟨whenTrue, v, htrue, h⟩ := proceed_bind_eq_ok h
  obtain ⟨whenFalse, w, hfalse, h⟩ := proceed_bind_eq_ok h
  cases h
  have hthen := hinner _ _ _ _ _ htrue
  have hcreated : t.created = s.created := by rw [ht]
  rw [hu, hcreated] at hthen
  rw [hcreated]
  exact .ifBlock hentry hkind hdata hthen (hinner _ _ _ _ _ hfalse)

/-- An option is read as a condition and what is behind it. -/
theorem of_readOption_eq_ok {flags : Entries} {option : Value} {place : Place}
    {branch : Node × List Block}
    (h : proceed (readOption limits inner flags option place) s = (.ok branch, s')) :
    ∃ (o : Origin) (es data : Entries) (body : List Block), option.expose = .map o es ∧ es.has "conditions" = true
      ∧ Condition.payload limits (es.get "conditions") = .ok data
      ∧ branch = (fresh s.created .condition data (es.get "alias") flags, body)
      ∧ ListRead limits levels (place.field "sequence") 0 (entriesOf (es.get "sequence"))
        (.condition :: s.created) body s'.created := by
  unfold readOption at h
  split at h
  · rename_i o es hoption
    dsimp only at h
    split at h
    · obtain ⟨_, t, hfail, -⟩ := proceed_bind_eq_ok h
      cases hfail
    -- the option has conditions, so its node is created before its body is read
    rename_i hhas
    obtain ⟨data, hdata, h⟩ := proceed_lift_bind_eq_ok h
    obtain ⟨node, u, hnode, h⟩ := proceed_bind_eq_ok h
    obtain ⟨rfl, hu⟩ := of_create_eq_ok hnode
    obtain ⟨body, _, hbody, h⟩ := proceed_bind_eq_ok h
    cases h
    have hread := hinner _ _ _ _ _ hbody
    rw [hu] at hread
    exact ⟨o, es, data, body, hoption, by simpa using hhas, hdata, rfl, hread⟩
  · cases h

/-- Options are read one after the other. Only the one at the front has the flags of the block. -/
theorem optionsRead_of_readChecked {es : Entries} {place : Place} {began count k : Nat}
    {options : List Value} {read : List (Node × List Block)}
    (h : proceed ((options.zipIdx k).mapM (readChecked limits inner es place began count)) s
      = (.ok read, s')) :
    OptionsRead limits levels (place.field "choose") k (if k = 0 then Entry.flagsOf es else [])
      options s.created read s'.created := by
  induction options generalizing k read s with
  | nil =>
    cases h
    exact .nil
  | cons option options ih =>
    rw [List.zipIdx_cons, List.mapM_cons] at h
    obtain ⟨branch, t, hbranch, h⟩ := proceed_bind_eq_ok h
    obtain ⟨_, u, hoption, hbranch⟩ := proceed_bind_eq_ok hbranch
    obtain ⟨_, v, hbudget, hbranch⟩ := proceed_bind_eq_ok hbranch
    -- checking the budget creates nothing
    cases of_checkBudget_eq_ok hbudget
    cases hbranch
    obtain ⟨rest, _, hrest, h⟩ := proceed_bind_eq_ok h
    cases h
    obtain ⟨o, es', data, body, hexpose, hhas, hdata, rfl, hbody⟩ :=
      of_readOption_eq_ok hinner hoption
    have hread := ih hrest
    rw [if_neg (Nat.succ_ne_zero k)] at hread
    exact .cons hexpose hhas hdata hbody hread

theorem entryRead_of_readChoose {entry : Value} {o : Origin} {es : Entries} {place : Place}
    {b : Block} (hentry : entry.expose = .map o es) (hkind : Entry.kind es = .chooseBlock)
    (h : proceed (readChoose limits inner es place) s = (.ok b, s')) :
    EntryRead limits (levels + 1) place entry s.created b s'.created := by
  rw [readChoose_eq] at h
  obtain ⟨_, t, hnote, h⟩ := proceed_bind_eq_ok h
  have ht := of_proceed_note_eq_ok hnote
  obtain ⟨_, _, hget, h⟩ := proceed_bind_eq_ok h
  cases hget
  obtain ⟨read, u, hread, h⟩ := proceed_bind_eq_ok h
  obtain ⟨otherwise, v, hotherwise, h⟩ := proceed_bind_eq_ok h
  obtain ⟨_, w, hbudget, h⟩ := proceed_bind_eq_ok h
  cases of_checkBudget_eq_ok hbudget
  cases h
  have hcreated : t.created = s.created := by rw [ht]
  have hbranches := optionsRead_of_readChecked hinner hread
  rw [if_pos rfl] at hbranches
  rw [← hcreated]
  exact .chooseBlock hentry hkind hbranches (hinner _ _ _ _ _ hotherwise)

end Inner

/-- An entry is read by the rule for its kind. -/
theorem entryRead_of_readEntry {levels : Nat} {inner? : Option Inner}
    (hinner : ∀ inner ∈ inner?, ∃ inside, levels = inside + 1
      ∧ ∀ v place s bs s', proceed (inner v place) s = (.ok bs, s') →
        ListRead limits inside place 0 (entriesOf v) s.created bs s'.created)
    {entry : Value} {place : Place} {b : Block}
    (h : proceed (readEntry limits inner? entry place) s = (.ok b, s')) :
    EntryRead limits levels place entry s.created b s'.created := by
  -- only blocks have entries inside, and need a level for them
  unfold readEntry at h
  split at h
  · rename_i o es hentry
    dsimp only at h
    split at h
    · rename_i hkind
      cases inner? with
      | none => cases h
      | some inner =>
        obtain ⟨inside, rfl, hinside⟩ := hinner inner rfl
        exact entryRead_of_readIf hinside hentry hkind h
    · rename_i hkind
      cases inner? with
      | none => cases h
      | some inner =>
        obtain ⟨inside, rfl, hinside⟩ := hinner inner rfl
        exact entryRead_of_readChoose hinside hentry hkind h
    · rename_i hkind
      obtain ⟨data, hdata, h⟩ := proceed_lift_bind_eq_ok h
      obtain ⟨node, t, hnode, h⟩ := proceed_bind_eq_ok h
      obtain ⟨rfl, ht⟩ := of_create_eq_ok hnode
      cases h
      rw [ht]
      exact .gate hentry hkind hdata
    · rename_i kind hkind
      obtain ⟨step, hstep, h⟩ := proceed_lift_bind_eq_ok h
      obtain ⟨hends, rfl⟩ := Entry.renewStep_eq_ok_iff.1 hstep
      obtain ⟨_, t, hnote, h⟩ := proceed_bind_eq_ok h
      have ht := of_proceed_note_eq_ok hnote
      obtain ⟨node, u, hnode, h⟩ := proceed_bind_eq_ok h
      obtain ⟨rfl, hu⟩ := of_create_eq_ok hnode
      cases h
      rw [hu, ht]
      rw [Entry.isEndlessStep_apart] at hends
      exact .step hentry hkind hends
  · cases h

/-- A list of entries is read by the rules for its entries. -/
theorem listRead_of_readList {levels : Nat} {entries : Value} {place : Place} {bs : List Block}
    (h : proceed (readList limits levels entries place) s = (.ok bs, s')) :
    ListRead limits levels place 0 (entriesOf entries) s.created bs s'.created := by
  induction levels generalizing entries place s bs s' with
  | zero =>
    exact listRead_of_mapM 0
      (fun _ _ _ _ h => entryRead_of_readEntry (fun _ hnone => by cases hnone) h) h
  | succ levels ih =>
    exact listRead_of_mapM (levels + 1)
      (fun _ _ _ _ h => entryRead_of_readEntry (fun inner hinner => ⟨levels, rfl, by
        cases hinner
        exact fun v place s bs s' h => ih h⟩) h) h

/-- The sections of a document are read in order. -/
theorem sectionsRead_of_read {triggers actions : List Entries} {conditions : List Value}
    {p : Program} (hs : s.created = [])
    (h : proceed (read limits triggers conditions actions) s = (.ok p, s')) :
    SectionsRead limits triggers conditions actions p := by
  obtain ⟨ts, t, htriggers, h⟩ := proceed_bind_eq_ok h
  obtain ⟨gs, u, hgates, h⟩ := proceed_bind_eq_ok h
  obtain ⟨body, v, hbody, h⟩ := proceed_bind_eq_ok h
  cases h
  obtain ⟨datas, hdatas, rfl, ht⟩ := of_mapM_create_eq_ok (f := .ok)
    (fun data s n s' h => ⟨data, rfl, of_create_eq_ok h⟩) htriggers
  obtain ⟨tests, htests, rfl, hu⟩ := of_mapM_create_eq_ok (f := Condition.normalize limits)
    (fun v s n s' h => by
      obtain ⟨data, hdata, h⟩ := proceed_lift_bind_eq_ok h
      exact ⟨data, hdata, of_create_eq_ok h⟩) hgates
  have hall : triggers.mapM (fun es => (.ok es : Outcome Entries)) = .ok (triggers.map id) :=
    Outcome.mapM_eq_ok_of_forall fun _ _ => rfl
  rw [hall, List.map_id] at hdatas
  cases hdatas
  rw [hs] at ht
  -- triggers are created first, then gates, and the body is counted on from both
  have hcreated : u.created = ((freshNodes .trigger [] triggers
      ++ freshNodes .condition t.created tests).map (·.kind)).reverse := by
    rw [hu, ht, List.map_append, List.reverse_append, List.append_nil]
  rw [List.append_nil] at ht
  have hread := listRead_of_readList hbody
  rw [hcreated] at hread
  refine ⟨by rw [hs], ⟨tests, htests, by rw [ht, hs]⟩, ⟨s'.created, ?_⟩⟩
  rw [hs]
  exact hread

end Program

end Automation
