import Automation.Proofs.Condition.Form
import Automation.Proofs.Program.Nesting
import Automation.Proofs.Program.Rereading

/-!
# Readings within bounds

Whether limits let a reading through is told from what is read. Entries that are read under some
limits are read under others, with the same result, when they fit into these (`Program.Fits`): no
block stands too deep, no choose block creates too many nodes, no condition is too large, and there
is room for all nodes. Otherwise the reading is refused as too large (`Program.bounded_readList`).

A reading checks the room whenever it creates a node, and the budget of a choose block behind each
of its options. Both counts only grow, so the last check decides for all.
-/

namespace Automation

open Reads Entry

/-! ## What fits -/

/-- Limits allow for the payload of a node, which is limited for conditions only. -/
def Node.Allowed (limits : Limits) (n : Node) : Prop :=
  n.kind.isCondition = true → ∀ depth size, Condition.Form n.data depth size →
    Condition.Allowed limits depth size

theorem Node.allowed_iff {limits : Limits} {n : Node} {depth size : Nat}
    (hkind : n.kind.isCondition = true) (hform : Condition.Form n.data depth size) :
    n.Allowed limits ↔ Condition.Allowed limits depth size := by
  refine ⟨fun h => h hkind depth size hform, fun h _ depth' size' hform' => ?_⟩
  obtain ⟨rfl, rfl⟩ := hform.unique hform'
  exact h

theorem Block.listNodes_eq_flatMap (bs : List Block) : listNodes bs = bs.flatMap nodes := by
  induction bs with
  | nil => rfl
  | cons b bs ih => rw [listNodes, ih, List.flatMap_cons]

namespace Program

/-- What limits ask of an entry that stands inside so many blocks, when so many may stand inside one
another. -/
structure Kept (limits : Limits) (levels depth : Nat) (entry : Value) : Prop where
  block : ∀ (o : Origin) (es : Entries), entry.expose = .map o es → isBlock es = true →
    depth < levels
  budget : ∀ (o : Origin) (es : Entries) (count : Nat), entry.expose = .map o es →
    Entry.kind es = .chooseBlock → Counts [entry] count →
    count ≤ chooseBudget limits (entriesOf (es.get "choose")).length

/-- Entries fit into limits, with the nodes that they create behind so many others. -/
structure Fits (limits : Limits) (levels : Nat) (entries : List Value) (nodes : List Node)
    (created : Nat) : Prop where
  kept : Throughout (Kept limits levels) entries
  allowed : ∀ n ∈ nodes, n.Allowed limits
  room : ((created + nodes.length : Nat) : Int) ≤ limits.maxGraphNodes

section Fits

variable {limits : Limits} {levels created : Nat} {xs ys : List Value} {ms ns : List Node}

theorem fits_nil : Fits limits levels [] [] created ↔ (created : Int) ≤ limits.maxGraphNodes :=
  ⟨fun h => h.room, fun h => ⟨throughout_nil, nofun, h⟩⟩

theorem fits_append : Fits limits levels (xs ++ ys) (ms ++ ns) created
    ↔ Fits limits levels xs ms created ∧ Fits limits levels ys ns (created + ms.length) := by
  constructor
  · rintro ⟨hentries, hnodes, hroom⟩
    obtain ⟨hxs, hys⟩ := throughout_append.1 hentries
    obtain ⟨hms, hns⟩ := List.forall_mem_append.1 hnodes
    rw [List.length_append] at hroom
    exact ⟨⟨hxs, hms, by omega⟩, ⟨hys, hns, by omega⟩⟩
  · rintro ⟨⟨hxs, hms, -⟩, ⟨hys, hns, hroom⟩⟩
    refine ⟨throughout_append.2 ⟨hxs, hys⟩, List.forall_mem_append.2 ⟨hms, hns⟩, ?_⟩
    rw [List.length_append]
    omega

theorem fits_congr (h : Throughout (Kept limits levels) xs ↔ Throughout (Kept limits levels) ys) :
    Fits limits levels xs ms created ↔ Fits limits levels ys ms created :=
  ⟨fun ⟨he, hn, hr⟩ => ⟨h.1 he, hn, hr⟩, fun ⟨he, hn, hr⟩ => ⟨h.2 he, hn, hr⟩⟩

variable {entry : Value} {o : Origin} {es : Entries} (hentry : entry.expose = .map o es)

theorem throughout_kept_succ : Throughout (Kept limits (levels + 1)) [entry]
    ↔ Kept limits (levels + 1) 0 entry ∧ Throughout (Kept limits levels) (held entry) := by
  rw [throughout_singleton]
  refine and_congr_right fun _ => throughout_congr fun depth entry => ?_
  exact ⟨fun h => ⟨fun o es he hb => Nat.lt_of_succ_lt_succ (h.block o es he hb), h.budget⟩,
    fun h => ⟨fun o es he hb => Nat.succ_lt_succ (h.block o es he hb), h.budget⟩⟩

include hentry

/-- An entry that is no block needs no more than room for its node. -/
theorem fits_of_isBlock (hblock : isBlock es = false) :
    Fits limits levels [entry] ms created ↔ Fits limits levels [] ms created := by
  refine fits_congr (iff_of_true (throughout_singleton.2 ⟨⟨?_, ?_⟩, ?_⟩) throughout_nil)
  · intro o' es' hentry' hblock'
    cases hentry.symm.trans hentry'
    rw [hblock] at hblock'
    cases hblock'
  · intro o' es' count hentry' hkind
    cases hentry.symm.trans hentry'
    rw [isBlock, hkind] at hblock
    cases hblock
  · rw [held_of_isBlock hentry hblock]
    exact throughout_nil

/-- A block does not fit where no level is left. -/
theorem not_fits_zero (hblock : isBlock es = true) : ¬Fits limits 0 [entry] ms created := fun h =>
  absurd ((throughout_singleton.1 h.kept).1.block o es hentry hblock) (Nat.not_lt_zero 0)

theorem fits_ifBlock (hkind : Entry.kind es = .ifBlock) :
    Fits limits (levels + 1) [entry] ms created ↔ Fits limits levels (held entry) ms created := by
  have hkept : Kept limits (levels + 1) 0 entry := by
    refine ⟨fun _ _ _ _ => Nat.succ_pos _, fun o' es' count hentry' hkind' => ?_⟩
    cases hentry.symm.trans hentry'
    cases hkind.symm.trans hkind'
  constructor
  · rintro ⟨hentries, hnodes, hroom⟩
    exact ⟨(throughout_kept_succ.1 hentries).2, hnodes, hroom⟩
  · rintro ⟨hentries, hnodes, hroom⟩
    exact ⟨throughout_kept_succ.2 ⟨hkept, hentries⟩, hnodes, hroom⟩

/-- A choose block fits where what it holds does, if it does not create too many nodes. -/
theorem fits_chooseBlock (hkind : Entry.kind es = .chooseBlock)
    (hcounts : Counts [entry] ms.length) : Fits limits (levels + 1) [entry] ms created
      ↔ Fits limits levels (held entry) ms created
        ∧ ms.length ≤ chooseBudget limits (entriesOf (es.get "choose")).length := by
  constructor
  · rintro ⟨hentries, hnodes, hroom⟩
    obtain ⟨hkept, hheld⟩ := throughout_kept_succ.1 hentries
    exact ⟨⟨hheld, hnodes, hroom⟩, hkept.budget o es _ hentry hkind hcounts⟩
  · rintro ⟨⟨hheld, hnodes, hroom⟩, hbudget⟩
    refine ⟨throughout_kept_succ.2 ⟨⟨fun _ _ _ _ => Nat.succ_pos _, ?_⟩, hheld⟩, hnodes, hroom⟩
    intro o' es' count hentry' _ hcount
    cases hentry.symm.trans hentry'
    rw [hcounts.unique hcount]
    exact hbudget

end Fits

/-! ## Readings that are bounded -/

/-- A reading with a result, which creates nodes for entries. Where there is room for what was
created before, it hinges on whether these fit. -/
structure Bounded {α : Type} (limits : Limits) (levels : Nat) (entries : List Value)
    (nodes : List Node) (r : Reads α) (s : Intake) (a : α) (s' : Intake) : Prop where
  created : s'.created.length = s.created.length + nodes.length
  hinges : s.created.length ≤ limits.maxGraphNodes →
    HingesOn r s (Fits limits levels entries nodes s.created.length) a s'

namespace Bounded

variable {α β : Type} {limits : Limits} {levels : Nat} {xs ys : List Value} {ms ns : List Node}
  {r : Reads α} {s t s' : Intake} {a : α} {b : β}

theorem pure (a : α) (s : Intake) : Bounded limits levels [] [] (Pure.pure a : Reads α) s a s where
  created := rfl
  hinges hroom := (HingesOn.ok rfl).congr (iff_of_true trivial (fits_nil.2 hroom))

/-- Other entries may be named that fit where these do. -/
theorem congr {levels' : Nat} (h : Bounded limits levels xs ms r s a s')
    (hfits : ∀ created, Fits limits levels' ys ms created ↔ Fits limits levels xs ms created) :
    Bounded limits levels' ys ms r s a s' where
  created := h.created
  hinges hroom := (h.hinges hroom).congr (hfits _).symm

/-- What is read one after the other fits together. -/
theorem append {f : α → Reads β} (h : Bounded limits levels xs ms r s a t)
    (hf : Bounded limits levels ys ns (f a) t b s') :
    Bounded limits levels (xs ++ ys) (ms ++ ns) (r >>= f) s b s' where
  created := by rw [hf.created, h.created, List.length_append, Nat.add_assoc]
  hinges hroom := by
    refine ((h.hinges hroom).bind fun hfits => hf.hinges ?_).congr ?_
    · rw [h.created]
      exact hfits.room
    · rw [fits_append, h.created]

theorem map (k : α → β) (h : Bounded limits levels xs ms r s a s') :
    Bounded limits levels xs ms (do return k (← r)) s (k a) s' := by
  simpa using h.append (f := fun a => Pure.pure (k a)) (pure (k a) s')

/-- What is read in a row fits together. -/
theorem mapM {f : β → Reads α} (f' : β → Reads α) (entries : β → List Value)
    (nodes : α → List Node)
    (hf : ∀ x s a s', proceed (f x) s = (.ok a, s') →
      Bounded limits levels (entries x) (nodes a) (f' x) s a s')
    {bs : List β} {as : List α} (h : proceed (bs.mapM f) s = (.ok as, s')) :
    Bounded limits levels (bs.flatMap entries) (as.flatMap nodes) (bs.mapM f') s as s' := by
  induction bs generalizing s as with
  | nil =>
    cases h
    exact pure [] s'
  | cons b bs ih =>
    rw [List.mapM_cons] at h ⊢
    obtain ⟨a, t, ha, h⟩ := proceed_bind_eq_ok h
    obtain ⟨rest, _, hrest, h⟩ := proceed_bind_eq_ok h
    cases h
    rw [List.flatMap_cons, List.flatMap_cons]
    exact (hf b s a t ha).append ((ih hrest).map fun rest => a :: rest)

/-- A first part that creates nothing. -/
theorem after {f : α → Reads β} (hr : proceed r s = (.ok a, t)) (ht : t.created = s.created)
    (hf : Bounded limits levels xs ms (f a) t b s') :
    Bounded limits levels xs ms (r >>= f) s b s' where
  created := by rw [hf.created, ht]
  hinges hroom := by
    rw [← ht] at hroom ⊢
    exact (hf.hinges hroom).after hr

end Bounded

variable {limits large : Limits} {levels : Nat} {s s' : Intake}

theorem proceed_create (limits : Limits) (kind : NodeKind) (data : Entries) (label : Value)
    (flags : Entries) (s : Intake) : proceed (create limits kind data label flags) s
      = if limits.maxGraphNodes ≤ s.created.length then
          (Outcome.tooLarge (.parsedNodes limits.maxGraphNodes), s)
        else (.ok (fresh s.created kind data label flags),
          { s with created := kind :: s.created }) := by
  unfold create
  simp only [proceed_bind, proceed_get, proceed_ite]
  split <;> rfl

theorem proceed_checkBudget (limits : Limits) (began options : Nat) (place : Place) (s : Intake) :
    proceed (checkBudget limits began options place) s
      = if chooseBudget limits options < (s.created.length - began : Nat) then
          (Outcome.tooLarge (.chooseBudget place options (s.created.length - began : Nat)
            (chooseBudget limits options) limits.chooseNodesPerOption), s)
        else (.ok (), s) := by
  unfold checkBudget
  simp only [proceed_bind, proceed_get, proceed_ite]
  split <;> rfl

/-- A node is created where there is room for it. -/
theorem hinges_create {kind : NodeKind} {data flags : Entries} {label : Value} {n : Node}
    (h : proceed (create large kind data label flags) s = (.ok n, s')) :
    HingesOn (create limits kind data label flags) s
      ((s.created.length + 1 : Nat) ≤ limits.maxGraphNodes) n s' := by
  rw [proceed_create] at h
  split at h
  · cases h
  cases h
  exact (HingesOn.ite (proceed_create ..)).congr (by omega)

theorem hinges_checkBudget (began options : Nat) (place : Place) (s : Intake) :
    HingesOn (checkBudget limits began options place) s
      ((s.created.length - began : Nat) ≤ chooseBudget limits options) () s :=
  (HingesOn.ite (proceed_checkBudget ..)).congr Int.not_lt

/-- A node that limits allow for is bounded by the room for it. -/
theorem bounded_create {kind : NodeKind} {data flags : Entries} {label : Value} {n : Node}
    (hkind : kind.isCondition = false)
    (h : proceed (create large kind data label flags) s = (.ok n, s')) :
    Bounded limits levels [] [n] (create limits kind data label flags) s n s' := by
  obtain ⟨rfl, hcreated⟩ := of_create_eq_ok h
  have hallowed : (fresh s.created kind data label flags).Allowed limits := fun hcondition => by
    cases hkind.symm.trans hcondition
  refine ⟨by rw [hcreated]; rfl, fun _ => (hinges_create h).congr ⟨fun hroom => ?_, Fits.room⟩⟩
  exact ⟨throughout_nil, List.forall_mem_singleton.2 hallowed, hroom⟩

/-- A condition is read, and a node created for it. -/
theorem bounded_condition {o : Limits → Outcome Entries} {flags : Entries} {label : Value}
    {n : Node}
    (ho : ∀ data, o large = .ok data → ∃ depth size, Condition.Form data depth size
      ∧ ∀ limits, (o limits).HingesOn (Condition.Allowed limits depth size) data)
    (h : proceed (do create large .condition (← lift (o large)) label flags) s = (.ok n, s')) :
    Bounded limits levels [] [n]
      (do create limits .condition (← lift (o limits)) label flags) s n s' := by
  obtain ⟨data, hdata, h⟩ := proceed_lift_bind_eq_ok h
  obtain ⟨depth, size, hform, hhinges⟩ := ho data hdata
  obtain ⟨rfl, hcreated⟩ := of_create_eq_ok h
  have hallowed : (fresh s.created .condition data label flags).Allowed limits
      ↔ Condition.Allowed limits depth size := Node.allowed_iff rfl hform
  refine ⟨by rw [hcreated]; rfl, fun _ => ?_⟩
  -- first the payload has to be within the limits, then the node among the nodes
  refine ((HingesOn.lift (hhinges limits) s).bind
    (f := fun data => create limits .condition data label flags)
    fun _ => hinges_create h).congr ?_
  rw [← hallowed]
  constructor
  · rintro ⟨hnode, hroom⟩
    exact ⟨throughout_nil, List.forall_mem_singleton.2 hnode, hroom⟩
  · rintro ⟨-, hnodes, hroom⟩
    exact ⟨List.forall_mem_singleton.1 hnodes, hroom⟩

theorem bounded_payload {v label : Value} {flags : Entries} {n : Node}
    (h : proceed (do create large .condition (← lift (Condition.payload large v)) label flags) s
      = (.ok n, s')) : Bounded limits levels [] [n]
      (do create limits .condition (← lift (Condition.payload limits v)) label flags) s n s' :=
  bounded_condition (o := fun limits => Condition.payload limits v)
    (fun _ => Condition.hinges_payload) h

theorem bounded_normalize {v label : Value} {flags : Entries} {n : Node}
    (h : proceed (do create large .condition (← lift (Condition.normalize large v)) label flags) s
      = (.ok n, s')) : Bounded limits levels [] [n]
      (do create limits .condition (← lift (Condition.normalize limits v)) label flags) s n s' :=
  bounded_condition (o := fun limits => Condition.normalize limits v)
    (fun _ => Condition.hinges_normalize) h

section Blocks

variable {inner inner' : Inner} {es : Entries} {place : Place}
  (hinner : ∀ v place s bs s', proceed (inner v place) s = (.ok bs, s') →
    Bounded limits levels (entriesOf v) (Block.listNodes bs) (inner' v place) s bs s')

include hinner

/-- An if block creates a node and what its branches create. -/
theorem bounded_readIf {b : Block}
    (h : proceed (readIf large inner es place) s = (.ok b, s')) :
    Bounded limits levels (entriesOf (es.get "then") ++ entriesOf (es.get "else")) b.nodes
      (readIf limits inner' es place) s b s' := by
  unfold readIf at h ⊢
  obtain ⟨_, t, hnote, h⟩ := proceed_bind_eq_ok h
  refine .after hnote (by rw [of_proceed_note_eq_ok hnote]) ?_
  rw [← bind_assoc] at h ⊢
  obtain ⟨node, u, hnode, h⟩ := proceed_bind_eq_ok h
  obtain ⟨whenTrue, v, htrue, h⟩ := proceed_bind_eq_ok h
  obtain ⟨whenFalse, w, hfalse, h⟩ := proceed_bind_eq_ok h
  cases h
  have hnodes : (Block.choice [(node, whenTrue)] whenFalse).nodes
      = [node] ++ (Block.listNodes whenTrue ++ Block.listNodes whenFalse) := by
    simp [Block.nodes, Block.optionNodes]
  rw [hnodes, ← List.nil_append (_ ++ entriesOf (es.get "else"))]
  exact (bounded_payload hnode).append
    ((hinner _ _ _ _ _ htrue).append ((hinner _ _ _ _ _ hfalse).map _))

/-- An option creates a node and what it leads to. -/
theorem bounded_readOption {flags : Entries} {option : Value} {branch : Node × List Block}
    (h : proceed (readOption large inner flags option place) s = (.ok branch, s')) :
    Bounded limits levels (optionEntries option) (branch.1 :: Block.listNodes branch.2)
      (readOption limits inner' flags option place) s branch s' := by
  obtain ⟨o, es, hoption⟩ : ∃ (o : Origin) (es : Entries), option.expose = .map o es := by
    unfold readOption at h
    split at h
    · exact ⟨_, _, ‹_›⟩
    · cases h
  rw [optionEntries, hoption]
  unfold readOption at h ⊢
  rw [hoption] at h ⊢
  dsimp only at h ⊢
  split at h
  · obtain ⟨_, t, hfail, -⟩ := proceed_bind_eq_ok h
    cases hfail
  rename_i hhas
  rw [if_neg hhas]
  -- the condition is read and its node created in one step
  rw [← bind_assoc] at h ⊢
  obtain ⟨node, u, hnode, h⟩ := proceed_bind_eq_ok h
  obtain ⟨body, v, hbody, h⟩ := proceed_bind_eq_ok h
  cases h
  exact (bounded_payload hnode).append ((hinner _ _ _ _ _ hbody).map _)

/-- The check behind an option asks for no more nodes than the block may have so far. -/
theorem hinges_readChecked {es : Entries} {place : Place} {began count : Nat}
    {option : Value × Nat} {branch : Node × List Block}
    (h : proceed (readChecked large inner es place began count option) s = (.ok branch, s')) :
    s'.created.length = s.created.length + (branch.1 :: Block.listNodes branch.2).length
    ∧ (s.created.length ≤ limits.maxGraphNodes →
        HingesOn (readChecked limits inner' es place began count option) s
          (Fits limits levels (optionEntries option.1) (branch.1 :: Block.listNodes branch.2)
              s.created.length
            ∧ (s'.created.length - began : Nat) ≤ chooseBudget limits count) branch s') := by
  obtain ⟨_, t, hoption, h⟩ := proceed_bind_eq_ok h
  obtain ⟨_, u, hbudget, h⟩ := proceed_bind_eq_ok h
  cases of_checkBudget_eq_ok hbudget
  cases h
  have hbounded := bounded_readOption hinner hoption
  exact ⟨hbounded.created, fun hroom => (hbounded.hinges hroom).bind fun _ =>
    (hinges_checkBudget began count place s').map fun _ => branch⟩

/-- The options of a choose block are read within its budget when this is kept behind the last of
them. What the checks behind the others ask for besides is less. -/
theorem hinges_options {es : Entries} {place : Place} {began count : Nat}
    {options : List Value} {k : Nat} {read : List (Node × List Block)}
    (h : proceed ((options.zipIdx k).mapM (readChecked large inner es place began count)) s
      = (.ok read, s')) :
    s'.created.length = s.created.length + (Block.optionNodes read).length
    ∧ ∃ P : Prop,
        (s.created.length ≤ limits.maxGraphNodes → HingesOn
          ((options.zipIdx k).mapM (readChecked limits inner' es place began count)) s P read s')
        ∧ (P → Fits limits levels (options.map optionEntries).flatten (Block.optionNodes read)
          s.created.length)
        ∧ (Fits limits levels (options.map optionEntries).flatten (Block.optionNodes read)
            s.created.length
          → (s'.created.length - began : Nat) ≤ chooseBudget limits count → P) := by
  -- the induction is over the options, and `P` says what the checks behind them ask for
  induction options generalizing k s read with
  | nil =>
    cases h
    refine ⟨rfl, Fits limits levels [] [] s'.created.length, fun hroom => ?_, id, fun h _ => h⟩
    exact (HingesOn.ok rfl).congr (iff_of_true trivial (fits_nil.2 hroom))
  | cons option options ih =>
    rw [List.zipIdx_cons, List.mapM_cons] at h
    obtain ⟨branch, t, hbranch, h⟩ := proceed_bind_eq_ok h
    obtain ⟨rest, _, hrest, h⟩ := proceed_bind_eq_ok h
    cases h
    obtain ⟨hfront, hbranch⟩ := hinges_readChecked hinner hbranch
    obtain ⟨hcreated, P, hhinges, hfits, hneeds⟩ := ih hrest
    rw [hfront] at hcreated hfits hneeds
    refine ⟨?_, (Fits limits levels (optionEntries option) (branch.1 :: Block.listNodes branch.2)
      s.created.length ∧ (t.created.length - began : Nat) ≤ chooseBudget limits count) ∧ P,
      fun hroom => ?_, ?_, ?_⟩
    · rw [hcreated, Block.optionNodes, List.length_append, Nat.add_assoc]
    · rw [List.zipIdx_cons, List.mapM_cons]
      refine (hbranch hroom).bind fun hfits => (hhinges ?_).map fun rest => branch :: rest
      rw [hfront]
      exact hfits.1.room
    · rintro ⟨⟨hoption, -⟩, hP⟩
      exact fits_append.2 ⟨hoption, hfits hP⟩
    · -- there are no more nodes behind this option than behind the last one
      intro hboth hbudget
      obtain ⟨hoption, hoptions⟩ := fits_append.1 hboth
      exact ⟨⟨hoption, by omega⟩, hneeds hoptions hbudget⟩

/-- A choose block is read when its branches fit and it does not create too many nodes. -/
theorem hinges_readChoose {es : Entries} {place : Place} {b : Block}
    (h : proceed (readChoose large inner es place) s = (.ok b, s')) :
    s'.created.length = s.created.length + b.nodes.length
    ∧ (s.created.length ≤ limits.maxGraphNodes →
        HingesOn (readChoose limits inner' es place) s
          (Fits limits levels (((entriesOf (es.get "choose")).map optionEntries).flatten
              ++ entriesOf (es.get "default")) b.nodes s.created.length
            ∧ b.nodes.length ≤ chooseBudget limits (entriesOf (es.get "choose")).length) b s') := by
  -- the options are read first, then the default, and the budget is checked once more behind it
  rw [readChoose_eq] at h ⊢
  obtain ⟨_, t, hnote, h⟩ := proceed_bind_eq_ok h
  have ht : t.created = s.created := by rw [of_proceed_note_eq_ok hnote]
  obtain ⟨_, _, hget, h⟩ := proceed_bind_eq_ok h
  cases hget
  obtain ⟨read, u, hread, h⟩ := proceed_bind_eq_ok h
  obtain ⟨otherwise, v, hotherwise, h⟩ := proceed_bind_eq_ok h
  obtain ⟨_, w, hbudget, h⟩ := proceed_bind_eq_ok h
  cases of_checkBudget_eq_ok hbudget
  cases h
  obtain ⟨hcreated, P, hhinges, hfits, hneeds⟩ := hinges_options hinner hread
  have hdefault := hinner _ _ _ _ _ hotherwise
  have hnodes : (Block.choice read otherwise).nodes.length
      = s'.created.length - t.created.length := by
    rw [hdefault.created, hcreated, Block.nodes, List.length_append]
    omega
  rw [← ht]
  refine ⟨?_, fun hroom => .after hnote (.after rfl ?_)⟩
  · rw [hnodes, hdefault.created, hcreated]
    omega
  refine ((hhinges hroom).bind fun hP => ((hdefault.hinges ?_).bind fun _ =>
    (hinges_checkBudget _ _ place _).map fun _ => Block.choice read otherwise)).congr ?_
  · rw [hcreated]
    exact (hfits hP).room
  -- what the checks ask for is implied by the last one, as nodes are only added
  rw [Block.nodes] at hnodes ⊢
  rw [fits_append, hnodes, ← hcreated]
  constructor
  · rintro ⟨hP, hfitsDefault, hbudget⟩
    exact ⟨⟨hfits hP, hfitsDefault⟩, hbudget⟩
  · rintro ⟨⟨hoptions, hfitsDefault⟩, hbudget⟩
    refine ⟨hneeds hoptions ?_, hfitsDefault, hbudget⟩
    have hafter := hdefault.created
    omega

end Blocks

/-- A block is read where a level is left for it, and its branches with one level less. -/
theorem bounded_block {most levels : Nat} {entry : Value} {o : Origin} {es : Entries} {b : Block}
    {cause cause' : SizeCause} {r : Limits → Inner → Reads Block}
    (hentry : entry.expose = .map o es) (hblock : isBlock es = true)
    (hr : ∀ inside, most = inside + 1 →
      proceed (r large fun v place => readList large inside v place) s = (.ok b, s') →
      ∀ levels, Bounded limits (levels + 1) [entry] b.nodes
        (r limits fun v place => readList limits levels v place) s b s')
    (h : proceed (match innerOf large most with
      | some inner => r large inner
      | none => lift (Outcome.tooLarge cause)) s = (.ok b, s')) :
    Bounded limits levels [entry] b.nodes (match innerOf limits levels with
      | some inner => r limits inner
      | none => lift (Outcome.tooLarge cause')) s b s' := by
  cases most with
  | zero => cases h
  | succ inside =>
    cases levels with
    | zero =>
      -- the reading counted the nodes of a block that is refused here without being looked at
      refine ⟨(hr inside rfl h 0).created, fun _ => ⟨fun hfits => ?_, fun _ => ⟨cause', rfl⟩⟩⟩
      exact absurd hfits (not_fits_zero hentry hblock)
    | succ levels => exact hr inside rfl h levels

/-- An entry is read when it fits. -/
theorem bounded_readEntry {most : Nat} {entry : Value} {place : Place} {b : Block}
    (hinner : ∀ inside, most = inside + 1 → ∀ v place s bs s',
      proceed (readList large inside v place) s = (.ok bs, s') → ∀ levels,
      Bounded limits levels (entriesOf v) (Block.listNodes bs) (readList limits levels v place) s bs
        s')
    (h : proceed (readEntry large (innerOf large most) entry place) s = (.ok b, s'))
    (levels : Nat) : Bounded limits levels [entry] b.nodes
      (readEntry limits (innerOf limits levels) entry place) s b s' := by
  -- what an entry counts against the limits is told by its rule
  have hread : EntryRead large most place entry s.created b s'.created :=
    entryRead_of_readEntry (fun inner hmem => by
      cases most with
      | zero => cases hmem
      | succ inside =>
        cases hmem
        exact ⟨inside, rfl, fun _ _ _ _ _ => listRead_of_readList⟩) h
  -- the cases are the kinds of entries: if blocks, choose blocks, gates and steps
  unfold readEntry at h ⊢
  split at h
  case h_2 => cases h
  rename_i o es hentry
  dsimp only at h ⊢
  split at h
  case h_1 hkind =>
    refine bounded_block (r := fun limits inner => readIf limits inner es place) hentry
      (by rw [isBlock, hkind]) (fun inside hmost h levels => ?_) h
    have hbounded := bounded_readIf
      (fun v place s bs s' h => hinner inside hmost v place s bs s' h levels) h
    refine hbounded.congr fun _ => ?_
    rw [fits_ifBlock hentry hkind, held_of_ifBlock hentry hkind]
  case h_2 hkind =>
    refine bounded_block (r := fun limits inner => readChoose limits inner es place) hentry
      (by rw [isBlock, hkind]) (fun inside hmost h levels => ?_) h
    obtain ⟨hcreated, hhinges⟩ := hinges_readChoose
      (fun v place s bs s' h => hinner inside hmost v place s bs s' h levels) h
    refine ⟨hcreated, fun hroom => (hhinges hroom).congr ?_⟩
    rw [fits_chooseBlock hentry hkind hread.counts, held_of_chooseBlock hentry hkind]
  case h_3 hkind =>
    rw [← bind_assoc] at h ⊢
    obtain ⟨node, _, hnode, h⟩ := proceed_bind_eq_ok h
    cases h
    exact ((bounded_normalize hnode).map _).congr fun _ =>
      fits_of_isBlock hentry (by rw [isBlock, hkind])
  case h_4 kind hkind =>
    obtain ⟨_, hrenewed, h⟩ := proceed_lift_bind_eq_ok h
    obtain ⟨_, u, hnote, h⟩ := proceed_bind_eq_ok h
    obtain ⟨node, _, hnode, h⟩ := proceed_bind_eq_ok h
    cases h
    refine .after (by rw [proceed_lift, hrenewed]) rfl ?_
    refine .after hnote (by rw [of_proceed_note_eq_ok hnote]) ?_
    exact ((bounded_create (isCondition_of_kind hkind) hnode).map _).congr fun _ =>
      fits_of_isBlock hentry (by rw [isBlock, hkind])

/-- Entries are read when they fit. -/
theorem bounded_readList {most : Nat} {v : Value} {place : Place} {bs : List Block}
    (h : proceed (readList large most v place) s = (.ok bs, s')) (levels : Nat) :
    Bounded limits levels (entriesOf v) (Block.listNodes bs) (readList limits levels v place) s bs
      s' := by
  induction most using Nat.strong_induction_on generalizing v place s bs s' levels with
  | h most ih =>
    rw [readList_eq, readEach] at h ⊢
    have hbounded := Bounded.mapM
      (fun entry => readEntry limits (innerOf limits levels) entry.1 (place.item entry.2))
      (fun entry : Value × Nat => [entry.1]) Block.nodes
      (fun _ _ _ _ hentry => bounded_readEntry
        (fun inside hmost _ _ _ _ _ h => ih inside (by omega) h) hentry levels) h
    rwa [← List.map_eq_flatMap, List.zipIdx_map_fst, ← Block.listNodes_eq_flatMap] at hbounded

/-- The sections of a document are read when its actions and its conditions fit. -/
theorem hinges_read (limits : Limits) {triggers actions : List Entries} {conditions : List Value}
    {p : Program} (hsome : triggers ≠ [])
    (h : proceed (read large triggers conditions actions) s = (.ok p, s')) :
    HingesOn (read limits triggers conditions actions) s
      (Fits limits limits.maxNesting.toNat (actions.map .ofEntries) p.nodes s.created.length) p
      s' := by
  obtain ⟨ts, t, hts, h⟩ := proceed_bind_eq_ok h
  obtain ⟨gs, u, hgs, h⟩ := proceed_bind_eq_ok h
  obtain ⟨body, v, hbody, h⟩ := proceed_bind_eq_ok h
  cases h
  have htriggers : Bounded limits limits.maxNesting.toNat _ _ _ s ts t :=
    .mapM (fun data => create limits .trigger data .null []) (fun _ => []) (fun n => [n])
      (fun _ _ _ _ h => bounded_create rfl h) hts
  have hgates : Bounded limits limits.maxNesting.toNat _ _ _ t gs u :=
    .mapM (fun v => do create limits .condition (← lift (Condition.normalize limits v)) .null [])
      (fun _ => []) (fun n => [n]) (fun _ _ _ _ h => bounded_normalize h) hgs
  have hactions : Bounded limits limits.maxNesting.toNat _ _ _ u body s' :=
    bounded_readList hbody limits.maxNesting.toNat
  rw [List.flatMap_eq_nil_iff.2 (by simp), List.flatMap_singleton'] at htriggers hgates
  rw [show entriesOf (.ofItems (actions.map .ofEntries)) = actions.map .ofEntries from rfl]
    at hactions
  have hall : Bounded limits limits.maxNesting.toNat (actions.map .ofEntries)
      (ts ++ (gs ++ Block.listNodes body)) (read limits triggers conditions actions) s
      { triggers := ts, gates := gs, body } s' :=
    htriggers.append (hgates.append (hactions.map _))
  by_cases hroom : (s.created.length : Int) ≤ limits.maxGraphNodes
  · rw [nodes, List.append_assoc]
    exact hall.hinges hroom
  -- nothing fits any more, and the first trigger is refused already
  refine ⟨fun hfits => absurd hfits.room (by omega), fun _ => ?_⟩
  cases triggers with
  | nil => exact absurd rfl hsome
  | cons data triggers =>
    refine ⟨.parsedNodes limits.maxGraphNodes, ?_⟩
    have hfirst := proceed_create limits .trigger data .null [] s
    rw [if_pos (by omega)] at hfirst
    rw [read, proceed_bind, List.mapM_cons, proceed_bind, hfirst]
    rfl

end Program

end Automation
