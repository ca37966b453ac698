import Automation.Proofs.Condition.Fixed
import Automation.Proofs.Entry
import Automation.Proofs.Program.Native
import Automation.Proofs.Program.RoundTrip
import Mathlib.Algebra.Ring.Nat

/-!
# Entries that can be read

A program that was written keeps within the limits of a reader, up to two things that the walk over
the graph does not look at. It does not count the nodes of a choose block, which a reader does
(`Block.affordable`); and it goes down a level only for a branch in which something stands, where a
reader goes down for every choice (`Block.hollowAt`). When a program is right in both, its sections
are read, with as many nodes as were written (`Program.creates_read`).
-/

namespace Automation

/-! ## Blocks within limits -/

namespace Block

mutual
/-- Whether no choose block in a block has more nodes than a reader allows it. A choice with one
option is no choose block. -/
def affordable (limits : Limits) : Block → Bool
  | step _ => true
  | choice options otherwise =>
    (options.length == 1 || decide (((optionNodes options ++ listNodes otherwise).length : Int)
        ≤ Program.chooseBudget limits options.length))
      && optionsAffordable limits options && listAffordable limits otherwise
termination_by structural b => b

/-- Whether no choose block in a list of blocks has more nodes than a reader allows it. -/
def listAffordable (limits : Limits) : List Block → Bool
  | [] => true
  | b :: bs => affordable limits b && listAffordable limits bs
termination_by structural bs => bs

/-- Whether no choose block in the bodies of options has more nodes than a reader allows it. -/
def optionsAffordable (limits : Limits) : List (Node × List Block) → Bool
  | [] => true
  | (_, body) :: rest => listAffordable limits body && optionsAffordable limits rest
termination_by structural options => options
end

mutual
/-- Whether a choice that has nothing in its branches stands inside a number of other choices. -/
def hollowAt : Nat → Block → Bool
  | _, step _ => false
  | 0, choice options otherwise => options.all (·.2.isEmpty) && otherwise.isEmpty
  | levels + 1, choice options otherwise =>
    optionsHollowAt levels options || listHollowAt levels otherwise
termination_by structural _ b => b

/-- Whether such a choice stands in a list of blocks. -/
def listHollowAt (levels : Nat) : List Block → Bool
  | [] => false
  | b :: bs => hollowAt levels b || listHollowAt levels bs
termination_by structural bs => bs

/-- Whether such a choice stands in the bodies of options. -/
def optionsHollowAt (levels : Nat) : List (Node × List Block) → Bool
  | [] => false
  | (_, body) :: rest => listHollowAt levels body || optionsHollowAt levels rest
termination_by structural options => options
end

theorem optionsAffordable_eq_all (limits : Limits) (options : List (Node × List Block)) :
    optionsAffordable limits options = options.all fun o => listAffordable limits o.2 := by
  induction options with
  | nil => rfl
  | cons o options ih => rw [optionsAffordable, ih, List.all_cons]

theorem optionsHollowAt_eq_any (levels : Nat) (options : List (Node × List Block)) :
    optionsHollowAt levels options = options.any fun o => listHollowAt levels o.2 := by
  induction options with
  | nil => rfl
  | cons o options ih => rw [optionsHollowAt, ih, List.any_cons]

theorem optionsShaped_iff {options : List (Node × List Block)} :
    OptionsShaped options ↔ ∀ o ∈ options, o.1.kind.isCondition = true ∧ ListShaped o.2 := by
  induction options with
  | nil => simp [OptionsShaped]
  | cons o options ih => rw [OptionsShaped, ih, List.forall_mem_cons, and_assoc]

/-- The nodes of a branch are nodes of the block. -/
theorem mem_nodes_of_branch {b : Block} {branch : List Block} (hmem : branch ∈ b.branches) {n : Node}
    (hn : n ∈ listNodes branch) : n ∈ nodes b := by
  cases b with
  | step m => cases hmem
  | choice options otherwise =>
    rcases List.mem_append.1 hmem with hmem | hmem
    · obtain ⟨o, ho, rfl⟩ := List.mem_map.1 hmem
      exact List.mem_append_left _ (mem_optionNodes.2 ⟨o, ho, .inr hn⟩)
    · rw [List.mem_singleton.1 hmem] at hn
      exact List.mem_append_right _ hn

theorem optionsDepth_le_iff {levels : Nat} {options : List (Node × List Block)} :
    optionsDepth options ≤ levels ↔ ∀ o ∈ options, listDepth o.2 ≤ levels := by
  induction options with
  | nil => simp [optionsDepth]
  | cons o options ih => rw [optionsDepth, Nat.max_le, ih, List.forall_mem_cons]

end Block

namespace Graph

open Block

variable {limits : Limits} {g : Graph} {r : TopologyReport}

/-- With no levels left, a branch that is walked has nothing in it. -/
theorem eq_nil_of_lowerBranch {join target : Option String} {steps : Nat} {bs : List Block}
    (h : g.lowerBranch limits r join steps 0 target = .ok bs) : bs = [] := by
  cases target with
  | none =>
    cases h
    rfl
  | some target => cases h

/-- A choice that is not hollow fits into the levels that it is walked with, when walks with fewer
steps do. -/
theorem depth_le_of_lowerChoice {steps levels : Nat} {n : Node} {b : Block}
    (hwalks : ∀ {levels : Nat} {current stop : Option String} {bs : List Block},
      g.lowerFrom limits r stop steps levels current = .ok bs → listHollowAt levels bs = false →
      listDepth bs ≤ levels)
    (h : g.lowerChoice limits r steps levels n = .ok b) (hhollow : hollowAt levels b = false) :
    depth b ≤ levels := by
  obtain ⟨more, options, otherwise, -, hoptions, hotherwise, rfl⟩ := lowerChoice_eq_ok.1 h
  cases levels with
  | zero =>
    -- nothing could be walked, so the choice is hollow
    have hempty : hollowAt 0 (.choice options otherwise) = true := by
      rw [hollowAt, Bool.and_eq_true, List.all_eq_true, eq_nil_of_lowerBranch hotherwise]
      refine ⟨fun o ho => ?_, rfl⟩
      rw [eq_nil_of_lowerBranch (of_mem_lowerOptions hoptions ho).2]
      rfl
    rw [hempty] at hhollow
    cases hhollow
  | succ inside =>
    rw [hollowAt, Bool.or_eq_false_iff, optionsHollowAt_eq_any, List.any_eq_false] at hhollow
    -- a branch that leads nowhere has no blocks, and any other is walked with fewer steps
    have hbranch {join target : Option String} {branch : List Block}
        (hhollow : listHollowAt inside branch = false)
        (hbranch : g.lowerBranch limits r join steps (inside + 1) target = .ok branch) :
        listDepth branch ≤ inside := by
      cases target with
      | none =>
        cases hbranch
        exact Nat.zero_le _
      | some target => exact hwalks hbranch hhollow
    rw [depth]
    refine Nat.succ_le_succ (Nat.max_le.2 ⟨optionsDepth_le_iff.2 fun o ho => ?_, ?_⟩)
    · exact hbranch (by simpa using hhollow.1 o ho) (of_mem_lowerOptions hoptions ho).2
    · exact hbranch hhollow.2 hotherwise

/-- Blocks that a walk gives fit into the levels that it has, unless a choice with nothing in its
branches stands too deep. -/
theorem listDepth_le_of_lowerFrom {steps levels : Nat} {current stop : Option String}
    {bs : List Block} (h : g.lowerFrom limits r stop steps levels current = .ok bs)
    (hhollow : listHollowAt levels bs = false) : listDepth bs ≤ levels := by
  induction steps generalizing levels current stop bs with
  | zero =>
    cases h
    exact Nat.zero_le _
  | succ steps ih =>
    cases current with
    | none =>
      cases h
      exact Nat.zero_le _
    | some id =>
      obtain ⟨-, rfl⟩ | ⟨-, n, b, rest, -, rfl, -, hb, hrest, rfl⟩ := of_lowerFrom_succ_eq_ok h
      · exact Nat.zero_le _
      rw [listHollowAt, Bool.or_eq_false_iff] at hhollow
      refine Nat.max_le.2 ⟨?_, ih hrest hhollow.2⟩
      -- only a choice takes levels
      rw [lowerNode] at hb
      split at hb
      · exact depth_le_of_lowerChoice ih hb hhollow.1
      · cases hb
        exact Nat.zero_le _

/-- The body of a program fits into the levels of a reader, unless a choice with nothing in its
branches stands too deep. -/
theorem listDepth_le_of_program {p : Program} (h : g.program limits r = .ok p)
    (hhollow : listHollowAt limits.maxNesting.toNat p.body = false) :
    listDepth p.body ≤ limits.maxNesting.toNat := by
  obtain ⟨gates, start, body, -, -, hbody, rfl⟩ := program_eq_ok.1 h
  exact listDepth_le_of_lowerFrom hbody hhollow

end Graph

/-! ## Readings with room for their nodes -/

/-- The issues of a node can be told. -/
def Node.IsTold (limits : Limits) (n : Node) : Prop := ∃ issues, n.issues limits = .ok issues

/-- The issues of a node depend on its payload alone. -/
theorem Node.IsTold.of_eq {limits : Limits} {m n : Node} (h : n.IsTold limits)
    (hkind : m.kind = n.kind) (hdata : m.data = n.data) : m.IsTold limits := by
  unfold IsTold issues at h ⊢
  rwa [hkind, hdata]

/-- The issues of an action can be told when its name can be written, unless it is a good one. -/
theorem Node.isTold_action_iff {limits : Limits} {n : Node} (hkind : n.kind = .action) :
    n.IsTold limits ↔ ∀ action, n.data.get? "action" = some action →
      isActionName action = false → action.hasText = true := by
  unfold IsTold issues
  rw [hkind]
  dsimp only
  constructor
  -- an action that is no name is told of, and so it has to be text
  · rintro ⟨issues, h⟩ action haction hname
    have hhas := Entries.has_of_get?_eq_some haction
    have hget : n.data.get "action" = action := by rw [Entries.get, haction]; rfl
    have hne : n.data.isEmpty = false := by
      cases hdata : n.data with
      | nil => rw [hdata] at haction; cases haction
      | cons e es => rfl
    rw [hne, hhas, hget, hname] at h
    cases htext : action.hasText with
    | true => rfl
    | false => rw [htext] at h; cases h
  · intro h
    split
    · exact ⟨_, rfl⟩
    · split
      · rename_i hname
        simp only [Bool.and_eq_true, Bool.not_eq_true'] at hname
        obtain ⟨action, haction⟩ := Option.isSome_iff_exists.1 (Entries.has_eq_isSome_get? _ _ ▸ hname.1)
        have hget : n.data.get "action" = action := by rw [Entries.get, haction]; rfl
        rw [hget] at hname ⊢
        rw [if_pos (h action haction hname.2)]
        exact ⟨_, rfl⟩
      · exact ⟨_, rfl⟩

/-- As many nodes as there should be, whose issues can be told. -/
structure AllTold (limits : Limits) (count : Nat) (ns : List Node) : Prop where
  length : ns.length = count
  told : ∀ n ∈ ns, n.IsTold limits

namespace AllTold

variable {limits : Limits} {k l : Nat} {xs ys : List Node}

theorem nil : AllTold limits 0 [] := ⟨rfl, by simp⟩

theorem cons {n : Node} (hn : n.IsTold limits) (h : AllTold limits k xs) :
    AllTold limits (1 + k) (n :: xs) :=
  ⟨by rw [List.length_cons, h.length, Nat.add_comm], List.forall_mem_cons.2 ⟨hn, h.told⟩⟩

theorem append (hx : AllTold limits k xs) (hy : AllTold limits l ys) :
    AllTold limits (k + l) (xs ++ ys) :=
  ⟨by rw [List.length_append, hx.length, hy.length], List.forall_mem_append.2 ⟨hx.told, hy.told⟩⟩

end AllTold

namespace Program

open Reads Block

variable {limits : Limits} {α β : Type}

/-- A reading creates a number of nodes whenever there is room for them, and its result is good. -/
def Creates (limits : Limits) (count : Nat) (good : α → Prop) (r : Reads α) : Prop :=
  ∀ s : Intake, ((s.created.length + count : Nat) : Int) ≤ limits.maxGraphNodes →
    Yields r s fun a s' => s'.created.length = s.created.length + count ∧ good a

/-- A reading creates the nodes of its result, and the issues of each can be told. -/
def CreatesTold (limits : Limits) (count : Nat) (nodes : α → List Node) (r : Reads α) : Prop :=
  Creates limits count (fun a => AllTold limits count (nodes a)) r

namespace Creates

variable {count more : Nat} {good : α → Prop} {good' : β → Prop} {r : Reads α}

theorem pure {a : α} (h : good a) : Creates limits 0 good (pure a) := fun _ _ => .pure ⟨rfl, h⟩

theorem bind {f : α → Reads β} (h : Creates limits count good r)
    (hf : ∀ a, good a → Creates limits more good' (f a)) :
    Creates limits (count + more) good' (r >>= f) := by
  intro s hroom
  refine (h s (by omega)).bind fun a t ⟨ht, ha⟩ => ?_
  refine (hf a ha t (by omega)).mono fun b s' ⟨hs', hb⟩ => ⟨?_, hb⟩
  omega

theorem map {f : α → β} (h : Creates limits count good r) (hf : ∀ a, good a → good' (f a)) :
    Creates limits count good' (do return f (← r)) :=
  h.bind fun a ha => pure (hf a ha)

/-- A computation that succeeds creates nothing. -/
theorem lift_bind {o : Outcome α} {a : α} {f : α → Reads β} (ho : o = .ok a)
    (h : Creates limits count good' (f a)) : Creates limits count good' (lift o >>= f) := by
  intro s hroom
  refine Yields.bind (.lift ho ⟨rfl, rfl⟩ : Yields (lift o) s fun a' s' => a' = a ∧ s' = s) ?_
  rintro _ _ ⟨rfl, rfl⟩
  exact h _ hroom

/-- Notices that can be written create nothing. -/
theorem note_bind {notices : List Notice} {f : Unit → Reads β} (hcheck : Notice.check notices = .ok ())
    (h : Creates limits count good' (f ())) :
    Creates limits count good' (Reads.note notices >>= f) := by
  intro s hroom
  refine (Yields.note hcheck).bind fun _ t ht => ?_
  rw [← ht] at hroom ⊢
  exact h t hroom

/-- A node is created where there is room for one. -/
theorem create {kind : NodeKind} {data flags : Entries} {label : Value}
    (htold : ∀ n : Node, n.kind = kind → n.data = data → n.IsTold limits) :
    Creates limits 1 (fun n => n.IsTold limits) (create limits kind data label flags) := by
  intro s hroom
  have hnotFull : ¬ limits.maxGraphNodes ≤ s.created.length := by omega
  refine ⟨fresh s.created kind data label flags, { s with created := kind :: s.created }, ?_, rfl,
    htold _ rfl rfl⟩
  unfold Program.create
  rw [proceed_bind_of_ok (proceed_get s)]
  dsimp only
  rw [if_neg hnotFull]
  rfl

/-- Nodes that are created in a row. -/
theorem mapM {f : β → Reads Node} {xs : List β}
    (hf : ∀ x ∈ xs, Creates limits 1 (fun n => n.IsTold limits) (f x)) :
    CreatesTold limits xs.length id (xs.mapM f) := by
  induction xs with
  | nil => exact pure .nil
  | cons x xs ih =>
    obtain ⟨hx, hxs⟩ := List.forall_mem_cons.1 hf
    unfold CreatesTold
    rw [List.mapM_cons, List.length_cons, Nat.add_comm]
    exact hx.bind fun n hn => (ih hxs).map fun ns hns => .cons hn hns

end Creates

/-! ## Blocks -/

/-- The issues of a condition that was read can be told. -/
theorem isTold_of_normalize {v : Value} {data : Entries} (h : Condition.normalize limits v = .ok data)
    (n : Node) (hkind : n.kind = .condition) (hdata : n.data = data) : n.IsTold limits := by
  obtain ⟨c, hc, rfl⟩ := Condition.exists_of_normalize_eq_ok h
  obtain ⟨issues, hissues⟩ := hc.exists_issues (limits.maxConditionDepth + 1).toNat
  refine ⟨issues, ?_⟩
  unfold Node.issues
  rw [hkind, hdata]
  exact hissues

theorem isTold_of_payload {v : Value} {data : Entries} (h : Condition.payload limits v = .ok data)
    (n : Node) (hkind : n.kind = .condition) (hdata : n.data = data) : n.IsTold limits := by
  unfold Condition.payload at h
  split at h <;> exact isTold_of_normalize h n hkind hdata

/-- The keys that a graph cannot hold can be written when they are texts. -/
theorem check_extraKeys {es : Entries} (hkeyed : es.Keyed) (known : List String) (place : Place) :
    Notice.check ((es.filter fun e => !known.any (e.1.isText ·)).map fun e =>
      .unrepresentedKey place e.1) = .ok () := by
  refine Notice.check_of_forall fun notice hnotice v hv => ?_
  obtain ⟨e, he, rfl⟩ := List.mem_map.1 hnotice
  obtain ⟨name, hname⟩ := Value.isStr_iff.1 (hkeyed.isStr e (List.mem_filter.1 he).1)
  rw [List.mem_singleton.1 hv, hname]
  simp [Value.hasText]

section Inner

variable {inner : Inner} {es data : Entries} {place : Place} {k l : Nat}

/-- An if block is read when its conditions and its branches are. -/
theorem creates_readIf (hkeyed : es.Keyed)
    (hdata : Condition.payload limits (es.get "if") = .ok data)
    (hthen : CreatesTold limits k listNodes (inner (es.get "then") (place.field "then")))
    (helse : CreatesTold limits l listNodes (inner (es.get "else") (place.field "else"))) :
    CreatesTold limits (1 + (k + l)) Block.nodes (readIf limits inner es place) := by
  refine .note_bind (check_extraKeys hkeyed ..) (.lift_bind hdata ?_)
  refine (Creates.create (isTold_of_payload hdata)).bind fun n hn => ?_
  refine hthen.bind fun body hbody => helse.map fun otherwise hotherwise => ?_
  rw [Block.nodes, optionNodes, optionNodes, List.append_nil]
  exact .cons hn (hbody.append hotherwise)

/-- An option is read when its conditions and its body are. -/
theorem creates_readOption {flags : Entries} (hhas : es.has "conditions" = true)
    (hdata : Condition.payload limits (es.get "conditions") = .ok data)
    (hbody : CreatesTold limits k listNodes (inner (es.get "sequence") (place.field "sequence"))) :
    CreatesTold limits (1 + k) (fun o => o.1 :: listNodes o.2)
      (readOption limits inner flags (.ofEntries es) place) := by
  unfold readOption
  show Creates limits _ _ (if !es.has "conditions" then _ else _)
  rw [hhas]
  refine .lift_bind hdata ?_
  refine (Creates.create (isTold_of_payload hdata)).bind fun n hn => ?_
  exact hbody.map fun body hbody => .cons hn hbody

/-- A budget that is kept stops nothing. -/
theorem yields_checkBudget {began options : Nat} {s : Intake}
    (h : ((s.created.length - began : Nat) : Int) ≤ chooseBudget limits options) :
    Yields (checkBudget limits began options place) s fun _ s' => s' = s := by
  refine ⟨(), s, ?_, rfl⟩
  unfold checkBudget
  rw [proceed_bind_of_ok (proceed_get s)]
  dsimp only
  rw [if_neg (by omega)]
  rfl

/-- How many nodes options have, given the numbers in their bodies. -/
def optionCount (counts : List Nat) : Nat := (counts.map (1 + ·)).sum

/-- The options of a choose block that began at a number of nodes are read one after the other, as
long as they are within its budget. -/
theorem yields_readOptions {began size : Nat} {options : List Value} {counts : List Nat}
    (h : List.Forall₂ (fun option k => ∀ flags place,
      CreatesTold limits (1 + k) (fun o => o.1 :: listNodes o.2)
        (readOption limits inner flags option place)) options counts) (i : Nat) {s : Intake}
    (hroom : ((s.created.length + optionCount counts : Nat) : Int) ≤ limits.maxGraphNodes)
    (hbudget : ((s.created.length + optionCount counts - began : Nat) : Int)
      ≤ chooseBudget limits size) :
    Yields ((options.zipIdx i).mapM (readChecked limits inner es place began size)) s fun read s' =>
      s'.created.length = s.created.length + optionCount counts
        ∧ AllTold limits (optionCount counts) (optionNodes read) := by
  induction h generalizing i s with
  | nil => exact .pure ⟨rfl, .nil⟩
  | @cons option k options counts hoption _ ih =>
    have hcount : optionCount (k :: counts) = 1 + k + optionCount counts := rfl
    rw [hcount] at hroom hbudget ⊢
    rw [List.zipIdx_cons, List.mapM_cons]
    refine Yields.bind ((hoption (if i = 0 then Entry.flagsOf es else []) _ s (by omega)).bind
      fun branch t ⟨ht, hbranch⟩ => ?_) fun branch t (h : t.created.length = s.created.length + (1 + k)
        ∧ AllTold limits (1 + k) (branch.1 :: listNodes branch.2)) => ?_
    · -- the nodes of the options so far are within the budget, as those of all options are
      refine (yields_checkBudget (by omega)).bind fun _ u hu => .pure ?_
      rw [hu]
      exact ⟨ht, hbranch⟩
    · obtain ⟨ht, hbranch⟩ := h
      refine (ih (i + 1) (by omega) (by omega)).bind fun rest s' ⟨hs', hrest⟩ => .pure ⟨?_, ?_⟩
      · omega
      · exact hbranch.append hrest

/-- A choose block is read when its options are, and what is left otherwise, and all of it is within
the budget of the block. -/
theorem creates_readChoose (hkeyed : es.Keyed) {counts : List Nat}
    (hoptions : List.Forall₂ (fun option k => ∀ flags place,
      CreatesTold limits (1 + k) (fun o => o.1 :: listNodes o.2)
        (readOption limits inner flags option place)) (entriesOf (es.get "choose")) counts)
    (hdefault : CreatesTold limits l listNodes (inner (es.get "default") (place.field "default")))
    (hbudget : ((optionCount counts + l : Nat) : Int)
      ≤ chooseBudget limits (entriesOf (es.get "choose")).length) :
    CreatesTold limits (optionCount counts + l) Block.nodes (readChoose limits inner es place) := by
  rw [readChoose_eq]
  refine .note_bind (check_extraKeys hkeyed ..) fun s hroom => ?_
  dsimp only
  refine Yields.bind (⟨s, s, rfl, rfl, rfl⟩ : Yields get s fun t s' => t = s ∧ s' = s) ?_
  rintro _ _ ⟨rfl, rfl⟩
  refine (yields_readOptions hoptions 0 (by omega) (by omega)).bind fun read t ⟨ht, hread⟩ => ?_
  refine (hdefault t (by omega)).bind fun otherwise u ⟨hu, hotherwise⟩ => ?_
  refine (yields_checkBudget (by omega)).bind fun _ v hv => .pure ⟨?_, hread.append hotherwise⟩
  rw [hv]
  omega

end Inner

/-! ## Entries of blocks -/

variable (limits) in
/-- What reads the branches of an entry when some levels are left. -/
def innerOf : Nat → Option Inner
  | 0 => none
  | levels + 1 => some fun v place => readList limits levels v place

theorem readList_eq (levels : Nat) (entries : Value) (place : Place) :
    readList limits levels entries place = readEach (innerOf limits levels) limits entries place := by
  cases levels <;> rfl

section Kinds

variable {inner : Inner} {es : Entries} {place : Place}

theorem readEntry_ifBlock (h : Entry.kind es = .ifBlock) :
    readEntry limits (some inner) (.ofEntries es) place = readIf limits inner es place := by
  have hexpose : (Value.ofEntries es).expose = .map {} es := rfl
  unfold readEntry
  rw [hexpose]
  dsimp only
  rw [h]

theorem readEntry_chooseBlock (h : Entry.kind es = .chooseBlock) :
    readEntry limits (some inner) (.ofEntries es) place = readChoose limits inner es place := by
  have hexpose : (Value.ofEntries es).expose = .map {} es := rfl
  unfold readEntry
  rw [hexpose]
  dsimp only
  rw [h]

end Kinds

variable {g : Graph}

/-- A step is read again, and its issues can be told as before. -/
theorem creates_step (hg : g.Legible limits)
    (hmodern : ∀ n ∈ g.nodes, n.kind = .action → n.data.has "service" = false)
    (htold : ∀ n ∈ g.nodes, n.IsTold limits) {n : Node} (hn : n ∈ g.nodes)
    (htrigger : n.kind.isTrigger = false) (inner? : Option Inner) (place : Place) :
    CreatesTold limits 1 Block.nodes (readEntry limits inner? (.ofEntries n.data) place) := by
  have hexpose : (Value.ofEntries n.data).expose = .map {} n.data := rfl
  have hkind := kind_data hg.told hn htrigger
  unfold readEntry
  rw [hexpose]
  dsimp only
  rw [hkind]
  cases hcondition : n.kind.isCondition with
  | true =>
    obtain ⟨data, hdata, -⟩ := hg.normal n hn hcondition
    refine .lift_bind hdata ?_
    exact (Creates.create (isTold_of_normalize hdata)).map fun m hm => .cons hm .nil
  | false =>
    have hends := hg.ends n hn
    rw [← Entry.isEndlessStep_apart _ place] at hends
    refine .lift_bind (Entry.renewStep_eq_ok_iff.2 ⟨hends, rfl⟩) ?_
    refine .note_bind (Entry.check_modernStep ..) ?_
    refine (Creates.create fun m hm hdata => ?_).map fun m hm => .cons hm .nil
    -- what there is to say about an action depends on its name, and about other steps on nothing
    cases hk : n.kind with
    | trigger => rw [hk] at htrigger; cases htrigger
    | condition => rw [hk] at hcondition; cases hcondition
    | action =>
      have haction := hmodern n hn hk
      rw [Node.isTold_action_iff (hm.trans hk), hdata, hk, Entry.get?_modernStep_action haction]
      exact (Node.isTold_action_iff hk).1 (htold n hn)
    | delay | wait | setVariables | foreign =>
      unfold Node.IsTold Node.issues
      rw [hm, hk]
      exact ⟨_, rfl⟩

/-- Blocks of a graph that a reader can read with some levels left. -/
structure Readable (limits : Limits) (g : Graph) (levels : Nat) (bs : List Block) : Prop where
  shaped : ListShaped bs
  inside : Inside g (listNodes bs)
  affordable : listAffordable limits bs = true
  depth : listDepth bs ≤ levels

namespace Readable

variable {levels : Nat} {b : Block} {bs : List Block}

theorem head (h : Readable limits g levels (b :: bs)) : Readable limits g levels [b] where
  shaped := ⟨h.shaped.1, trivial⟩
  inside := fun n hn => h.inside n <| by
    rw [listNodes, listNodes, List.append_nil] at hn
    exact List.mem_append_left _ hn
  affordable := by
    have haffordable := h.affordable
    rw [listAffordable, Bool.and_eq_true] at haffordable
    rw [listAffordable, haffordable.1]
    rfl
  depth := Nat.max_le.2 ⟨(Nat.max_le.1 h.depth).1, Nat.zero_le _⟩

theorem tail (h : Readable limits g levels (b :: bs)) : Readable limits g levels bs where
  shaped := h.shaped.2
  inside := fun n hn => h.inside n (List.mem_append_right _ hn)
  affordable := by
    have haffordable := h.affordable
    rw [listAffordable, Bool.and_eq_true] at haffordable
    exact haffordable.2
  depth := (Nat.max_le.1 h.depth).2

/-- A branch is read with one level less. -/
theorem of_branch (h : Readable limits g levels [b]) {branch : List Block}
    (hmem : branch ∈ b.branches) :
    ∃ inside, levels = inside + 1 ∧ Readable limits g inside branch := by
  cases b with
  | step n => cases hmem
  | choice options otherwise =>
    obtain ⟨⟨-, hoptions, hotherwise⟩, -⟩ := h.shaped
    have haffordable := h.affordable
    simp only [listAffordable, Block.affordable, optionsAffordable_eq_all, Bool.and_eq_true,
      List.all_eq_true] at haffordable
    have hdepth := h.depth
    simp only [listDepth, Block.depth, Nat.max_le] at hdepth
    -- a choice takes a level, so one is left for it
    obtain ⟨inside, rfl⟩ : ∃ inside, levels = inside + 1 :=
      Nat.exists_eq_add_one_of_ne_zero (by omega)
    have hnodes : Inside g (listNodes branch) := fun n hn =>
      h.inside n (List.mem_append_left _ (mem_nodes_of_branch hmem hn))
    refine ⟨inside, rfl, ?_⟩
    rcases List.mem_append.1 hmem with hmem | hmem
    · obtain ⟨o, ho, rfl⟩ := List.mem_map.1 hmem
      refine ⟨(optionsShaped_iff.1 hoptions o ho).2, hnodes, haffordable.1.1.2 o ho, ?_⟩
      refine optionsDepth_le_iff.1 ?_ o ho
      omega
    · obtain rfl := List.mem_singleton.1 hmem
      exact ⟨hotherwise, hnodes, haffordable.1.2, by omega⟩

end Readable

/-- Entries that are read with some levels left wherever they stand. -/
def ReadsBlocks (limits : Limits) (levels : Nat) (bs : List Block) : Prop :=
  ∀ v place, entriesOf v = listValues bs →
    CreatesTold limits (listNodes bs).length listNodes (readList limits levels v place)

section Choices

variable {levels : Nat} {n : Node} {body otherwise : List Block}
  {options : List (Node × List Block)}

/-- The conditions of a node are read from the entry of a block. -/
theorem exists_payload_conditionsOf (hg : g.Legible limits) (hn : n ∈ g.nodes)
    (hcondition : n.kind.isCondition = true) :
    ∃ data, Condition.payload limits (conditionsOf n) = .ok data := by
  obtain ⟨data, hdata, hsame⟩ := hg.normal n hn hcondition
  have hnormal : Condition.IsNormal limits n.data := ⟨data, hdata, hsame⟩
  exact ⟨data, by rw [hnormal.payload_conditionsOf (hg.once n hn), hdata]⟩

/-- The entry of an if block is read when its branches are. -/
theorem creates_ifEntry (hg : g.Legible limits) (hn : n ∈ g.nodes)
    (hcondition : n.kind.isCondition = true) (hbody : ReadsBlocks limits levels body)
    (hotherwise : ReadsBlocks limits levels otherwise) (place : Place) :
    CreatesTold limits (1 + ((listNodes body).length + (listNodes otherwise).length)) Block.nodes
      (readIf limits (fun v place => readList limits levels v place)
        (ifEntry n (listValues body) (listValues otherwise)) place) := by
  obtain ⟨data, hdata⟩ := exists_payload_conditionsOf hg hn hcondition
  have hif : Condition.payload limits
      (Entries.get (ifEntry n (listValues body) (listValues otherwise)) "if") = .ok data := by
    rw [Entries.get, get?_ifEntry_if]
    exact hdata
  refine creates_readIf (keyed_ifEntry (hg.keyed n hn hcondition)) hif (hbody _ _ ?_)
    (hotherwise _ _ (entriesOf_get_ifEntry_else (hg.flags n hn hcondition).2.1))
  rw [Entries.get, get?_ifEntry_then]
  rfl

theorem length_optionNodes (options : List (Node × List Block)) :
    (optionNodes options).length = optionCount (options.map fun o => (listNodes o.2).length) := by
  induction options with
  | nil => rfl
  | cons o options ih =>
    rw [optionNodes, List.length_append, ih, List.length_cons, Nat.add_comm _ 1]
    rfl

/-- The entry of a choose block is read when its branches are, and its nodes are within its
budget. -/
theorem creates_chooseEntry (hg : g.Legible limits) {flags : Entries} (hflags : flags.Keyed)
    (hdefault : flags.has "default" = false)
    (hconditions : ∀ o ∈ options, o.1 ∈ g.nodes ∧ o.1.kind.isCondition = true)
    (hbodies : ∀ o ∈ options, ReadsBlocks limits levels o.2)
    (hotherwise : ReadsBlocks limits levels otherwise)
    (hbudget : (((optionNodes options).length + (listNodes otherwise).length : Nat) : Int)
      ≤ chooseBudget limits options.length) (place : Place) :
    CreatesTold limits ((optionNodes options).length + (listNodes otherwise).length) Block.nodes
      (readChoose limits (fun v place => readList limits levels v place)
        (chooseEntry flags (options.map fun o => .ofEntries (optionEntry o.1 (listValues o.2)))
          (listValues otherwise)) place) := by
  -- the options are found where they were written
  have hvalues : entriesOf (Entries.get (chooseEntry flags
      (options.map fun o => .ofEntries (optionEntry o.1 (listValues o.2)))
      (listValues otherwise)) "choose")
      = options.map fun o => .ofEntries (optionEntry o.1 (listValues o.2)) := by
    rw [Entries.get, get?_chooseEntry_choose]
    rfl
  have hkeyed : (chooseEntry flags (options.map fun o =>
      .ofEntries (optionEntry o.1 (listValues o.2))) (listValues otherwise)).Keyed :=
    keyed_setAny ((Entries.keyed_nil.merge hflags).set ..) ..
  rw [length_optionNodes] at hbudget ⊢
  refine creates_readChoose hkeyed ?_ (hotherwise _ _ (entriesOf_get_chooseEntry_default hdefault)) ?_
  · rw [hvalues, List.forall₂_map_left_iff, List.forall₂_map_right_iff, List.forall₂_same]
    intro o ho flags place
    obtain ⟨hn, hcondition⟩ := hconditions o ho
    obtain ⟨data, hdata⟩ := exists_payload_conditionsOf hg hn hcondition
    have hfield : Condition.payload limits
        (Entries.get (optionEntry o.1 (listValues o.2)) "conditions") = .ok data := by
      rw [Entries.get, get?_optionEntry (by decide)]
      exact hdata
    refine creates_readOption (Entries.has_of_get?_eq_some (get?_optionEntry (by decide))) hfield
      (hbodies o ho _ _ ?_)
    rw [Entries.get, get?_optionEntry (by decide)]
    rfl
  · rw [hvalues, List.length_map]
    exact hbudget

/-- The entry of a choice is read when its branches are. -/
theorem creates_choice (hg : g.Legible limits)
    (h : Readable limits g (levels + 1) [.choice options otherwise])
    (hbranches : ∀ branch ∈ (Block.choice options otherwise).branches,
      ReadsBlocks limits levels branch) (place : Place) :
    CreatesTold limits (Block.nodes (.choice options otherwise)).length Block.nodes
      (readEntry limits (innerOf limits (levels + 1))
        (.ofEntries (toEntries (.choice options otherwise))) place) := by
  have hshaped := h.shaped.1
  have hnodes : Inside g (Block.nodes (.choice options otherwise)) := fun n hn =>
    h.inside n (List.mem_append_left _ hn)
  have hbodies : ∀ o ∈ options, ReadsBlocks limits levels o.2 := fun o ho =>
    hbranches o.2 (List.mem_append_left _ (List.mem_map_of_mem ho))
  have hotherwise := hbranches otherwise (List.mem_append_right _ (List.mem_singleton.2 rfl))
  rw [Block.nodes, List.length_append, innerOf]
  -- one option makes an if block, and more make a choose block, which has a budget
  rcases toEntries_choice hg.told hshaped hnodes with
    ⟨hkind, n, body, rfl⟩ | ⟨hkind, o, rest, rfl, ho, hcondition, htext⟩
  · obtain ⟨hn, -⟩ := hnodes n List.mem_cons_self
    have hcount : (optionNodes [(n, body)]).length + (listNodes otherwise).length
        = 1 + ((listNodes body).length + (listNodes otherwise).length) := by
      simp only [optionNodes, List.length_append, List.length_cons, List.length_nil]
      omega
    rw [readEntry_ifBlock hkind, toEntries_choice_singleton, hcount]
    exact creates_ifEntry hg hn hshaped.2.1.1 (hbodies _ List.mem_cons_self) hotherwise place
  · have hmany : (o :: rest).length ≠ 1 := by
      intro hone
      obtain rfl := List.eq_nil_of_length_eq_zero (Nat.succ.inj hone)
      rw [toEntries_choice_singleton o.1 o.2, kind_ifEntry] at hkind
      cases hkind
    have hbudget := h.affordable
    simp only [listAffordable, Block.affordable, Bool.and_eq_true, Bool.or_eq_true, beq_iff_eq,
      decide_eq_true_eq, List.length_append] at hbudget
    have hconditions : ∀ o' ∈ o :: rest, o'.1 ∈ g.nodes ∧ o'.1.kind.isCondition = true :=
      fun o' ho' => ⟨(hnodes o'.1 (List.mem_append_left _ (mem_optionNodes.2 ⟨o', ho', .inl rfl⟩))).1,
        (optionsShaped_iff.1 hshaped.2.1 o' ho').1⟩
    rw [readEntry_chooseBlock hkind, htext]
    exact creates_chooseEntry hg (hg.keyed o.1 ho hcondition) (hg.flags o.1 ho hcondition).2.2 hconditions
      hbodies hotherwise (hbudget.1.1.1.resolve_left hmany) place

end Choices

section Lists

variable (hg : g.Legible limits)
  (hmodern : ∀ n ∈ g.nodes, n.kind = .action → n.data.has "service" = false)
  (htold : ∀ n ∈ g.nodes, n.IsTold limits)

include hg hmodern htold

/-- The entries of blocks are read one after the other. -/
theorem creates_entries {levels : Nat} {bs : List Block} (h : Readable limits g levels bs)
    (place : Place) (i : Nat) :
    CreatesTold limits (listNodes bs).length listNodes (((listValues bs).zipIdx i).mapM fun entry =>
      readEntry limits (innerOf limits levels) entry.1 (place.item entry.2)) := by
  -- on the blocks, with the branches of a block in the hypothesis as well as what is behind it
  induction bs using induction_branches generalizing levels place i with
  | nil => exact .pure .nil
  | cons b bs ihBranches ih =>
    have hfirst : CreatesTold limits (Block.nodes b).length Block.nodes
        (readEntry limits (innerOf limits levels) (.ofEntries (toEntries b)) (place.item i)) := by
      cases b with
      | step n =>
        obtain ⟨hn, htrigger⟩ := h.inside n List.mem_cons_self
        exact creates_step hg hmodern htold hn htrigger _ _
      | choice options otherwise =>
        have hlast : otherwise ∈ (Block.choice options otherwise).branches :=
          List.mem_append_right _ (List.mem_singleton.2 rfl)
        obtain ⟨inside, rfl, -⟩ := h.head.of_branch hlast
        refine creates_choice hg h.head (fun branch hmem v place hv => ?_) _
        obtain ⟨_, hinside, hbranch⟩ := h.head.of_branch hmem
        cases hinside
        rw [readList_eq, readEach, hv]
        exact ihBranches branch hmem hbranch place 0
    unfold CreatesTold
    rw [listValues, List.zipIdx_cons, List.mapM_cons, listNodes, List.length_append]
    exact hfirst.bind fun first hfirst => (ih h.tail place (i + 1)).map fun rest hrest =>
      hfirst.append hrest

/-- Blocks that can be read with some levels left are read. -/
theorem readsBlocks {levels : Nat} {bs : List Block} (h : Readable limits g levels bs) :
    ReadsBlocks limits levels bs := by
  intro v place hv
  rw [readList_eq, readEach, hv]
  exact creates_entries hg hmodern htold h place 0

/-- The sections that a program is written as are read, and there are as many nodes as before. -/
theorem creates_read {p : Program} (hp : g.Programmed p)
    (hbody : Readable limits g limits.maxNesting.toNat p.body) {actions : List Entries}
    (hactions : p.actions = actions.map .ofEntries) :
    CreatesTold limits p.nodes.length Program.nodes
      (read limits (p.triggers.map (·.data)) (payloads p.gates) actions) := by
  have hmem {n : Node} (hn : n ∈ p.nodes) : n ∈ g.nodes := ((hp.mem_iff n).1 hn).1
  -- triggers, gates and the body are read one after the other, and each creates its nodes
  have htriggers : CreatesTold limits p.triggers.length id
      ((p.triggers.map (·.data)).mapM fun data => create limits .trigger data .null []) := by
    have hall : ∀ data ∈ p.triggers.map (·.data),
        Creates limits 1 (fun n => n.IsTold limits) (create limits .trigger data .null []) := by
      intro data hdata
      obtain ⟨t, ht, rfl⟩ := List.mem_map.1 hdata
      refine .create fun n hkind hdata => ?_
      have htold' := htold t (hmem (List.mem_append_left _ (List.mem_append_left _ ht)))
      rw [hp.triggers] at ht
      exact htold'.of_eq (hkind.trans (NodeKind.isTrigger_iff.1 (List.mem_filter.1 ht).2).symm) hdata
    simpa using Creates.mapM hall
  have hgates : CreatesTold limits p.gates.length id ((payloads p.gates).mapM fun v => do
      let data ← lift (Condition.normalize limits v)
      create limits .condition data .null []) := by
    have hall : ∀ v ∈ payloads p.gates, Creates limits 1 (fun n => n.IsTold limits) (do
        let data ← lift (Condition.normalize limits v)
        create limits .condition data .null []) := by
      intro v hv
      obtain ⟨gate, hgate, rfl⟩ := List.mem_map.1 hv
      have hn := hmem (List.mem_append_left _ (List.mem_append_right _ hgate))
      have hcondition := (Graph.isGate_iff.1 (hp.gates gate hgate)).1
      obtain ⟨data, hdata, -⟩ := hg.normal gate hn hcondition
      exact .lift_bind hdata (.create (isTold_of_normalize hdata))
    simpa [payloads] using Creates.mapM hall
  have hcount : p.nodes.length
      = p.triggers.length + (p.gates.length + (listNodes p.body).length) := by
    simp [Program.nodes]
  have hlist := readsBlocks hg hmodern htold hbody (.ofItems (actions.map .ofEntries))
    { root := "actions" } hactions.symm
  unfold read CreatesTold
  rw [hcount]
  refine htriggers.bind fun ts hts => hgates.bind fun gs hgs => hlist.map fun bs hbs => ?_
  rw [Program.nodes, List.append_assoc]
  exact hts.append (hgs.append hbs)

end Lists

end Program

end Automation
